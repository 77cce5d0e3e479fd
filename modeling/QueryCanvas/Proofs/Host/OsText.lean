import Mathlib.Data.List.Basic
import QueryCanvas.Host.Path

/-!
# Texts among the texts of the system

A text can be told from its bytes, which are shown as it (`OsText.shown_ofString`). Bytes that are
shown without replacement characters are those of a text (`OsText.ofString_shown_of_notMem`), and no
slash is shown where no byte is one (`OsText.slash_notMem_shown`).
-/

namespace QueryCanvas.OsText

open Path.Alphabet

variable {text other : String} {path : OsText} {bytes : List UInt8} {c : Char}

/-! ## Reading and writing characters -/

/-- A character is read at the start of its bytes. -/
theorem decode_append (c : Char) (rest : List UInt8) :
    (String.utf8EncodeChar c ++ rest).toByteArray.utf8DecodeChar? 0 = some c := by
  rw [List.toByteArray_append]
  exact ByteArray.utf8DecodeChar?_utf8EncodeChar_append

/-- What is read at the start of bytes has its bytes there. -/
theorem exists_of_decode (h : bytes.toByteArray.utf8DecodeChar? 0 = some c) :
    ∃ rest, bytes = String.utf8EncodeChar c ++ rest := by
  obtain ⟨rest, hrest⟩ := ByteArray.exists_of_utf8DecodeChar?_eq_some h
  refine ⟨rest.data.toList, ?_⟩
  have hdata := congrArg (fun array => array.data.toList) hrest
  simpa [List.data_toByteArray] using hdata

/-- The bytes of a character are shown as that character. -/
theorem shownChars_append (c : Char) (rest : List UInt8) :
    shownChars (String.utf8EncodeChar c ++ rest) = c :: shownChars rest := by
  have hne : String.utf8EncodeChar c ++ rest ≠ [] := by simp
  rw [shownChars, if_neg hne, decode_append]
  simp only [← String.length_utf8EncodeChar, List.drop_left]

/-- The bytes of a text are shown as that text. -/
@[simp] theorem shown_ofString (text : String) : (ofString text).shown = text := by
  have hchars : ∀ cs : List Char, shownChars (cs.flatMap String.utf8EncodeChar) = cs := by
    intro cs
    induction cs with
    | nil => rw [List.flatMap_nil, shownChars, if_pos rfl]
    | cons c cs ih => rw [List.flatMap_cons, shownChars_append, ih]
  rw [shown, ofString, hchars, String.ofList_toList]

@[simp] theorem ofString_inj : ofString text = ofString other ↔ text = other := by
  constructor
  · intro h
    rw [← shown_ofString text, h, shown_ofString]
  · intro h
    rw [h]

theorem bytes_inj : (ofString text).bytes = (ofString other).bytes ↔ text = other := by
  rw [← ofString_inj, ofString, ofString, OsText.mk.injEq]

/-- Bytes that are shown without replacements are those of a text. -/
theorem ofString_shown_of_notMem (h : '\uFFFD' ∉ path.shown.toList) :
    ofString path.shown = path := by
  have hbytes : ∀ bytes : List UInt8, '\uFFFD' ∉ shownChars bytes →
      (shownChars bytes).flatMap String.utf8EncodeChar = bytes := by
    intro bytes
    fun_induction shownChars bytes with
    | case1 => intro _; rfl
    | case2 bytes hne c hread ih =>
        intro hkept
        rw [List.mem_cons, not_or] at hkept
        obtain ⟨rest, hrest⟩ := exists_of_decode hread
        have hdrop : bytes.drop c.utf8Size = rest := by
          rw [hrest, ← String.length_utf8EncodeChar, List.drop_left]
        rw [List.flatMap_cons, ih hkept.2, hdrop, hrest]
    | case3 bytes hne hstray ih =>
        intro hkept
        exact absurd List.mem_cons_self hkept
  rw [shown, String.toList_ofList] at h
  rw [shown, ofString, String.toList_ofList, hbytes path.bytes h]

/-- The text of a path is the one that has its bytes. -/
theorem text?_eq_some_iff : path.text? = some text ↔ path = ofString text := by
  have hbytes : text.toByteArray = (ofString text).bytes.toByteArray := by
    conv_lhs => rw [← String.ofList_toList (s := text), String.toByteArray_ofList]
    rfl
  unfold text? String.fromUTF8?
  rw [Option.dite_none_right_eq_some]
  constructor
  · intro h
    obtain ⟨hvalid, hsome⟩ := h
    have hsame : path.bytes.toByteArray = text.toByteArray := by
      rw [← Option.some.inj hsome]
      rfl
    rw [hbytes, List.toByteArray_inj] at hsame
    exact congrArg OsText.mk hsame
  · intro h
    subst h
    have hvalid : (ofString text).bytes.toByteArray.IsValidUTF8 := by
      rw [← hbytes]
      exact text.isValidUTF8
    refine ⟨hvalid, ?_⟩
    rw [Option.some.injEq, ← String.toByteArray_inj, hbytes]
    rfl

/-! ## Slashes -/

/-- Only a slash has the byte of a slash. -/
theorem slash_mem_utf8EncodeChar : (slash : UInt8) ∈ String.utf8EncodeChar c ↔ c = '/' := by
  have hchar : c = '/' ↔ c.val.toNat = 47 := by
    rw [← Char.val_inj, ← UInt32.toNat_inj]
    rfl
  have hbyte : ∀ value : Nat, (slash : UInt8) = UInt8.ofNat value ↔ value % 256 = 47 := by
    intro value
    rw [← UInt8.toNat_inj, UInt8.toNat_ofNat', eq_comm]
    rfl
  rw [hchar]
  unfold String.utf8EncodeChar
  dsimp only
  split_ifs <;> simp only [List.mem_cons, List.not_mem_nil, or_false, hbyte] <;> omega

/-- A text has a slash exactly if its bytes have one. -/
theorem slash_mem_ofString : (slash : UInt8) ∈ (ofString text).bytes ↔ '/' ∈ text.toList := by
  simp [ofString, slash_mem_utf8EncodeChar]

/-- No slash is shown where no byte is one. -/
theorem slash_notMem_shown (h : slash ∉ path.bytes) : '/' ∉ path.shown.toList := by
  have hchars : ∀ bytes : List UInt8, slash ∉ bytes → '/' ∉ shownChars bytes := by
    intro bytes
    fun_induction shownChars bytes with
    | case1 => simp
    | case2 bytes hne c hread ih =>
        intro hbytes
        obtain ⟨rest, hrest⟩ := exists_of_decode hread
        have hchar : c ≠ '/' := by
          intro hslash
          rw [hrest, List.mem_append, not_or] at hbytes
          exact hbytes.1 (slash_mem_utf8EncodeChar.mpr hslash)
        rw [List.mem_cons, not_or]
        refine ⟨hchar.symm, ih ?_⟩
        intro hlater
        exact hbytes (List.mem_of_mem_drop hlater)
    | case3 bytes hne hstray ih =>
        intro hbytes
        rw [List.mem_cons, not_or]
        refine ⟨by decide, ih ?_⟩
        intro hlater
        exact hbytes (List.mem_of_mem_drop hlater)
  rw [shown, String.toList_ofList]
  exact hchars path.bytes h

end QueryCanvas.OsText
