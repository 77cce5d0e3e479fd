import Mathlib.Data.List.Basic
import QueryCanvas.Canvas.Handle

/-!
# The two readers of handles

A handle is read twice: when a connection is drawn, by `Handle.parse?`, and when joins are
inferred, by `fieldOf?`, which knows the node and strips it. Both work because digits, field and
side are told apart in one way only (`handleParts_unique`), whatever dashes, digits or side names
the field holds. `Handle.parse?_eq_some_iff` and `fieldOf?_eq_some_iff` say exactly what each of the
readers accepts.
-/

namespace QueryCanvas

/-- A list ends with a tail exactly if taking the tail off leaves the rest. -/
theorem isSuffixOf?_eq_some_iff {α : Type} [BEq α] [LawfulBEq α] {tail cs rest : List α} :
    tail.isSuffixOf? cs = some rest ↔ cs = rest ++ tail := by
  rw [List.isSuffixOf?, Option.map_eq_some_iff]
  constructor
  · rintro ⟨reversed, hstart, rfl⟩
    have happend := List.isPrefixOf?_eq_some_iff_append_eq.mp hstart
    rw [← List.reverse_reverse cs, ← happend]
    simp
  · rintro rfl
    exact ⟨rest.reverse, List.isPrefixOf?_eq_some_iff_append_eq.mpr (by simp), by simp⟩

/-- No text ends with the tails of both sides. -/
theorem HandleSide.tail_disjoint (first second : List Char) :
    first ++ HandleSide.source.tail ≠ second ++ HandleSide.target.tail := by
  intro h
  -- The tails already differ in their last letter.
  have hlast := congrArg List.getLast? h
  simp [HandleSide.tail, HandleSide.name] at hlast

/-- The part before the tail of a side is found exactly if the characters end with that tail. -/
theorem splitSide?_eq_some_iff {cs field : List Char} {side : HandleSide} :
    splitSide? cs = some (field, side) ↔ cs = field ++ side.tail := by
  unfold splitSide?
  split
  · rename_i found hsource
    rw [isSuffixOf?_eq_some_iff] at hsource
    subst hsource
    cases side with
    | source => simp
    | target => simpa using HandleSide.tail_disjoint found field
  · rename_i hsource
    have hnone : ∀ rest, cs ≠ rest ++ HandleSide.source.tail := by
      intro rest hcs
      rw [isSuffixOf?_eq_some_iff.mpr hcs] at hsource
      cases hsource
    cases side with
    | source =>
        have hne := hnone field
        split <;> simpa using hne
    | target =>
        rw [← isSuffixOf?_eq_some_iff]
        split <;> simp [*]

section Parts

variable {holds : Char → Bool} {digits : List Char}

/-- Digits end before the first dash. -/
theorem takeWhile_before_dash (hdash : holds '-' = false) (hdigits : ∀ c ∈ digits, holds c = true)
    (rest : List Char) : (digits ++ '-' :: rest).takeWhile holds = digits := by
  rw [List.takeWhile_append_of_pos hdigits, List.takeWhile_cons_of_neg (by simp [hdash]),
    List.append_nil]

theorem dropWhile_before_dash (hdash : holds '-' = false) (hdigits : ∀ c ∈ digits, holds c = true)
    (rest : List Char) : (digits ++ '-' :: rest).dropWhile holds = '-' :: rest := by
  rw [List.dropWhile_append_of_pos hdigits, List.dropWhile_cons_of_neg (by simp [hdash])]

/-- Characters are digits, a dash, a field and the tail of a side in one way only, whatever counts
as a digit beside the dash. -/
theorem handleParts_unique {more field other : List Char} {side last : HandleSide}
    (hdash : holds '-' = false) (hdigits : ∀ c ∈ digits, holds c = true)
    (hmore : ∀ c ∈ more, holds c = true)
    (hsame : digits ++ '-' :: (field ++ side.tail) = more ++ '-' :: (other ++ last.tail)) :
    digits = more ∧ field = other ∧ side = last := by
  have htake := congrArg (List.takeWhile holds) hsame
  rw [takeWhile_before_dash hdash hdigits, takeWhile_before_dash hdash hmore] at htake
  subst htake
  have htail : field ++ side.tail = other ++ last.tail :=
    (List.cons.inj (List.append_cancel_left hsame)).2
  have hsplit := splitSide?_eq_some_iff.mpr htail
  rw [splitSide?_eq_some_iff.mpr rfl, Option.some.injEq, Prod.mk.injEq] at hsplit
  exact ⟨rfl, hsplit⟩

end Parts

namespace Handle

/-- A written handle is made of the digits of its node, a dash, its field and the tail of its
side. -/
theorem toList_encode (h : Handle) :
    h.encode.toList = (nodeText h.node).toList ++ '-' :: (h.field.toList ++ h.side.tail) := by
  simp [encode, HandleSide.tail]

/-- A handle is read exactly if the text is made of digits that write its node, a dash, its field
and the tail of its side, and the field is not empty and has no line feed. -/
theorem parse?_eq_some_iff {text : String} {h : Handle} :
    parse? text = some h ↔
      ∃ digits, text.toList = digits ++ '-' :: (h.field.toList ++ h.side.tail) ∧ digits ≠ [] ∧
        (∀ c ∈ digits, c.isDigit = true) ∧ digitsNumber digits = h.node.toNat ∧ h.field ≠ "" ∧
        '\n' ∉ h.field.toList := by
  constructor
  · intro hparse
    simp only [parse?] at hparse
    split at hparse
    · rename_i rest hrest
      split at hparse
      · rename_i field side hsplit
        split at hparse
        · rename_i hguard
          obtain ⟨hdigits, hnumber, hfield, hline⟩ := hguard
          cases hparse
          refine ⟨text.toList.takeWhile Char.isDigit, ?_, hdigits, ?_, ?_, ?_, ?_⟩
          · rw [String.toList_ofList, ← splitSide?_eq_some_iff.mp hsplit, ← hrest,
              List.takeWhile_append_dropWhile]
          · intro c hc
            exact List.all_eq_true.mp List.all_takeWhile c hc
          · exact (UInt64.toNat_ofNat_of_lt' hnumber).symm
          · simpa using hfield
          · simpa using hline
        · cases hparse
      · cases hparse
    · cases hparse
  · rintro ⟨digits, htext, hne, hdigits, hnumber, hfield, hline⟩
    have hsplit : splitSide? (h.field.toList ++ h.side.tail) = some (h.field.toList, h.side) :=
      splitSide?_eq_some_iff.mpr rfl
    simp only [parse?, htext, takeWhile_before_dash rfl hdigits, dropWhile_before_dash rfl hdigits,
      hsplit, hnumber]
    rw [if_pos ⟨hne, h.node.toNat_lt, by simpa using hfield, hline⟩]
    simp

/-- No handle is read without a field. -/
theorem field_ne_of_parse? {text : String} {h : Handle} (hparse : parse? text = some h) :
    h.field ≠ "" := by
  obtain ⟨_, _, _, _, _, hfield, _⟩ := parse?_eq_some_iff.mp hparse
  exact hfield

end Handle

/-! ## Written handles -/

/-- Digits write the number that a numeral stands for. -/
theorem digitsNumber_eq_ofDigitChars (digits : List Char) :
    digitsNumber digits = Nat.ofDigitChars 10 digits 0 := by
  simp only [digitsNumber, Nat.ofDigitChars, Nat.mul_comm _ 10]

/-- The decimal digits of a number write that number. -/
theorem digitsNumber_toDigits (n : Nat) : digitsNumber (Nat.toDigits 10 n) = n := by
  rw [digitsNumber_eq_ofDigitChars, Nat.ofDigitChars_ten_toDigits]

theorem toList_nodeText (node : NodeId) : (nodeText node).toList = Nat.toDigits 10 node.toNat := by
  simp [nodeText]

/-- A written node consists of digits. -/
theorem isDigit_of_mem_nodeText {node : NodeId} {c : Char} (hc : c ∈ (nodeText node).toList) :
    c.isDigit = true := by
  rw [toList_nodeText] at hc
  exact Nat.isDigit_of_mem_toDigits (by decide) (by decide) hc

/-- The digits of a written node are there and give the node back. -/
theorem digits_nodeText (node : NodeId) :
    (nodeText node).toList ≠ [] ∧ digitsNumber (nodeText node).toList = node.toNat := by
  rw [toList_nodeText]
  exact ⟨Nat.toDigits_ne_nil, digitsNumber_toDigits node.toNat⟩

namespace Handle

/-- Handles with the same parts are the same. -/
theorem eq_of_parts {first second : Handle} (hnode : first.node.toNat = second.node.toNat)
    (hfield : first.field.toList = second.field.toList) (hside : first.side = second.side) :
    first = second := by
  rw [UInt64.toNat_inj] at hnode
  rw [String.toList_inj] at hfield
  cases first
  cases second
  simp_all

/-- Different handles are written differently. -/
theorem encode_injective : Function.Injective encode := by
  intro first second hsame
  have hparts := congrArg String.toList hsame
  rw [toList_encode, toList_encode] at hparts
  obtain ⟨hdigits, hfield, hside⟩ := handleParts_unique rfl (fun _ => isDigit_of_mem_nodeText)
    (fun _ => isDigit_of_mem_nodeText) hparts
  refine eq_of_parts ?_ hfield hside
  rw [← (digits_nodeText first.node).2, hdigits, (digits_nodeText second.node).2]

/-- A written handle is read back, unless its field is empty or holds a line feed; then it is not
read at all. -/
theorem parse?_encode (h : Handle) :
    parse? h.encode = if h.field ≠ "" ∧ '\n' ∉ h.field.toList then some h else none := by
  obtain ⟨hnonempty, hnumber⟩ := digits_nodeText h.node
  have hdigits : ∀ c ∈ (nodeText h.node).toList, c.isDigit = true :=
    fun _ => isDigit_of_mem_nodeText
  split
  · rename_i hfield
    exact parse?_eq_some_iff.mpr
      ⟨_, h.toList_encode, hnonempty, hdigits, hnumber, hfield⟩
  · rename_i hfield
    rw [Option.eq_none_iff_forall_ne_some]
    intro other hparse
    -- Whatever is read has the same field.
    obtain ⟨digits, hother, -, hotherDigits, -, hread⟩ := parse?_eq_some_iff.mp hparse
    obtain ⟨-, hsame, -⟩ :=
      handleParts_unique rfl hdigits hotherDigits (h.toList_encode.symm.trans hother)
    rw [← String.toList_inj.mp hsame] at hread
    exact hfield hread

end Handle

/-! ## The second reader -/

/-- A handle names a field of a node exactly if it is written with that node, that field and one of
the sides. -/
theorem fieldOf?_eq_some_iff {node : NodeId} {handle field : String} :
    fieldOf? node handle = some field ↔
      field ≠ "" ∧ ∃ side, handle = Handle.encode ⟨node, field, side⟩ := by
  constructor
  · intro h
    unfold fieldOf? at h
    split at h
    · rename_i rest hstart
      split at h
      · rename_i c cs side hsplit
        cases h
        refine ⟨by simp, side, ?_⟩
        have hchars := List.isPrefixOf?_eq_some_iff_append_eq.mp hstart
        rw [splitSide?_eq_some_iff.mp hsplit, List.append_assoc, List.singleton_append] at hchars
        rw [← String.toList_inj, Handle.toList_encode, String.toList_ofList, hchars]
      · cases h
    · cases h
  · rintro ⟨hfield, side, rfl⟩
    have hstart : ((nodeText node).toList ++ ['-']).isPrefixOf?
        (Handle.encode ⟨node, field, side⟩).toList = some (field.toList ++ side.tail) := by
      rw [List.isPrefixOf?_eq_some_iff_append_eq, Handle.toList_encode, List.append_assoc,
        List.singleton_append]
    have hsplit : splitSide? (field.toList ++ side.tail) = some (field.toList, side) :=
      splitSide?_eq_some_iff.mpr rfl
    cases hchars : field.toList with
    | nil => exact absurd (String.toList_eq_nil_iff.mp hchars) hfield
    | cons c cs =>
        rw [hchars] at hstart hsplit
        simp only [fieldOf?, hstart, hsplit]
        rw [← hchars, String.ofList_toList]

/-- The field of a written handle is found for the node it is written with. -/
theorem fieldOf?_encode {h : Handle} (hfield : h.field ≠ "") :
    fieldOf? h.node h.encode = some h.field :=
  fieldOf?_eq_some_iff.mpr ⟨hfield, h.side, rfl⟩

end QueryCanvas
