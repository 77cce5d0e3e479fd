import QueryCanvas.Json.Numeral
import QueryCanvas.Proofs.Json.Spelling
import QueryCanvas.Proofs.Number.Shortest

/-!
# Reading written pieces

The readers of single pieces find each written piece again and stop right after it:
`readString_append` for texts with whatever characters, `readNumeral_append` for whole numbers of
64 bits. A number stops only where no further character carries it on (`Ends`), which is the case
after every item and every member.
-/

namespace QueryCanvas.Json

/-! ## Texts -/

theorem hexNumber?_control :
    ∀ n < 0x20, hexNumber? '0' '0' (Nat.digitChar (n / 16)) (Nat.digitChar (n % 16)) = some n := by
  decide

/-- An escaped character is read back. -/
theorem readChars_escape (c : Char) (rest : List Char) :
    readChars (escape c ++ rest) = prepend c (readChars rest) := by
  unfold escape
  split
  case h_8 hquote hslash _ _ _ _ _ =>
    split
    · rename_i hcontrol
      have hhex := hexNumber?_control c.toNat hcontrol
      have htrail : ¬ (0xDC00 ≤ c.toNat ∧ c.toNat ≤ 0xDFFF) := by omega
      have hlead : ¬ (0xD800 ≤ c.toNat ∧ c.toNat ≤ 0xDBFF) := by omega
      simp only [List.cons_append, List.nil_append]
      rw [readChars]
      simp only [hhex, htrail, hlead, if_false, Char.ofNat_toNat]
    · rename_i hcontrol
      simp only [List.cons_append, List.nil_append]
      rw [readChars.eq_def]
      split <;> simp_all
  all_goals simp [readChars, shortEscape?]

/-- The escaped characters of a text are read up to the closing quote. -/
theorem readChars_flatMap_escape (text rest : List Char) :
    readChars (text.flatMap escape ++ '"' :: rest) = .ok (text, rest) := by
  induction text with
  | nil => rfl
  | cons c cs ih =>
      rw [List.flatMap_cons, List.append_assoc, readChars_escape, ih]
      rfl

/-- A written text is read back after its opening quote. -/
theorem readString_append (s : String) (rest : List Char) :
    readString (s.toList.flatMap escape ++ '"' :: rest) = .ok (s, rest) := by
  rw [readString, readChars_flatMap_escape]
  simp

/-- A quoted text starts with its opening quote. -/
theorem quote_append (s : String) (rest : List Char) :
    quote s ++ rest = '"' :: (s.toList.flatMap escape ++ '"' :: rest) := by
  simp [quote]

theorem readWord_append (word rest : List Char) : readWord word (word ++ rest) = .ok rest := by
  induction word with
  | nil => rw [List.nil_append, readWord]
  | cons c cs ih => rw [List.cons_append, readWord, if_pos rfl, ih]

/-! ## Whole numbers -/

/-- The characters do not carry a number on. -/
def Ends : List Char → Prop
  | [] => True
  | c :: _ => c.isDigit = false ∧ c ≠ '.' ∧ c ≠ 'e' ∧ c ≠ 'E'

theorem Ends.nil : Ends [] :=
  trivial

/-- Reading digits on makes a number larger. -/
theorem le_ofDigitChars (cs : List Char) (n : Nat) : n ≤ Nat.ofDigitChars 10 cs n := by
  rw [Nat.ofDigitChars_eq_ofDigitChars_zero]
  have hpow : n ≤ 10 ^ cs.length * n := Nat.le_mul_of_pos_left n (by positivity)
  omega

/-- Digits are all absorbed if their number stays below the limit. -/
theorem absorb_eq {cs : List Char} {n : Nat} (h : Nat.ofDigitChars 10 cs n < significandLimit) :
    absorb n cs = (Nat.ofDigitChars 10 cs n, 0) := by
  induction cs generalizing n with
  | nil => rfl
  | cons c cs ih =>
      rw [Nat.ofDigitChars_cons, Nat.mul_comm 10 n] at h ⊢
      have hnext : n * 10 + (c.toNat - '0'.toNat) < significandLimit :=
        Nat.lt_of_le_of_lt (le_ofDigitChars cs _) h
      rw [absorb]
      simp only [hnext, if_true]
      exact ih h

/-- The digits of a number are read back. -/
theorem readUnsigned_toDigits {n : Nat} (hn : n < significandLimit) (negative : Bool)
    {rest : List Char} (hrest : Ends rest) :
    readUnsigned negative (Nat.toDigits 10 n ++ rest) = .ok (wholeNumeral negative n, rest) := by
  have hdigits : ∀ c ∈ Nat.toDigits 10 n, c.isDigit = true := fun c hc =>
    Nat.isDigit_of_mem_toDigits (by decide) (by decide) hc
  have hrestdigits : rest.takeWhile Char.isDigit = [] ∧ rest.dropWhile Char.isDigit = rest := by
    cases rest with
    | nil => exact ⟨rfl, rfl⟩
    | cons c cs => simp [hrest.1]
  have habsorb : absorb 0 (Nat.toDigits 10 n) = (n, 0) := by
    have hread : Nat.ofDigitChars 10 (Nat.toDigits 10 n) 0 = n := Nat.ofDigitChars_ten_toDigits
    rw [absorb_eq (by rw [hread]; exact hn), hread]
  unfold readUnsigned
  simp only
  rw [List.takeWhile_append_of_pos hdigits, List.dropWhile_append_of_pos hdigits, hrestdigits.1,
    hrestdigits.2, List.append_nil]
  split
  · rename_i hnil
    exact absurd hnil Nat.toDigits_ne_nil
  · rename_i hzero
    -- Only zero starts with a zero, and zero has one digit.
    rcases Nat.eq_zero_or_pos n with rfl | hpos
    · simp [Nat.toDigits_zero] at hzero
    · exact absurd hzero (toDigits_ne_zero_cons n hpos _)
  · rw [habsorb]
    simp only
    split
    · exact absurd rfl hrest.2.1
    · exact absurd rfl hrest.2.2.1
    · exact absurd rfl hrest.2.2.2
    · rfl

/-- A whole number of 64 bits. -/
def Fits (n : Int) : Prop :=
  Int64.minValue.toInt ≤ n ∧ n < significandLimit

/-- A written whole number consists of its digits, after a sign if it is negative. -/
theorem toList_toString_int (n : Int) :
    (toString n).toList =
      if n < 0 then '-' :: Nat.toDigits 10 n.natAbs else Nat.toDigits 10 n.natAbs := by
  cases n with
  | ofNat m =>
      rw [if_neg (by exact Int.not_lt.mpr (Int.natCast_nonneg m))]
      simp [Int.toString_eq_repr, Int.repr]
  | negSucc m =>
      rw [if_pos (Int.negSucc_lt_zero m)]
      simp [Int.toString_eq_repr, Int.repr]

/-- A written whole number is read back. -/
theorem readNumeral_append {n : Int} (hn : Fits n) {rest : List Char} (hrest : Ends rest) :
    readNumeral ((toString n).toList ++ rest) = .ok (.whole n, rest) := by
  have hmin : Int64.minValue.toInt = -9223372036854775808 := by decide
  have hlimit : significandLimit = 18446744073709551616 := by decide
  obtain ⟨hlow, hhigh⟩ := hn
  rw [toList_toString_int]
  by_cases hneg : n < 0
  · have hread := readUnsigned_toDigits (n := n.natAbs) (by omega) true hrest
    have hwhole : wholeNumeral true n.natAbs = .whole n := by
      unfold wholeNumeral
      rw [if_neg (by decide), if_pos (by omega)]
      congr
      omega
    rw [if_pos hneg, List.cons_append, readNumeral, hread, hwhole]
  · have hread := readUnsigned_toDigits (n := n.natAbs) (by omega) false hrest
    have hwhole : wholeNumeral false n.natAbs = .whole n := by
      unfold wholeNumeral
      rw [if_pos (by decide)]
      congr
      omega
    rw [if_neg hneg, readNumeral.eq_def]
    split
    · rename_i hminus
      -- The sign is no digit.
      obtain ⟨c, cs, hdigits, hdigit⟩ := exists_toDigits_eq_cons n.natAbs
      rw [hdigits, List.cons_append, List.cons.injEq] at hminus
      rw [hminus.1] at hdigit
      cases hdigit
    · rw [hread, hwhole]

/-- A whole number is written as a number. -/
theorem signed_toString_int (n : Int) : Number.Signed (toString n).toList := by
  rw [toList_toString_int]
  split
  · exact .minus (Number.numeral_toDigits n.natAbs)
  · exact .plain (Number.numeral_toDigits n.natAbs)

/-! ## Between the pieces -/

/-- A character of a written number is neither a blank nor a closing bracket, and starts no literal
and no text. -/
theorem numberChar_ne {c : Char} (hc : Number.NumberChar c) :
    isBlankChar c = false ∧ c ≠ ']' ∧ c ≠ 'n' ∧ c ≠ '"' := by
  have hne : ∀ d : Char, d.isDigit = false → d ∉ ['.', 'e', '+', '-'] → c ≠ d := by
    rintro d hdigit hother rfl
    rcases hc with hc | hc
    · rw [hdigit] at hc
      cases hc
    · exact hother hc
  refine ⟨?_, hne _ rfl (by decide), hne _ rfl (by decide), hne _ rfl (by decide)⟩
  simp only [isBlankChar, Bool.or_eq_false_iff, beq_eq_false_iff_ne]
  exact ⟨⟨⟨hne _ rfl (by decide), hne _ rfl (by decide)⟩, hne _ rfl (by decide)⟩,
    hne _ rfl (by decide)⟩

/-- A written value starts with a character that is neither a blank nor a closing bracket. Only a
null starts as a null does. -/
theorem Spells.exists_eq_cons {j : Json} {cs : List Char} (h : Spells j cs) :
    ∃ c tail, cs = c :: tail ∧ isBlankChar c = false ∧ c ≠ ']' ∧ (c = 'n' → j = .null) := by
  have hnumber : ∀ {cs : List Char}, Number.Signed cs → ∃ c tail, cs = c :: tail ∧
      isBlankChar c = false ∧ c ≠ ']' ∧ (c = 'n' → j = .null) := by
    intro cs hcs
    obtain ⟨c, tail, rfl, -⟩ := hcs.exists_eq_cons
    obtain ⟨hblank, hclose, hnull, -⟩ := numberChar_ne (hcs.mem List.mem_cons_self)
    exact ⟨c, tail, rfl, hblank, hclose, fun h => absurd h hnull⟩
  cases h with
  | null => exact ⟨_, _, rfl, rfl, by decide, fun _ => rfl⟩
  | trueWord => exact ⟨_, _, rfl, rfl, by decide, fun h => absurd h (by decide)⟩
  | falseWord => exact ⟨_, _, rfl, rfl, by decide, fun h => absurd h (by decide)⟩
  | int n => exact hnumber (signed_toString_int n)
  | float _ => exact hnumber (Number.signed_renderBits _)
  | string s => exact ⟨_, _, rfl, rfl, by decide, fun h => absurd h (by decide)⟩
  | array _ => exact ⟨_, _, rfl, rfl, by decide, fun h => absurd h (by decide)⟩
  | object _ => exact ⟨_, _, rfl, rfl, by decide, fun h => absurd h (by decide)⟩

/-- A blank does not carry a number on. -/
theorem Blank.ends_append {ws : List Char} (hws : Blank ws) {cs : List Char} (hcs : Ends cs) :
    Ends (ws ++ cs) := by
  cases ws with
  | nil => exact hcs
  | cons c ws =>
      have hc := hws c List.mem_cons_self
      simp only [isBlankChar, Bool.or_eq_true, beq_iff_eq] at hc
      rcases hc with ((rfl | rfl) | rfl) | rfl <;> simp [Ends]

theorem Ends.cons {c : Char} (hc : c = ',' ∨ c = ']' ∨ c = '}') (cs : List Char) :
    Ends (c :: cs) := by
  rcases hc with rfl | rfl | rfl <;> simp [Ends]

/-- No number goes on into what stands before a later item or member. -/
theorem Lead.ends {lead : List Char} (hlead : Lead false lead) (rest : List Char) :
    Ends (lead ++ rest) := by
  cases hlead with
  | next hbefore _ =>
      rw [List.append_assoc, List.cons_append]
      exact hbefore.ends_append (.cons (by decide) _)

/-- No number goes on after an item. -/
theorem SpellsItems.ends {items : List Json} {cs : List Char} (h : SpellsItems false items cs)
    (rest : List Char) : Ends (cs ++ rest) := by
  cases h with
  | close hws =>
      rw [List.append_assoc]
      exact hws.ends_append (.cons (by decide) _)
  | item hlead _ _ =>
      rw [List.append_assoc]
      exact hlead.ends _

/-- No number goes on after a member. -/
theorem SpellsMembers.ends {members : List (String × Json)} {cs : List Char}
    (h : SpellsMembers false members cs) (rest : List Char) : Ends (cs ++ rest) := by
  cases h with
  | close hws =>
      rw [List.append_assoc]
      exact hws.ends_append (.cons (by decide) _)
  | member hlead _ _ _ _ =>
      rw [List.append_assoc]
      exact hlead.ends _

/-- There are more characters than items. -/
theorem SpellsItems.length_lt {first : Bool} {items : List Json} {cs : List Char}
    (h : SpellsItems first items cs) : items.length < cs.length := by
  induction items generalizing first cs with
  | nil =>
      cases h with
      | close _ => simp
  | cons x xs ih =>
      cases h with
      | item _ hx hmore =>
          obtain ⟨c, tail, rfl, -⟩ := hx.exists_eq_cons
          have hlt := ih hmore
          simp only [List.length_append, List.length_cons]
          omega

/-- There are more characters than members. -/
theorem SpellsMembers.length_lt {first : Bool} {members : List (String × Json)} {cs : List Char}
    (h : SpellsMembers first members cs) : members.length < cs.length := by
  induction members generalizing first cs with
  | nil =>
      cases h with
      | close _ => simp
  | cons m ms ih =>
      cases h with
      | member _ _ _ _ hmore =>
          have hlt := ih hmore
          simp only [List.length_append, List.length_cons]
          omega

/-- The fuel for a text suffices for the items that it starts with. -/
theorem SpellsItems.length_lt_fuel {first : Bool} {items : List Json} {cs : List Char}
    (h : SpellsItems first items cs) (rest : List Char) :
    items.length < (cs ++ rest).length + 1 := by
  have hlt := h.length_lt
  rw [List.length_append]
  omega

theorem SpellsMembers.length_lt_fuel {first : Bool} {members : List (String × Json)}
    {cs : List Char} (h : SpellsMembers first members cs) (rest : List Char) :
    members.length < (cs ++ rest).length + 1 := by
  have hlt := h.length_lt
  rw [List.length_append]
  omega

variable {ws : List Char}

theorem readColon_append (hws : Blank ws) (rest : List Char) :
    readColon (ws ++ ':' :: rest) = .ok rest := by
  rw [readColon, hws.skipBlanks_append (by decide)]
  rfl

theorem closeArray_append (hws : Blank ws) (rest : List Char) :
    closeArray (ws ++ ']' :: rest) = .ok rest := by
  rw [closeArray, hws.skipBlanks_append (by decide)]
  rfl

theorem closeObject_append (hws : Blank ws) (rest : List Char) :
    closeObject (ws ++ '}' :: rest) = .ok rest := by
  rw [closeObject, hws.skipBlanks_append (by decide)]
  rfl

theorem nextItem_close (first : Bool) (hws : Blank ws) (rest : List Char) :
    nextItem first (ws ++ ']' :: rest) = .ok none := by
  rw [nextItem, hws.skipBlanks_append (by decide)]
  rfl

theorem nextName_close (first : Bool) (hws : Blank ws) (rest : List Char) :
    nextName first (ws ++ '}' :: rest) = .ok none := by
  rw [nextName, hws.skipBlanks_append (by decide)]
  rfl

/-- The next item is found after what stands before it. -/
theorem Lead.nextItem_append {first : Bool} {lead : List Char} (hlead : Lead first lead) {x : Json}
    {cs : List Char} (hx : Spells x cs) (rest : List Char) :
    nextItem first (lead ++ (cs ++ rest)) = .ok (some (cs ++ rest)) := by
  obtain ⟨c, tail, rfl, hblank, hclose, -⟩ := hx.exists_eq_cons
  rw [List.cons_append]
  cases hlead with
  | first hws =>
      rw [nextItem, hws.skipBlanks_append hblank]
      simp
  | next hbefore hafter =>
      rw [List.append_assoc, List.cons_append, nextItem, hbefore.skipBlanks_append (by decide)]
      simp only [Char.isValue, Char.reduceEq, imp_self, Bool.false_eq_true, if_false, if_true,
        hafter.skipBlanks_append hblank]
      split
      · rename_i hnil
        cases hnil
      · rename_i hbracket
        exact absurd (List.cons.inj hbracket).1 hclose
      · rfl

/-- The next name is found after what stands before it. -/
theorem Lead.nextName_append {first : Bool} {lead : List Char} (hlead : Lead first lead)
    (name : String) (rest : List Char) :
    nextName first (lead ++ (quote name ++ rest)) = .ok (some (name, rest)) := by
  rw [quote_append]
  have hquote : isBlankChar '"' = false := by decide
  cases hlead with
  | first hws =>
      rw [nextName, hws.skipBlanks_append hquote]
      simp [readString_append, Except.map]
  | next hbefore hafter =>
      rw [List.append_assoc, List.cons_append, nextName, hbefore.skipBlanks_append (by decide)]
      simp [hafter.skipBlanks_append hquote, readString_append, Except.map]

end QueryCanvas.Json
