import Mathlib.Data.Nat.Digits.Defs

/-!
# Decimal numerals

Numbers are written without a superfluous zero in front, and every numeral without one is what its
number is written as (`toDigits_ofDigitChars_iff`).
-/

namespace QueryCanvas

/-- A written number starts with a digit. -/
theorem exists_toDigits_eq_cons (n : Nat) :
    ∃ c cs, Nat.toDigits 10 n = c :: cs ∧ c.isDigit = true := by
  rcases hdigits : Nat.toDigits 10 n with _ | ⟨c, cs⟩
  · exact absurd hdigits Nat.toDigits_ne_nil
  · have hmem : c ∈ Nat.toDigits 10 n := hdigits ▸ List.mem_cons_self
    exact ⟨c, cs, rfl, Nat.isDigit_of_mem_toDigits (by decide) (by decide) hmem⟩

theorem digitChar_ne_zero : ∀ n < 10, 0 < n → Nat.digitChar n ≠ '0' := by
  decide

/-- The digits of a number other than zero do not start with a zero. -/
theorem toDigits_ne_zero_cons (n : Nat) (hn : 0 < n) (cs : List Char) :
    Nat.toDigits 10 n ≠ '0' :: cs := by
  induction n using Nat.strongRecOn generalizing cs with
  | ind n ih =>
      by_cases hsmall : n < 10
      · rw [Nat.toDigits_of_lt_base hsmall]
        intro h
        exact digitChar_ne_zero n hsmall hn (List.cons.inj h).1
      · rw [Nat.toDigits_of_base_le (by decide) (by omega)]
        intro h
        -- The first digit is the first one of the number without its last digit.
        obtain ⟨c, rest, hdigits, -⟩ := exists_toDigits_eq_cons (n / 10)
        rw [hdigits, List.cons_append, List.cons.injEq] at h
        obtain ⟨rfl, -⟩ := h
        exact ih (n / 10) (by omega) (by omega) rest hdigits

theorem toNat_of_isDigit {c : Char} (hc : c.isDigit = true) : 48 ≤ c.toNat ∧ c.toNat ≤ 57 := by
  simpa [Char.isDigit, UInt32.le_iff_toNat_le] using hc

/-- A digit is written as itself. -/
theorem digitChar_sub_zero {c : Char} (hc : c.isDigit = true) :
    c.toNat - '0'.toNat < 10 ∧ Nat.digitChar (c.toNat - '0'.toNat) = c := by
  have hrange := toNat_of_isDigit hc
  have hzero : '0'.toNat = 48 := rfl
  have hlt : c.toNat - '0'.toNat < 10 := by omega
  refine ⟨hlt, Char.toNat_inj.mp ?_⟩
  rw [Nat.toNat_digitChar_of_lt_ten hlt]
  omega

/-- The numeral has a superfluous zero in front. -/
def Padded (digits : List Char) : Prop :=
  ∃ rest, digits = '0' :: rest ∧ rest ≠ []

/-- The numerals of numbers are not padded. -/
theorem not_padded_toDigits (n : Nat) : ¬ Padded (Nat.toDigits 10 n) := by
  rintro ⟨rest, hdigits, hrest⟩
  rcases Nat.eq_zero_or_pos n with rfl | hpos
  · rw [Nat.toDigits_zero, List.cons.injEq] at hdigits
    exact hrest hdigits.2.symm
  · exact toDigits_ne_zero_cons n hpos rest hdigits

/-- Digits after a number other than zero are written on from it. -/
theorem toDigits_append {n : Nat} (hn : 0 < n) {digits : List Char}
    (hdigits : ∀ c ∈ digits, c.isDigit = true) :
    Nat.toDigits 10 (Nat.ofDigitChars 10 digits n) = Nat.toDigits 10 n ++ digits := by
  induction digits generalizing n with
  | nil => rw [Nat.ofDigitChars_nil, List.append_nil]
  | cons c digits ih =>
      obtain ⟨hlt, hchar⟩ := digitChar_sub_zero (hdigits c List.mem_cons_self)
      have hnext : Nat.toDigits 10 (10 * n + (c.toNat - '0'.toNat)) = Nat.toDigits 10 n ++ [c] := by
        rw [← Nat.toDigits_append_toDigits (by decide) hn hlt, Nat.toDigits_of_lt_base hlt, hchar]
      rw [Nat.ofDigitChars_cons, ih (by omega) fun d hd => hdigits d (List.mem_cons_of_mem c hd),
        hnext, List.append_assoc, List.singleton_append]

/-- A numeral that is not padded is what its number is written as. -/
theorem toDigits_ofDigitChars {digits : List Char} (hne : digits ≠ [])
    (hdigits : ∀ c ∈ digits, c.isDigit = true) (hplain : ¬ Padded digits) :
    Nat.toDigits 10 (Nat.ofDigitChars 10 digits 0) = digits := by
  cases digits with
  | nil => exact absurd rfl hne
  | cons c digits =>
      obtain ⟨hlt, hchar⟩ := digitChar_sub_zero (hdigits c List.mem_cons_self)
      have hrest : ∀ d ∈ digits, d.isDigit = true :=
        fun d hd => hdigits d (List.mem_cons_of_mem c hd)
      rw [Nat.ofDigitChars_cons, Nat.mul_zero, Nat.zero_add]
      rcases Nat.eq_zero_or_pos (c.toNat - '0'.toNat) with hzero | hpos
      · -- Only the numeral `0` starts with a zero.
        rw [hzero] at hchar
        have hnil : digits = [] := by
          by_contra hmore
          exact hplain ⟨digits, by rw [← hchar]; rfl, hmore⟩
        rw [hzero, hnil, Nat.ofDigitChars_nil, Nat.toDigits_zero, ← hchar]
        rfl
      · rw [toDigits_append hpos hrest, Nat.toDigits_of_lt_base hlt, hchar, List.singleton_append]

/-- A numeral is what its number is written as exactly if it is not padded. -/
theorem toDigits_ofDigitChars_iff {digits : List Char} (hne : digits ≠ [])
    (hdigits : ∀ c ∈ digits, c.isDigit = true) :
    Nat.toDigits 10 (Nat.ofDigitChars 10 digits 0) = digits ↔ ¬ Padded digits := by
  constructor
  · intro hsame
    rw [← hsame]
    exact not_padded_toDigits _
  · exact toDigits_ofDigitChars hne hdigits

end QueryCanvas
