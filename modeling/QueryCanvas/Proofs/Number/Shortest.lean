import Mathlib.Algebra.Order.Field.Power
import Mathlib.Data.Nat.Cast.Order.Field
import Mathlib.Data.Rat.Cast.Order
import Mathlib.Tactic.Linarith
import Mathlib.Tactic.NormNum
import Mathlib.Tactic.Positivity
import QueryCanvas.Number.Shortest
import QueryCanvas.Proofs.Number.Decimal

/-!
# Written binary64 numbers

A binary64 number lies so close to its neighbours that seventeen digits always tell them apart
(`exists_onGrid`): the search for the shortest decimal ends on a grid and never comes to nothing.
What is written is therefore a numeral, digits without a superfluous zero in front, with a fraction
or an exponent (`signed_renderBits`).
-/

namespace QueryCanvas.Number

/-! ## Grids -/

/-- A power of a natural number, or the inverse of one. -/
theorem cast_zpow (base : Nat) (exponent : Int) :
    (base : ℚ) ^ exponent =
      if 0 ≤ exponent then ((Nat.pow base exponent.toNat : Nat) : ℚ)
      else ((Nat.pow base (-exponent).toNat : Nat) : ℚ)⁻¹ := by
  split
  · rename_i hexponent
    obtain ⟨n, rfl⟩ := Int.eq_ofNat_of_zero_le hexponent
    rw [zpow_natCast, Int.toNat_natCast, Nat.pow_eq, Nat.cast_pow]
  · rename_i hexponent
    obtain ⟨n, hn⟩ := Int.eq_ofNat_of_zero_le (show 0 ≤ -exponent by omega)
    have hexponent' : exponent = -(n : Int) := by omega
    rw [hn, hexponent', zpow_neg, zpow_natCast, Int.toNat_natCast, Nat.pow_eq, Nat.cast_pow]

namespace Ratio

/-- The rational number. -/
def value (r : Ratio) : ℚ :=
  r.num / r.den

/-- The power of ten below a number of so many digits. -/
theorem pow_length_toDigits_le {n : Nat} (hn : 0 < n) :
    10 ^ ((Nat.toDigits 10 n).length - 1) ≤ n := by
  rcases Nat.eq_zero_or_pos ((Nat.toDigits 10 n).length - 1) with hone | hmore
  · rw [hone, Nat.pow_zero]
    exact hn
  · by_contra hlt
    have hshort := (Nat.length_toDigits_le_iff (by decide) hmore).mpr (Nat.lt_of_not_le hlt)
    omega

theorem lt_pow_length_toDigits (n : Nat) : n < 10 ^ (Nat.toDigits 10 n).length :=
  (Nat.length_toDigits_le_iff (by decide) (List.length_pos_iff.mpr Nat.toDigits_ne_nil)).mp le_rfl

/-- The leading digit of a ratio stands at the leading exponent, or further left. -/
theorem leadingExponent_le {r : Ratio} (hnum : 0 < r.num) (hden : 0 < r.den) :
    (10 : ℚ) ^ r.leadingExponent ≤ r.value := by
  have hden' : (0 : ℚ) < r.den := by exact_mod_cast hden
  unfold leadingExponent value
  split
  · rename_i hle
    have hwhole : 0 < r.num / r.den := Nat.div_pos hle hden
    have hpow := pow_length_toDigits_le hwhole
    have hlength : ((Nat.toDigits 10 (r.num / r.den)).length : Int) - 1 =
        (((Nat.toDigits 10 (r.num / r.den)).length - 1 : Nat) : Int) := by
      have := List.length_pos_iff.mpr (Nat.toDigits_ne_nil (n := r.num / r.den) (b := 10))
      omega
    rw [hlength, zpow_natCast]
    calc (10 : ℚ) ^ ((Nat.toDigits 10 (r.num / r.den)).length - 1)
        ≤ ((r.num / r.den : Nat) : ℚ) := by exact_mod_cast hpow
      _ ≤ r.num / r.den := Nat.cast_div_le
  · -- Below one, the digits of the inverse are counted.
    dsimp only
    generalize hceiling : (r.den + r.num - 1) / r.num = ceiling
    have hlt := lt_pow_length_toDigits (ceiling - 1)
    generalize (Nat.toDigits 10 (ceiling - 1)).length = length at hlt ⊢
    have hcover : r.den ≤ r.num * ceiling := by
      have hdiv := Nat.div_add_mod (r.den + r.num - 1) r.num
      have hmod := Nat.mod_lt (r.den + r.num - 1) hnum
      rw [hceiling] at hdiv
      omega
    have hpow : r.den ≤ r.num * 10 ^ length :=
      hcover.trans (Nat.mul_le_mul_left r.num (by omega))
    rw [Int.negOfNat_eq, Int.ofNat_eq_natCast, zpow_neg, zpow_natCast,
      inv_le_iff_one_le_mul₀ (by positivity),
      div_mul_eq_mul_div, one_le_div hden']
    exact_mod_cast hpow

/-- Dividing by a power of ten divides the number. -/
theorem value_shift (r : Ratio) (power : Int) : (r.shift power).value = r.value / 10 ^ power := by
  have hten := cast_zpow 10 power
  push_cast at hten
  unfold shift shiftIn value
  rw [hten]
  split
  · push_cast
    rw [div_mul_eq_div_div]
  · push_cast
    rw [div_inv_eq_mul, mul_div_right_comm]

end Ratio

/-- A quarter of the last place of a magnitude. -/
def quarter (m : Magnitude) : Ratio :=
  if 0 ≤ m.exponent then ⟨Nat.pow 2 m.exponent.toNat, 4⟩
  else ⟨1, 4 * Nat.pow 2 (-m.exponent).toNat⟩

theorem value_quarter (m : Magnitude) : (quarter m).value = 2 ^ m.exponent / 4 := by
  have htwo := cast_zpow 2 m.exponent
  push_cast at htwo
  unfold quarter Ratio.value
  rw [htwo]
  split
  · push_cast
    rfl
  · push_cast
    rw [one_div, mul_inv, div_eq_mul_inv, mul_comm]

/-- The interval around a magnitude is wider than a grid seventeen places behind its leading
digit. -/
theorem den_lt_of_fine {m : Magnitude} (hsize : m.significand < 2 ^ 53) {power : Int}
    (hfine : (10 : ℚ) ^ power * 10 ^ 17 ≤ m.significand * 2 ^ m.exponent) :
    0 < ((quarter m).shift power).den ∧
      ((quarter m).shift power).den < 2 * ((quarter m).shift power).num := by
  have hvalue := Ratio.value_shift (quarter m) power
  rw [value_quarter] at hvalue
  generalize (quarter m).shift power = scaled at hvalue ⊢
  have hten : (0 : ℚ) < 10 ^ power := zpow_pos (by norm_num) power
  have htwo : (0 : ℚ) < 2 ^ m.exponent := zpow_pos (by norm_num) m.exponent
  have hsize' : (m.significand : ℚ) < 2 ^ 53 := by exact_mod_cast hsize
  have hgrid : 2 * (10 : ℚ) ^ power < 2 ^ m.exponent := by
    have hbound := mul_lt_mul_of_pos_right hsize' htwo
    linarith
  have hhalf : 1 / 2 < scaled.value := by
    rw [hvalue, lt_div_iff₀ hten]
    linarith
  have hden : (0 : ℚ) < scaled.den := by
    by_contra hzero
    have hnone : (scaled.den : ℚ) = 0 := le_antisymm (not_lt.mp hzero) (Nat.cast_nonneg _)
    rw [Ratio.value, hnone, div_zero] at hhalf
    linarith
  rw [Ratio.value, div_lt_div_iff₀ (by norm_num) hden] at hhalf
  have hcast : (scaled.den : ℚ) < 2 * scaled.num := by linarith
  exact ⟨by exact_mod_cast hden, by exact_mod_cast hcast⟩

/-- A multiple on a narrow grid lies inside an interval that is wider. -/
theorem above_between {num den : Nat} (hden : 0 < den) (hwide : den < 2 * num) (s k : Nat) :
    (4 * s - k) * num < (4 * s * num / den + 1) * den ∧
      (4 * s * num / den + 1) * den < (4 * s + 2) * num := by
  have hlow : (4 * s - k) * num ≤ 4 * s * num := Nat.mul_le_mul_right num (Nat.sub_le _ _)
  have hdiv := Nat.div_add_mod (4 * s * num) den
  have hmod := Nat.mod_lt (4 * s * num) hden
  rw [Nat.add_mul (4 * s) 2 num, Nat.add_mul _ 1 den, Nat.mul_comm _ den]
  omega

/-- A grid that is fine enough holds a decimal that rounds back to the magnitude. -/
theorem exists_onGrid {m : Magnitude} (hsize : m.significand < 2 ^ 53) {power : Int}
    (hfine : (10 : ℚ) ^ power * 10 ^ 17 ≤ m.significand * 2 ^ m.exponent) :
    ∃ d, onGrid m power = some d := by
  have hwide := den_lt_of_fine hsize hfine
  unfold quarter at hwide
  unfold onGrid
  dsimp only
  generalize Ratio.shift _ power = scaled at hwide ⊢
  obtain ⟨hlow, hhigh⟩ :=
    above_between hwide.1 hwide.2 m.significand (if m.narrow then 1 else 2)
  split
  · repeat' split
    all_goals exact ⟨_, rfl⟩
  · exact ⟨_, rfl⟩
  · exact ⟨_, rfl⟩
  · -- The multiple above the magnitude lies inside of the interval.
    rename_i houtside
    exfalso
    split at houtside
    · simp only [Bool.and_eq_false_iff, decide_eq_false_iff_not] at houtside
      omega
    · simp only [Bool.and_eq_false_iff, decide_eq_false_iff_not] at houtside
      omega

theorem digits_pos_of_onGrid {m : Magnitude} {power : Int} {d : Decimal}
    (h : onGrid m power = some d) : 0 < d.digits := by
  unfold onGrid at h
  dsimp only at h
  generalize Ratio.shift _ power = scaled at h
  split at h
  · rename_i hbelow _
    have hpos := Nat.pos_of_ne_zero (bne_iff_ne.mp (Bool.and_eq_true_iff.mp hbelow).2)
    split at h
    · cases h
      exact hpos
    · split at h
      · cases h
        exact Nat.succ_pos _
      · split at h
        · cases h
          exact hpos
        · cases h
          exact Nat.succ_pos _
  · rename_i hbelow _
    cases h
    exact Nat.pos_of_ne_zero (bne_iff_ne.mp (Bool.and_eq_true_iff.mp hbelow).2)
  · cases h
    exact Nat.succ_pos _
  · cases h

theorem firstGrid_digits_pos {m : Magnitude} {last : Int} (hlast : ∃ d, onGrid m last = some d)
    {fuel : Nat} {power : Int} (hle : last ≤ power) (hfuel : power - last < fuel) :
    0 < (firstGrid m fuel power).digits := by
  induction fuel generalizing power with
  | zero => omega
  | succ fuel ih =>
      rw [firstGrid]
      split
      · rename_i d hd
        exact digits_pos_of_onGrid hd
      · rename_i hnone
        have hne : last ≠ power := by
          rintro rfl
          obtain ⟨d, hd⟩ := hlast
          rw [hnone] at hd
          cases hd
        exact ih (by omega) (by omega)

theorem stripZeros_digits_pos {fuel : Nat} {d : Decimal} (hd : 0 < d.digits) :
    0 < (d.stripZeros fuel).digits := by
  induction fuel generalizing d with
  | zero => exact hd
  | succ fuel ih =>
      rw [Decimal.stripZeros]
      split
      · rename_i hzeros
        exact ih (show 0 < d.digits / 10 by omega)
      · exact hd

/-- The shortest decimal of a magnitude above zero has a digit other than zero. -/
theorem shortest_digits_pos {m : Magnitude} (hpos : 0 < m.significand)
    (hsize : m.significand < 2 ^ 53) : 0 < (shortest m).digits := by
  unfold shortest
  dsimp only
  generalize hratio : (if 0 ≤ m.exponent then
      (⟨m.significand * Nat.pow 2 m.exponent.toNat, 1⟩ : Ratio)
    else ⟨m.significand, Nat.pow 2 (-m.exponent).toNat⟩) = ratio
  have hparts : 0 < ratio.num ∧ 0 < ratio.den ∧ ratio.value = m.significand * 2 ^ m.exponent := by
    have htwo := cast_zpow 2 m.exponent
    push_cast at htwo
    rw [htwo, ← hratio]
    unfold Ratio.value
    split
    · exact ⟨Nat.mul_pos hpos (Nat.pow_pos (by decide)), Nat.one_pos, by push_cast; rw [div_one]⟩
    · exact ⟨hpos, Nat.pow_pos (by decide), by push_cast; rw [div_eq_mul_inv]⟩
  obtain ⟨hnum, hden, hvalue⟩ := hparts
  have hlead := Ratio.leadingExponent_le hnum hden
  rw [hvalue] at hlead
  have hfine : (10 : ℚ) ^ (ratio.leadingExponent - 17) * 10 ^ 17 ≤
      m.significand * 2 ^ m.exponent := by
    rw [zpow_sub₀ (by norm_num), div_mul_eq_mul_div, div_le_iff₀ (by positivity)]
    exact mul_le_mul_of_nonneg_right hlead (by positivity)
  exact stripZeros_digits_pos
    (firstGrid_digits_pos (exists_onGrid hsize hfine) (by omega) (by omega))

theorem significand_magnitude_lt (bits : UInt64) : (magnitude bits).significand < 2 ^ 53 := by
  have hfraction : fractionField bits ≤ 0xFFFFFFFFFFFFF := by
    rw [fractionField, UInt64.toNat_and]
    exact Nat.and_le_right
  unfold magnitude
  dsimp only
  split
  · show fractionField bits < 2 ^ 53
    omega
  · show fractionField bits + 0x10000000000000 < 2 ^ 53
    omega

/-! ## Numerals -/

/-- One digit or more. -/
def Digits (cs : List Char) : Prop :=
  cs ≠ [] ∧ ∀ c ∈ cs, c.isDigit = true

/-- Digits after a point, if there are any. -/
inductive Fraction : List Char → Prop where
  | none : Fraction []
  | digits {cs} : Digits cs → Fraction ('.' :: cs)

/-- A signed exponent, if there is one. -/
inductive Exponent : List Char → Prop where
  | none : Exponent []
  | digits {sign cs} : sign = '+' ∨ sign = '-' → Digits cs → Exponent ('e' :: sign :: cs)

/-- A number without its sign. -/
inductive Numeral : List Char → Prop where
  | parts {whole fraction exponent} :
      Digits whole → ¬ Padded whole → Fraction fraction → Exponent exponent →
      Numeral (whole ++ (fraction ++ exponent))

theorem digits_toDigits (n : Nat) : Digits (Nat.toDigits 10 n) :=
  ⟨Nat.toDigits_ne_nil, fun _ hc => Nat.isDigit_of_mem_toDigits (by decide) (by decide) hc⟩

theorem digits_zero : Digits ['0'] :=
  digits_toDigits 0

theorem isDigit_of_mem_zeros {n : Nat} {c : Char} (hc : c ∈ List.replicate n '0') :
    c.isDigit = true := by
  rw [(List.mem_replicate.mp hc).2]
  rfl

section

variable {cs : List Char}

theorem Digits.append_zeros (hcs : Digits cs) (n : Nat) : Digits (cs ++ List.replicate n '0') := by
  refine ⟨List.append_ne_nil_of_left_ne_nil hcs.1 _, fun c hc => ?_⟩
  rcases List.mem_append.mp hc with hc | hc
  · exact hcs.2 c hc
  · exact isDigit_of_mem_zeros hc

theorem Digits.zeros_append (hcs : Digits cs) (n : Nat) : Digits (List.replicate n '0' ++ cs) := by
  refine ⟨List.append_ne_nil_of_right_ne_nil _ hcs.1, fun c hc => ?_⟩
  rcases List.mem_append.mp hc with hc | hc
  · exact isDigit_of_mem_zeros hc
  · exact hcs.2 c hc

theorem Digits.take_succ (hcs : Digits cs) (n : Nat) : Digits (cs.take (n + 1)) := by
  refine ⟨?_, fun c hc => hcs.2 c (List.mem_of_mem_take hc)⟩
  simp [hcs.1]

theorem Digits.drop (hcs : Digits cs) {n : Nat} (hn : n < cs.length) : Digits (cs.drop n) := by
  refine ⟨?_, fun c hc => hcs.2 c (List.mem_of_mem_drop hc)⟩
  simpa using hn

end

/-- A whole number is a numeral. -/
theorem numeral_toDigits (n : Nat) : Numeral (Nat.toDigits 10 n) := by
  have hparts := Numeral.parts (digits_toDigits n) (not_padded_toDigits n) .none .none
  rwa [List.append_nil, List.append_nil] at hparts

theorem not_padded_cons {c : Char} (hc : c ≠ '0') (cs : List Char) : ¬ Padded (c :: cs) := by
  rintro ⟨rest, hcs, -⟩
  exact hc (List.cons.inj hcs).1

theorem not_padded_singleton (c : Char) : ¬ Padded [c] := by
  rintro ⟨rest, hcs, hrest⟩
  exact hrest (List.cons.inj hcs).2.symm

/-- Digits on both sides of a point are a numeral. -/
theorem Numeral.point {whole after : List Char} (hwhole : Digits whole) (hpadded : ¬ Padded whole)
    (hafter : Digits after) : Numeral (whole ++ '.' :: after) := by
  have hparts := Numeral.parts hwhole hpadded (.digits hafter) .none
  rwa [List.append_nil] at hparts

/-- The exponent of a number in scientific form has its sign, also if it is positive. -/
theorem exponent_toDigits (lead : Int) :
    Exponent ('e' :: (if 0 ≤ lead then '+' else '-') :: Nat.toDigits 10 lead.natAbs) := by
  refine .digits ?_ (digits_toDigits lead.natAbs)
  split
  · exact .inl rfl
  · exact .inr rfl

/-- A decimal other than zero is written as a numeral. -/
theorem Decimal.numeral_render {d : Decimal} (hd : 0 < d.digits) : Numeral d.render := by
  obtain ⟨first, rest, hdigits, hfirst⟩ := exists_toDigits_eq_cons d.digits
  have hzero : first ≠ '0' := by
    rintro rfl
    exact toDigits_ne_zero_cons d.digits hd rest hdigits
  have hall := digits_toDigits d.digits
  rw [hdigits] at hall
  unfold render
  dsimp only
  rw [hdigits]
  split
  · split
    · -- Zeros reach to the point.
      exact .point (hall.append_zeros _) (not_padded_cons hzero _) digits_zero
    · split
      · -- The point stands among the digits.
        have hplace : (d.exponent + ((first :: rest).length : Int) - 1).toNat + 1 <
            (first :: rest).length := by
          omega
        exact .point (hall.take_succ _) (not_padded_cons hzero _) (hall.drop hplace)
      · -- Zeros stand behind the point.
        exact .point digits_zero (not_padded_singleton '0') (hall.zeros_append _)
  · have hexponent := exponent_toDigits (d.exponent + ((first :: rest).length : Int) - 1)
    have hwhole : Digits [first] :=
      ⟨List.cons_ne_nil _ _, fun c hc => List.mem_singleton.mp hc ▸ hfirst⟩
    cases rest with
    | nil => exact .parts hwhole (not_padded_singleton first) .none hexponent
    | cons second rest =>
        have hafter : Digits (second :: rest) :=
          ⟨List.cons_ne_nil _ _, fun c hc => hall.2 c (List.mem_cons_of_mem first hc)⟩
        exact .parts hwhole (not_padded_singleton first) (.digits hafter) hexponent

/-- A number, with a sign if it is negative. -/
inductive Signed : List Char → Prop where
  | plain {cs} : Numeral cs → Signed cs
  | minus {cs} : Numeral cs → Signed ('-' :: cs)

/-- A binary64 number is written as a numeral, with a sign if it is negative. -/
theorem signed_renderBits (bits : UInt64) : Signed (renderBits bits) := by
  have hbody : Numeral (if (magnitude bits).significand = 0 then ['0', '.', '0']
      else (shortest (magnitude bits)).render) := by
    split
    · exact .point digits_zero (not_padded_singleton '0') digits_zero
    · rename_i hpos
      exact Decimal.numeral_render
        (shortest_digits_pos (Nat.pos_of_ne_zero hpos) (significand_magnitude_lt bits))
  unfold renderBits
  dsimp only
  split
  · exact .minus hbody
  · exact .plain hbody

theorem Numeral.exists_eq_cons {cs : List Char} (h : Numeral cs) :
    ∃ c tail, cs = c :: tail ∧ c.isDigit = true := by
  cases h with
  | parts hwhole _ _ _ =>
      obtain ⟨c, whole, rfl⟩ := List.exists_cons_of_ne_nil hwhole.1
      exact ⟨c, _, rfl, hwhole.2 c List.mem_cons_self⟩

/-- A character that written numbers are made of. -/
def NumberChar (c : Char) : Prop :=
  c.isDigit = true ∨ c ∈ ['.', 'e', '+', '-']

theorem Numeral.mem {cs : List Char} (h : Numeral cs) {c : Char} (hc : c ∈ cs) : NumberChar c := by
  cases h with
  | parts hwhole _ hfraction hexponent =>
      rcases List.mem_append.mp hc with hc | hc
      · exact .inl (hwhole.2 c hc)
      · rcases List.mem_append.mp hc with hc | hc
        · cases hfraction with
          | none => cases hc
          | digits hdigits =>
              rcases List.mem_cons.mp hc with rfl | hc
              · exact .inr (by decide)
              · exact .inl (hdigits.2 c hc)
        · cases hexponent with
          | none => cases hc
          | digits hsign hdigits =>
              rcases List.mem_cons.mp hc with rfl | hc
              · exact .inr (by decide)
              · rcases List.mem_cons.mp hc with rfl | hc
                · exact .inr (by rcases hsign with rfl | rfl <;> decide)
                · exact .inl (hdigits.2 c hc)

/-- A written number starts with its sign or a digit. -/
theorem Signed.exists_eq_cons {cs : List Char} (h : Signed cs) :
    ∃ c tail, cs = c :: tail ∧ (c = '-' ∨ c.isDigit = true) := by
  cases h with
  | plain hbody =>
      obtain ⟨c, tail, hcs, hc⟩ := hbody.exists_eq_cons
      exact ⟨c, tail, hcs, .inr hc⟩
  | minus _ => exact ⟨'-', _, rfl, .inl rfl⟩

theorem Signed.mem {cs : List Char} (h : Signed cs) {c : Char} (hc : c ∈ cs) : NumberChar c := by
  cases h with
  | plain hbody => exact hbody.mem hc
  | minus hbody =>
      rcases List.mem_cons.mp hc with rfl | hc
      · exact .inr (by decide)
      · exact hbody.mem hc

end QueryCanvas.Number
