import QueryCanvas.Text.Lowercase
import QueryCanvas.Text.Search

/-!
# Searching in lowered texts

Lowering a text can change its length, and it can turn a character beyond ASCII into an ASCII
letter, but only in two cases: the Kelvin sign becomes a `k`, and the dotted capital I becomes an
`i` with a combining dot after it. `Lowered` says so of a whole text. A pattern of small letters
that has no `k` and does not end with `i` is `Steady`: neither case can make one, and lowering
breaks none. So it is found in the lowered text exactly if it occurs in the text as it is, with the
ASCII letters in either case (`contains_lowercase_iff`).
-/

namespace QueryCanvas.Text

/-- The pattern stands somewhere in the text as it is, up to the case of ASCII letters. -/
def Occurs (pattern text : String) : Prop :=
  ∃ before part after, text.toList = before ++ part ++ after ∧
    part.map Char.toLower = pattern.toList.map Char.toLower

theorem occurs_iff {pattern text : String} :
    Occurs pattern text ↔ pattern.toList.map Char.toLower <:+: text.toList.map Char.toLower := by
  rw [List.infix_map_iff]
  constructor
  · rintro ⟨before, part, after, htext, hpart⟩
    exact ⟨part, ⟨before, after, htext.symm⟩, hpart.symm⟩
  · rintro ⟨part, ⟨before, after, htext⟩, hpart⟩
    exact ⟨before, part, after, htext.symm, hpart.symm⟩

instance (pattern text : String) : Decidable (Occurs pattern text) :=
  decidable_of_iff
    (occursIn (pattern.toList.map Char.toLower) (text.toList.map Char.toLower) = true)
    (occursIn_iff.trans occurs_iff.symm)

/-! ## Single characters -/

/-- Only capital letters of ASCII are lowered. -/
theorem toLower_eq_self {c : Char} (hc : c.toNat < 65 ∨ 90 < c.toNat) : c.toLower = c := by
  have hnot : ¬ (c.val ≥ 'A'.val ∧ c.val ≤ 'Z'.val) := by
    rintro ⟨hge, hle⟩
    have hge : 65 ≤ c.toNat := UInt32.le_iff_toNat_le.mp hge
    have hle : c.toNat ≤ 90 := UInt32.le_iff_toNat_le.mp hle
    omega
  exact dif_neg hnot

theorem toNat_of_isLower {c : Char} (hc : c.isLower = true) : 97 ≤ c.toNat ∧ c.toNat ≤ 122 := by
  have hrange : (decide ('a'.val ≤ c.val) && decide (c.val ≤ 'z'.val)) = true := hc
  rw [Bool.and_eq_true, decide_eq_true_eq, decide_eq_true_eq] at hrange
  exact ⟨UInt32.le_iff_toNat_le.mp hrange.1, UInt32.le_iff_toNat_le.mp hrange.2⟩

/-- The rows of the table stay beyond ASCII, but for that of the Kelvin sign. No row leads out of
the characters. -/
theorem lowercaseTable_rows :
    ∀ row ∈ lowercaseTable,
      row = (0x212A, 0x212A, 1, -8383) ∨
      (0x80 : Int) ≤ row.1 + row.2.2.2 ∧
        (row.2.1 + row.2.2.2 < 0xD800 ∨
          (0xDFFF : Int) < row.1 + row.2.2.2 ∧ row.2.1 + row.2.2.2 < 0x110000) := by
  decide +kernel

/-- A character beyond ASCII stays beyond it when it is lowered, but for the Kelvin sign. -/
theorem lowerBeyondAscii_cases {c : Char} (hc : 0x80 ≤ c.toNat) :
    0x80 ≤ (lowerBeyondAscii c).toNat ∨ lowerBeyondAscii c = 'k' := by
  unfold lowerBeyondAscii
  split
  · next low high step shift hrow =>
    have hholds := List.find?_some hrow
    simp only [Bool.and_eq_true, decide_eq_true_eq] at hholds
    obtain ⟨⟨hlow, hhigh⟩, -⟩ := hholds
    rcases lowercaseTable_rows _ (List.mem_of_find?_eq_some hrow) with hkelvin | ⟨hstay, hvalid⟩
    · obtain ⟨rfl, rfl, rfl, rfl⟩ := by simpa only [Prod.mk.injEq] using hkelvin
      right
      rw [show c.toNat = 0x212A by omega]
      rfl
    · left
      simp only at hstay hvalid
      have hchar : (c.toNat + shift).toNat.isValidChar := by
        simp only [Nat.isValidChar]
        omega
      have hcode : (Char.ofNat (c.toNat + shift).toNat).toNat = (c.toNat + shift).toNat := by
        rw [Char.ofNat, dif_pos hchar]
        rfl
      omega
  · exact .inl hc

/-! ## Whole texts -/

/-- The second text is the first one lowered, as far as a search for ASCII letters can tell. -/
inductive Lowered : List Char → List Char → Prop where
  | nil : Lowered [] []
  | ascii {c text lowered} : Lowered text lowered → Lowered (c :: text) (c.toLower :: lowered)
  | beyond {c d text lowered} :
      0x80 ≤ c.toNat → 0x80 ≤ d.toNat ∨ d = 'k' → Lowered text lowered →
      Lowered (c :: text) (d :: lowered)
  | dotted {text lowered} :
      Lowered text lowered → Lowered ('İ' :: text) ('i' :: '\u0307' :: lowered)

/-- Lowering gives a lowered text, whatever stood before. -/
theorem lowered_lowerChars (before text : List Char) : Lowered text (lowerChars before text) := by
  induction text generalizing before with
  | nil => exact .nil
  | cons c text ih =>
      rw [lowerChars]
      split
      · next hsigma =>
        subst hsigma
        refine .beyond (by decide) (.inl ?_) (ih _)
        split <;> decide
      · rw [lowerChar]
        split
        · exact .ascii (ih _)
        · next hbeyond =>
          split
          · next hdotted =>
            subst hdotted
            exact .dotted (ih _)
          · have hc : 0x80 ≤ c.toNat := Nat.le_of_not_lt hbeyond
            exact .beyond hc (lowerBeyondAscii_cases hc) (ih _)

/-- The pattern has small letters only, none of them a `k`, and does not end with `i`. -/
structure Steady (pattern : List Char) : Prop where
  letters : ∀ c ∈ pattern, c.isLower = true ∧ c ≠ 'k'
  last : pattern.getLast? ≠ some 'i'

instance (pattern : List Char) : Decidable (Steady pattern) :=
  decidable_of_iff
    (pattern.all (fun c => c.isLower && c != 'k') = true ∧ pattern.getLast? ≠ some 'i')
    ⟨fun h => ⟨by simpa using h.1, h.2⟩, fun h => ⟨by simpa using h.letters, h.last⟩⟩

variable {c : Char} {pattern text lowered : List Char}

namespace Steady

/-- A steady pattern is steady without its first letter. -/
theorem tail (h : Steady (c :: pattern)) : Steady pattern where
  letters := fun d hd => h.letters d (List.mem_cons_of_mem c hd)
  last := by
    intro hlast
    cases pattern with
    | nil => cases hlast
    | cons d pattern => exact h.last hlast

/-- A letter of a steady pattern is none of the characters that lowering makes beyond ASCII. -/
theorem ne_of_beyond {d : Char} (h : Steady (c :: pattern)) (hd : 0x80 ≤ d.toNat ∨ d = 'k') :
    c ≠ d := by
  rintro rfl
  obtain ⟨hlower, hk⟩ := h.letters c List.mem_cons_self
  have hrange := toNat_of_isLower hlower
  rcases hd with hd | hd
  · omega
  · exact hk hd

/-- A steady pattern is lowered already. -/
theorem map_toLower (h : Steady pattern) : pattern.map Char.toLower = pattern := by
  have hself : ∀ c ∈ pattern, c.toLower = id c := by
    intro c hc
    have hrange := toNat_of_isLower (h.letters c hc).1
    exact toLower_eq_self (by omega)
  rw [List.map_congr_left hself, List.map_id]

end Steady

namespace Lowered

/-- A steady pattern begins a lowered text exactly if it begins the text in either case. -/
theorem prefix_iff (h : Lowered text lowered) (hpattern : Steady pattern) :
    pattern <+: lowered ↔ pattern <+: text.map Char.toLower := by
  induction h generalizing pattern with
  | nil => exact Iff.rfl
  | ascii _ ih =>
      cases pattern with
      | nil => simp
      | cons a pattern =>
          rw [List.map_cons, List.cons_prefix_cons, List.cons_prefix_cons, ih hpattern.tail]
  | beyond hc hd _ ih =>
      cases pattern with
      | nil => simp
      | cons a pattern =>
          rw [List.map_cons, List.cons_prefix_cons, List.cons_prefix_cons,
            toLower_eq_self (by omega)]
          constructor
          · rintro ⟨rfl, -⟩
            exact absurd rfl (hpattern.ne_of_beyond hd)
          · rintro ⟨rfl, -⟩
            exact absurd rfl (hpattern.ne_of_beyond (.inl hc))
  | dotted _ ih =>
      cases pattern with
      | nil => simp
      | cons a pattern =>
          rw [List.map_cons, List.cons_prefix_cons, List.cons_prefix_cons]
          constructor
          · -- After the `i` comes the dot, which is no letter.
            rintro ⟨rfl, hrest⟩
            cases pattern with
            | nil => exact absurd rfl hpattern.last
            | cons b pattern =>
                obtain ⟨rfl, -⟩ := List.cons_prefix_cons.mp hrest
                exact absurd rfl (hpattern.tail.ne_of_beyond (.inl (by decide)))
          · rintro ⟨rfl, -⟩
            exact absurd rfl (hpattern.ne_of_beyond (.inl (by decide)))

/-- A steady pattern stands in a lowered text exactly if it stands in the text in either case. -/
theorem infix_iff (h : Lowered text lowered) (hpattern : Steady pattern) :
    pattern <:+: lowered ↔ pattern <:+: text.map Char.toLower := by
  induction h with
  | nil => exact Iff.rfl
  | ascii htext ih =>
      rw [List.infix_cons_iff, List.map_cons, List.infix_cons_iff, ih, ← List.map_cons,
        (Lowered.ascii htext).prefix_iff hpattern]
  | beyond hc hd htext ih =>
      rw [List.infix_cons_iff, List.map_cons, List.infix_cons_iff, ih, ← List.map_cons,
        (Lowered.beyond hc hd htext).prefix_iff hpattern]
  | @dotted text lowered htext ih =>
      have hdot : pattern <:+: '\u0307' :: lowered ↔ pattern <:+: lowered := by
        rw [List.infix_cons_iff]
        constructor
        · rintro (hfront | hrest)
          · cases pattern with
            | nil => exact List.nil_infix
            | cons a pattern =>
                obtain ⟨rfl, -⟩ := List.cons_prefix_cons.mp hfront
                exact absurd rfl (hpattern.ne_of_beyond (.inl (by decide)))
          · exact hrest
        · exact .inr
      rw [List.infix_cons_iff, hdot, List.map_cons, List.infix_cons_iff, ih, ← List.map_cons,
        (Lowered.dotted htext).prefix_iff hpattern]

end Lowered

/-- Lowering the text neither makes nor breaks a steady pattern. -/
theorem contains_lowercase_iff {pattern : String} (hpattern : Steady pattern.toList)
    (text : String) : contains (lowercase text) pattern = true ↔ Occurs pattern text := by
  rw [contains, occursIn_iff, lowercase, String.toList_ofList, occurs_iff, hpattern.map_toLower]
  exact (lowered_lowerChars [] text.toList).infix_iff hpattern

end QueryCanvas.Text
