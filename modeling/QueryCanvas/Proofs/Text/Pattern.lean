import Mathlib.Data.List.Forall2

/-!
# Patterns

A pattern is a list of pieces that a whole text is made of. `matchParts?` matches it by trial: each
piece has its ways to take characters off the front, in order of preference, and a later way is
tried only when the pieces behind it cannot match what an earlier one leaves over. The parts that it
finds fit the pattern (`matchParts?_fits`), and it finds some whenever some fit
(`exists_matchParts?`). If a text has no two fitting partitions, the preferences decide nothing
(`matchParts?_eq_some_iff`).
-/

namespace QueryCanvas.Text

/-- A part of a pattern. -/
inductive Piece where
  /-- One character of a class or more, as many as the rest of the pattern allows. -/
  | many (holds : Char → Bool)
  /-- One of some texts, the earlier ones preferred. -/
  | oneOf (choices : List (List Char))

/-- The ways to take characters of a class off the front, the longest one first. -/
def runsOf (holds : Char → Bool) : List Char → List (List Char × List Char)
  | [] => []
  | c :: cs =>
      if holds c then (runsOf holds cs).map (fun (taken, rest) => (c :: taken, rest)) ++ [([c], cs)]
      else []

/-- The ways to take one of the choices off the front, in their order. -/
def choicesOf (choices : List (List Char)) (cs : List Char) : List (List Char × List Char) :=
  choices.filterMap fun choice => (choice.isPrefixOf? cs).map fun rest => (choice, rest)

/-- The ways in which a piece takes characters off the front, the preferred one first. -/
def Piece.ways : Piece → List Char → List (List Char × List Char)
  | .many holds => runsOf holds
  | .oneOf choices => choicesOf choices

/-- The parts into which the preferred way of matching a pattern divides a whole text. -/
def matchParts? : List Piece → List Char → Option (List (List Char))
  | [], cs => if cs.isEmpty then some [] else none
  | piece :: pieces, cs =>
      (piece.ways cs).findSome? fun (taken, rest) => (matchParts? pieces rest).map (taken :: ·)

/-- The piece can take these characters. -/
def Piece.Takes : Piece → List Char → Prop
  | .many holds, part => part ≠ [] ∧ ∀ c ∈ part, holds c = true
  | .oneOf choices, part => part ∈ choices

/-- The text consists of parts that the pieces of the pattern can take. -/
structure Fits (pieces : List Piece) (cs : List Char) (parts : List (List Char)) : Prop where
  takes : List.Forall₂ Piece.Takes pieces parts
  flatten : parts.flatten = cs

variable {holds : Char → Bool} {choices : List (List Char)} {piece : Piece} {pieces : List Piece}
  {cs taken rest : List Char} {parts : List (List Char)}

/-- The first character of a way is the first of the text, and the others are a way of the rest, if
there are any. -/
theorem cons_mem_runsOf_cons_iff {c d : Char} :
    (d :: taken, rest) ∈ runsOf holds (c :: cs) ↔
      d = c ∧ holds c = true ∧ (taken = [] ∧ rest = cs ∨ (taken, rest) ∈ runsOf holds cs) := by
  by_cases hc : holds c = true
  · have hruns : runsOf holds (c :: cs) =
        (runsOf holds cs).map (fun (taken, rest) => (c :: taken, rest)) ++ [([c], cs)] := if_pos hc
    simp only [hruns, hc, List.mem_append, List.mem_map, List.mem_singleton, Prod.exists,
      Prod.mk.injEq, List.cons.injEq]
    constructor
    · rintro (⟨front, back, hmem, ⟨rfl, rfl⟩, rfl⟩ | ⟨⟨rfl, rfl⟩, rfl⟩)
      · exact ⟨rfl, trivial, .inr hmem⟩
      · exact ⟨rfl, trivial, .inl ⟨rfl, rfl⟩⟩
    · rintro ⟨rfl, -, ⟨rfl, rfl⟩ | hmem⟩
      · exact .inr ⟨⟨rfl, rfl⟩, rfl⟩
      · exact .inl ⟨taken, rest, hmem, ⟨rfl, rfl⟩, rfl⟩
  · simp [runsOf, hc]

theorem mem_runsOf_iff :
    (taken, rest) ∈ runsOf holds cs ↔
      cs = taken ++ rest ∧ taken ≠ [] ∧ ∀ c ∈ taken, holds c = true := by
  induction cs generalizing taken with
  | nil => cases taken <;> simp [runsOf]
  | cons c cs ih =>
      cases taken with
      | nil => simp [runsOf]
      | cons d taken =>
          rw [cons_mem_runsOf_cons_iff, ih, List.cons_append, List.cons.injEq,
            List.forall_mem_cons]
          constructor
          · rintro ⟨rfl, hc, ⟨rfl, rfl⟩ | ⟨rfl, -, hall⟩⟩
            · exact ⟨⟨rfl, rfl⟩, List.cons_ne_nil _ _, hc, by simp⟩
            · exact ⟨⟨rfl, rfl⟩, List.cons_ne_nil _ _, hc, hall⟩
          · rintro ⟨⟨rfl, rfl⟩, -, hc, hall⟩
            refine ⟨rfl, hc, ?_⟩
            cases taken with
            | nil => exact .inl ⟨rfl, rfl⟩
            | cons e taken => exact .inr ⟨rfl, List.cons_ne_nil _ _, hall⟩

theorem mem_choicesOf_iff :
    (taken, rest) ∈ choicesOf choices cs ↔ cs = taken ++ rest ∧ taken ∈ choices := by
  simp only [choicesOf, List.mem_filterMap, Option.map_eq_some_iff, Prod.mk.injEq,
    List.isPrefixOf?_eq_some_iff_append_eq]
  constructor
  · rintro ⟨choice, hchoice, back, hback, rfl, rfl⟩
    exact ⟨hback.symm, hchoice⟩
  · rintro ⟨rfl, hchoice⟩
    exact ⟨taken, hchoice, rest, rfl, rfl, rfl⟩

/-- The ways of a piece are the partitions of the text that begin with something it can take. -/
theorem Piece.mem_ways_iff :
    (taken, rest) ∈ piece.ways cs ↔ cs = taken ++ rest ∧ piece.Takes taken := by
  cases piece with
  | many holds => exact mem_runsOf_iff
  | oneOf choices => exact mem_choicesOf_iff

/-- What is found fits. -/
theorem matchParts?_fits (hfound : matchParts? pieces cs = some parts) : Fits pieces cs parts := by
  induction pieces generalizing cs parts with
  | nil =>
      simp only [matchParts?, Option.ite_none_right_eq_some, List.isEmpty_iff,
        Option.some.injEq] at hfound
      obtain ⟨rfl, rfl⟩ := hfound
      exact ⟨.nil, rfl⟩
  | cons piece pieces ih =>
      obtain ⟨⟨taken, rest⟩, hway, hrest⟩ := List.exists_of_findSome?_eq_some hfound
      obtain ⟨others, hothers, rfl⟩ := Option.map_eq_some_iff.mp hrest
      obtain ⟨rfl, htakes⟩ := Piece.mem_ways_iff.mp hway
      obtain ⟨hall, rfl⟩ := ih hothers
      exact ⟨.cons htakes hall, rfl⟩

/-- If any parts fit, some are found. -/
theorem exists_matchParts? (hfits : Fits pieces cs parts) :
    ∃ found, matchParts? pieces cs = some found := by
  obtain ⟨htakes, rfl⟩ := hfits
  induction htakes with
  | nil => exact ⟨[], rfl⟩
  | @cons piece part pieces parts htakes _ ih =>
      obtain ⟨others, hothers⟩ := ih
      have hway : (part, parts.flatten) ∈ piece.ways (part :: parts).flatten :=
        Piece.mem_ways_iff.mpr ⟨rfl, htakes⟩
      rw [← Option.isSome_iff_exists, matchParts?, List.findSome?_isSome_iff]
      exact ⟨_, hway, by simp only [hothers, Option.map_some, Option.isSome_some]⟩

/-- If no two partitions of a text fit, then the parts that are found are the ones that fit. -/
theorem matchParts?_eq_some_iff
    (hunique : ∀ first second, Fits pieces cs first → Fits pieces cs second → first = second) :
    matchParts? pieces cs = some parts ↔ Fits pieces cs parts := by
  constructor
  · exact matchParts?_fits
  · intro hfits
    obtain ⟨found, hfound⟩ := exists_matchParts? hfits
    rw [hfound, hunique found parts (matchParts?_fits hfound) hfits]

end QueryCanvas.Text
