import Mathlib.Data.List.Basic
import QueryCanvas.Directive.Key

/-!
# Keys that are written alike

A key is written with a point between its parts, and the parts may hold points too.
`FieldKey.text_eq_iff` says exactly when two keys have one text: they are the same key, or the text
has two points and each key is cut at another one of them (`FieldKey.Overlaps`).
-/

namespace QueryCanvas

namespace FieldKey

variable {a b : FieldKey}

/-- The second key is the text of the first one, cut at a later point. -/
def Overlaps (a b : FieldKey) : Prop :=
  ∃ middle, b.table = a.table ++ "." ++ middle ∧ a.field = middle ++ "." ++ b.field

theorem toList_text (k : FieldKey) : k.text.toList = k.table.toList ++ '.' :: k.field.toList := by
  simp [text]

/-- Keys that overlap are written alike. -/
theorem Overlaps.text_eq (h : a.Overlaps b) : a.text = b.text := by
  obtain ⟨middle, htable, hfield⟩ := h
  simp [text, htable, hfield, String.append_assoc]

/-- No key overlaps itself. -/
theorem not_overlaps_self (a : FieldKey) : ¬ a.Overlaps a := by
  rintro ⟨middle, htable, -⟩
  have hlength := congrArg String.length htable
  simp only [String.length_append] at hlength
  have hpoint : ".".length = 1 := rfl
  omega

/-- The table of the later cut holds a point. -/
theorem Overlaps.point_mem (h : a.Overlaps b) : '.' ∈ b.table.toList := by
  obtain ⟨middle, htable, -⟩ := h
  simp [htable]

/-- If the longer table goes on after the shorter one, the keys are the same, or they overlap. -/
theorem eq_or_overlaps {more : List Char} (htable : b.table.toList = a.table.toList ++ more)
    (hrest : '.' :: a.field.toList = more ++ '.' :: b.field.toList) : a = b ∨ a.Overlaps b := by
  cases more with
  | nil =>
      -- Both tables end at the same point, so both parts are equal.
      left
      rw [List.append_nil] at htable
      rw [List.nil_append, List.cons.injEq] at hrest
      cases a
      cases b
      exact congrArg₂ FieldKey.mk (String.toList_inj.mp htable.symm)
        (String.toList_inj.mp hrest.2)
  | cons c middle =>
      -- The longer table goes on with the point that ends the shorter one.
      right
      rw [List.cons_append, List.cons.injEq] at hrest
      obtain ⟨rfl, hfield⟩ := hrest
      refine ⟨String.ofList middle, ?_, ?_⟩
      · rw [← String.toList_inj]
        simpa using htable
      · rw [← String.toList_inj]
        simpa using hfield

/-- Two keys are written alike exactly if they are the same or one overlaps the other. -/
theorem text_eq_iff : a.text = b.text ↔ a = b ∨ a.Overlaps b ∨ b.Overlaps a := by
  constructor
  · intro htext
    rw [← String.toList_inj, toList_text, toList_text] at htext
    rcases List.append_eq_append_iff.mp htext with ⟨more, htable, hrest⟩ | ⟨more, htable, hrest⟩
    · exact (eq_or_overlaps htable hrest).imp_right .inl
    · rcases eq_or_overlaps htable hrest with rfl | hoverlaps
      · exact .inl rfl
      · exact .inr (.inr hoverlaps)
  · rintro (rfl | hoverlaps | hoverlaps)
    · rfl
    · exact hoverlaps.text_eq
    · exact hoverlaps.text_eq.symm

end FieldKey

end QueryCanvas
