import QueryCanvas.Proofs.Directive.KeyText

/-!
# Reading keys back

A key is read from a text by cutting it at its first point. `FieldKey.parse?_eq_some_iff` says which
texts are read as which keys; these are the texts of the keys that are `Readable`. The text of any
other key is not read at all, or as the key that it is when cut at its first point:
`FieldKey.reads_back` tells the three outcomes apart.
-/

namespace QueryCanvas

namespace FieldKey

variable {s : String} {k other : FieldKey} {cs table field : List Char}

/-- Characters are cut at their first point. -/
theorem cut?_append (hpoint : '.' ∉ table) (field : List Char) :
    cut? (table ++ '.' :: field) = some (table, field) := by
  induction table with
  | nil => rfl
  | cons c table ih =>
      rw [List.mem_cons, not_or] at hpoint
      rw [List.cons_append, cut?, if_neg (Ne.symm hpoint.1), ih hpoint.2]
      rfl

/-- What a cut gives are the parts before and after the first point. -/
theorem cut?_eq_some_iff :
    cut? cs = some (table, field) ↔ cs = table ++ '.' :: field ∧ '.' ∉ table := by
  constructor
  · intro hcut
    induction cs generalizing table with
    | nil => cases hcut
    | cons c cs ih =>
        rw [cut?] at hcut
        split at hcut
        · rename_i hc
          subst hc
          cases hcut
          exact ⟨rfl, List.not_mem_nil⟩
        · rename_i hc
          obtain ⟨⟨front, back⟩, hfront, heq⟩ := Option.map_eq_some_iff.mp hcut
          cases heq
          obtain ⟨rfl, hpoint⟩ := ih hfront
          exact ⟨rfl, by simp [hpoint, Ne.symm hc]⟩
  · rintro ⟨rfl, hpoint⟩
    exact cut?_append hpoint field

/-- Neither part of the key is empty, and its table has no point. -/
structure Readable (k : FieldKey) : Prop where
  table_ne : k.table ≠ ""
  noPoint : '.' ∉ k.table.toList
  field_ne : k.field ≠ ""

theorem readable_iff : k.Readable ↔ k.table ≠ "" ∧ '.' ∉ k.table.toList ∧ k.field ≠ "" := by
  constructor
  · rintro ⟨htable, hpoint, hfield⟩
    exact ⟨htable, hpoint, hfield⟩
  · rintro ⟨htable, hpoint, hfield⟩
    exact ⟨htable, hpoint, hfield⟩

/-- A key is read exactly from its text, and only if it is readable. -/
theorem parse?_eq_some_iff : parse? s = some k ↔ s = k.text ∧ k.Readable := by
  constructor
  · intro hparse
    unfold parse? at hparse
    split at hparse
    · rename_i t table f field hcut
      cases hparse
      obtain ⟨hs, hpoint⟩ := cut?_eq_some_iff.mp hcut
      refine ⟨?_, by simp, by simpa using hpoint, by simp⟩
      rw [← String.toList_inj, toList_text, hs, String.toList_ofList, String.toList_ofList]
    · cases hparse
  · rintro ⟨rfl, htable, hpoint, hfield⟩
    have hcut : cut? k.text.toList = some (k.table.toList, k.field.toList) := by
      rw [toList_text]
      exact cut?_append hpoint _
    obtain ⟨t, table, hchars⟩ := List.exists_cons_of_ne_nil (mt String.toList_eq_nil_iff.mp htable)
    obtain ⟨f, field, hothers⟩ := List.exists_cons_of_ne_nil (mt String.toList_eq_nil_iff.mp hfield)
    rw [hchars, hothers] at hcut
    simp only [parse?, hcut]
    rw [← hchars, ← hothers, String.ofList_toList, String.ofList_toList]

/-- The text of a key is read as that key exactly if the key is readable. -/
theorem parse?_text_eq_some_iff : parse? k.text = some k ↔ k.Readable := by
  rw [parse?_eq_some_iff]
  exact and_iff_right rfl

/-- The text of a key is read as another key exactly if that one is the key cut at its first point,
and something stands before the point. -/
theorem parse?_text_eq_other_iff :
    parse? k.text = some other ∧ other ≠ k ↔
      other.Overlaps k ∧ other.table ≠ "" ∧ '.' ∉ other.table.toList := by
  rw [parse?_eq_some_iff]
  constructor
  · rintro ⟨⟨htext, htable, hpoint, -⟩, hother⟩
    rcases text_eq_iff.mp htext with rfl | hoverlaps | hoverlaps
    · exact absurd rfl hother
    · exact absurd hoverlaps.point_mem hpoint
    · exact ⟨hoverlaps, htable, hpoint⟩
  · rintro ⟨hoverlaps, htable, hpoint⟩
    refine ⟨⟨hoverlaps.text_eq.symm, htable, hpoint, ?_⟩, ?_⟩
    · obtain ⟨middle, -, hfield⟩ := hoverlaps
      simp [hfield]
    · rintro rfl
      exact not_overlaps_self _ hoverlaps

/-- A table with a point is cut at its first one. -/
theorem exists_overlaps (hpoint : '.' ∈ k.table.toList) :
    ∃ cut : FieldKey, cut.Overlaps k ∧ '.' ∉ cut.table.toList := by
  obtain ⟨first, rest, htable, hfirst⟩ := List.eq_append_cons_of_mem hpoint
  refine ⟨⟨String.ofList first, String.ofList rest ++ "." ++ k.field⟩,
    ⟨String.ofList rest, ?_, rfl⟩, by simpa using hfirst⟩
  rw [← String.toList_inj, htable]
  simp

/-- The text of a key is not read exactly if the key has no table, or its table begins with a point,
or it has no point in its table and no field. -/
theorem parse?_text_eq_none_iff :
    parse? k.text = none ↔
      k.table = "" ∨ (∃ rest, k.table = "." ++ rest) ∨ '.' ∉ k.table.toList ∧ k.field = "" := by
  constructor
  · intro hnone
    by_cases hpoint : '.' ∈ k.table.toList
    · obtain ⟨cut, hoverlaps, hcut⟩ := exists_overlaps hpoint
      have hempty : cut.table = "" := by
        by_contra hne
        have hread := (parse?_text_eq_other_iff.mpr ⟨hoverlaps, hne, hcut⟩).1
        exact Option.some_ne_none cut (hread.symm.trans hnone)
      obtain ⟨rest, htable, -⟩ := hoverlaps
      exact .inr (.inl ⟨rest, by rw [htable, hempty, String.empty_append]⟩)
    · by_cases htable : k.table = ""
      · exact .inl htable
      · refine .inr (.inr ⟨hpoint, ?_⟩)
        by_contra hfield
        have hread := parse?_text_eq_some_iff.mpr ⟨htable, hpoint, hfield⟩
        exact Option.some_ne_none k (hread.symm.trans hnone)
  · intro hunread
    rw [Option.eq_none_iff_forall_ne_some]
    intro other hread
    by_cases hsame : other = k
    · -- The key itself is not readable.
      subst hsame
      obtain ⟨htable, hpoint, hfield⟩ := parse?_text_eq_some_iff.mp hread
      rcases hunread with hempty | ⟨rest, hstart⟩ | ⟨-, hempty⟩
      · exact htable hempty
      · exact hpoint (by simp [hstart])
      · exact hfield hempty
    · -- Another key would be cut at a point behind the start of the table.
      obtain ⟨hoverlaps, htable, hpoint⟩ := parse?_text_eq_other_iff.mp ⟨hread, hsame⟩
      obtain ⟨c, front, hchars⟩ :=
        List.exists_cons_of_ne_nil (mt String.toList_eq_nil_iff.mp htable)
      rcases hunread with hempty | ⟨rest, hstart⟩ | ⟨hnoPoint, -⟩
      · exact absurd hoverlaps.point_mem (by simp [hempty])
      · obtain ⟨middle, hlong, -⟩ := hoverlaps
        have hfirst := congrArg String.toList (hlong.symm.trans hstart)
        simp only [String.toList_append, hchars, List.cons_append] at hfirst
        have hc : c = '.' := (List.cons.inj hfirst).1
        exact hpoint (by simp [hchars, hc])
      · exact hnoPoint hoverlaps.point_mem

/-- Keys whose tables have no point are written differently unless they are the same. -/
theorem text_inj_of_noPoint {a b : FieldKey} (ha : '.' ∉ a.table.toList)
    (hb : '.' ∉ b.table.toList) : a.text = b.text ↔ a = b := by
  rw [text_eq_iff]
  constructor
  · rintro (hsame | hoverlaps | hoverlaps)
    · exact hsame
    · exact absurd hoverlaps.point_mem hb
    · exact absurd hoverlaps.point_mem ha
  · exact .inl

/-- A text is read as a key exactly if it is a table, a point and a field, with no point in the
table and neither part empty. So the text of a key is read as that key exactly if the key is
readable. It is not read at all if there is no table, nothing before the first point of the table,
or neither a point in the table nor a field. In all other cases it is read as the key cut at the
first point of its table, which is another key. Among keys whose tables have no point, different
ones are written differently. -/
theorem reads_back :
    (∀ s k, parse? s = some k ↔
        s = k.table ++ "." ++ k.field ∧ k.table ≠ "" ∧ '.' ∉ k.table.toList ∧ k.field ≠ "") ∧
      (∀ k, (parse? k.text = some k ↔ k.table ≠ "" ∧ '.' ∉ k.table.toList ∧ k.field ≠ "") ∧
        (parse? k.text = none ↔
          k.table = "" ∨ (∃ rest, k.table = "." ++ rest) ∨ '.' ∉ k.table.toList ∧ k.field = "") ∧
        ∀ other, parse? k.text = some other ∧ other ≠ k ↔
          ∃ first rest, k.table = first ++ "." ++ rest ∧ first ≠ "" ∧ '.' ∉ first.toList ∧
            other = ⟨first, rest ++ "." ++ k.field⟩) ∧
      ∀ a b : FieldKey, '.' ∉ a.table.toList → '.' ∉ b.table.toList →
        (a.text = b.text ↔ a = b) := by
  refine ⟨?_, ?_, fun a b => text_inj_of_noPoint⟩
  · intro s k
    rw [parse?_eq_some_iff, readable_iff]
    rfl
  · intro k
    refine ⟨by rw [parse?_text_eq_some_iff, readable_iff], parse?_text_eq_none_iff, ?_⟩
    intro other
    rw [parse?_text_eq_other_iff]
    constructor
    · rintro ⟨⟨rest, htable, hfield⟩, hne, hpoint⟩
      exact ⟨other.table, rest, htable, hne, hpoint, by rw [← hfield]⟩
    · rintro ⟨first, rest, htable, hne, hpoint, rfl⟩
      exact ⟨⟨rest, htable, rfl⟩, hne, hpoint⟩

/-- A field may hold points; a schema before the table makes another key of it, and keys that differ
in a last point are told apart. -/
theorem reads_back_schema :
    parse? (text ⟨"orders", "total.net"⟩) = some ⟨"orders", "total.net"⟩ ∧
      parse? (text ⟨"sales.orders.", "id"⟩) = some ⟨"sales", "orders..id"⟩ ∧
      parse? (text ⟨".orders", "id"⟩) = none ∧
      ('.' ∉ "orders".toList ∧ text ⟨"orders", "total"⟩ ≠ text ⟨"orders", "total."⟩) := by
  obtain ⟨-, hback, hapart⟩ := reads_back
  have hpoint : '.' ∉ "orders".toList := by decide
  refine ⟨?_, ?_, ?_, hpoint, ?_⟩
  · exact (hback _).1.mpr ⟨by decide, hpoint, by decide⟩
  · exact (((hback _).2.2 _).mpr
      ⟨"sales", "orders.", by decide +kernel, by decide, by decide, by decide +kernel⟩).1
  · exact (hback _).2.1.mpr (.inr (.inl ⟨"orders", by decide +kernel⟩))
  · rw [Ne, hapart ⟨"orders", "total"⟩ ⟨"orders", "total."⟩ hpoint hpoint]
    decide

end FieldKey

end QueryCanvas
