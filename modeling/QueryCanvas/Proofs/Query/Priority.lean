import Mathlib.Data.List.Sort
import QueryCanvas.Query.Compile

/-!
# The order of the sort entries

Sorting by priority is an insertion sort, so its result is sorted. It is stable: the entries of one
priority keep their order (`filter_sortByPriority`). `sortByPriority_cons_between` says how one
entry takes part in it: it is put in at one place of the sorted rest, and nothing else moves, even
if it ties with other entries. `compile_sortBy_stable` is what this makes of the sort section of a
compiled specification.
-/

namespace QueryCanvas

/-- The first entry has no greater priority than the second. -/
def SortEntry.NotAfter (e f : SortEntry) : Prop :=
  e.priority ≤ f.priority

namespace SortEntry

instance : DecidableRel NotAfter := fun e f =>
  inferInstanceAs (Decidable (e.priority ≤ f.priority))

instance : Std.Total NotAfter where
  total e f := Int32.le_total e.priority f.priority

instance : IsTrans SortEntry NotAfter where
  trans _ _ _ := Int32.le_trans

end SortEntry

theorem insertByPriority_eq_orderedInsert (e : SortEntry) (entries : List SortEntry) :
    insertByPriority e entries = entries.orderedInsert SortEntry.NotAfter e := by
  induction entries with
  | nil => rfl
  | cons f entries ih =>
      rw [insertByPriority, List.orderedInsert_cons, ih]
      rfl

/-- Sorting by priority is the insertion sort for the order of the priorities. -/
theorem sortByPriority_eq_insertionSort (entries : List SortEntry) :
    sortByPriority entries = entries.insertionSort SortEntry.NotAfter := by
  induction entries with
  | nil => rfl
  | cons e entries ih =>
      rw [List.insertionSort_cons, ← insertByPriority_eq_orderedInsert, ← ih]
      rfl

theorem sortByPriority_cons (e : SortEntry) (entries : List SortEntry) :
    sortByPriority (e :: entries) = insertByPriority e (sortByPriority entries) := rfl

/-- Sorted entries do not fall in priority. -/
theorem pairwise_sortByPriority (entries : List SortEntry) :
    (sortByPriority entries).Pairwise SortEntry.NotAfter := by
  rw [sortByPriority_eq_insertionSort]
  exact List.pairwise_insertionSort _ entries

/-- Sorting moves entries and neither loses nor doubles any. -/
theorem perm_sortByPriority (entries : List SortEntry) :
    (sortByPriority entries).Perm entries := by
  rw [sortByPriority_eq_insertionSort]
  exact List.perm_insertionSort _ entries

/-- An entry that is not after any other goes to the front. -/
theorem insertByPriority_of_forall {e : SortEntry} {entries : List SortEntry}
    (hfirst : ∀ f ∈ entries, e.NotAfter f) : insertByPriority e entries = e :: entries := by
  cases entries with
  | nil => rfl
  | cons f entries =>
      have hle : e.priority ≤ f.priority := hfirst f List.mem_cons_self
      rw [insertByPriority, if_pos hle]

/-- An inserted entry stands at one place between the others. -/
theorem insertByPriority_between (e : SortEntry) (entries : List SortEntry) :
    ∃ front back, entries = front ++ back ∧ insertByPriority e entries = front ++ e :: back := by
  induction entries with
  | nil => exact ⟨[], [], rfl, rfl⟩
  | cons f entries ih =>
      by_cases hle : e.priority ≤ f.priority
      · exact ⟨[], f :: entries, rfl, by rw [insertByPriority, if_pos hle]; rfl⟩
      · obtain ⟨front, back, hentries, hinsert⟩ := ih
        refine ⟨f :: front, back, by rw [hentries]; rfl, ?_⟩
        rw [insertByPriority, if_neg hle, hinsert]
        rfl

/-- Inserting an entry puts it at the same place, whether or not another entry stands among the
sorted ones. -/
theorem insertByPriority_append_cons {x e : SortEntry} {front back : List SortEntry}
    (hsorted : (front ++ e :: back).Pairwise SortEntry.NotAfter) :
    ∃ front' back', insertByPriority x (front ++ back) = front' ++ back' ∧
      insertByPriority x (front ++ e :: back) = front' ++ e :: back' := by
  induction front with
  | nil =>
      by_cases hle : x.priority ≤ e.priority
      · -- What stands after `e` is not before it, hence not before `x` either.
        have hback : ∀ f ∈ back, x.NotAfter f := by
          intro f hf
          exact Int32.le_trans hle (List.rel_of_pairwise_cons hsorted hf)
        refine ⟨[x], back, insertByPriority_of_forall hback, ?_⟩
        rw [List.nil_append, insertByPriority, if_pos hle]
        rfl
      · refine ⟨[], insertByPriority x back, rfl, ?_⟩
        rw [List.nil_append, insertByPriority, if_neg hle]
        rfl
  | cons f front ih =>
      by_cases hle : x.priority ≤ f.priority
      · refine ⟨x :: f :: front, back, ?_, ?_⟩ <;>
          rw [List.cons_append, insertByPriority, if_pos hle] <;> rfl
      · obtain ⟨front', back', hwithout, hwith⟩ := ih (List.Pairwise.of_cons hsorted)
        refine ⟨f :: front', back', ?_, ?_⟩
        · rw [List.cons_append, insertByPriority, if_neg hle, hwithout]
          rfl
        · rw [List.cons_append, insertByPriority, if_neg hle, hwith]
          rfl

/-- Sorting with one entry more puts that entry in at one place and moves nothing else. -/
theorem sortByPriority_cons_between (before after : List SortEntry) (e : SortEntry) :
    ∃ front back, sortByPriority (before ++ after) = front ++ back ∧
      sortByPriority (before ++ e :: after) = front ++ e :: back := by
  induction before with
  | nil => exact insertByPriority_between e (sortByPriority after)
  | cons x before ih =>
      obtain ⟨front, back, hwithout, hwith⟩ := ih
      have hsorted : (front ++ e :: back).Pairwise SortEntry.NotAfter := by
        rw [← hwith]
        exact pairwise_sortByPriority (before ++ e :: after)
      rw [List.cons_append, List.cons_append, sortByPriority_cons, sortByPriority_cons, hwithout,
        hwith]
      exact insertByPriority_append_cons hsorted

/-! ## Ties and distinct priorities -/

/-- Among the entries of one priority, an inserted entry comes first. -/
theorem filter_insertByPriority (e : SortEntry) (entries : List SortEntry) (priority : Int32) :
    (insertByPriority e entries).filter (·.priority == priority) =
      (e :: entries).filter (·.priority == priority) := by
  induction entries with
  | nil => rfl
  | cons f entries ih =>
      by_cases hle : e.priority ≤ f.priority
      · rw [insertByPriority, if_pos hle]
      · rw [insertByPriority, if_neg hle]
        by_cases hf : f.priority = priority
        · -- The entry passes only entries of lower priority.
          have he : e.priority ≠ priority := by
            rintro rfl
            exact hle (hf ▸ Int32.le_refl _)
          rw [List.filter_cons_of_pos (by simpa using hf), ih,
            List.filter_cons_of_neg (by simpa using he),
            List.filter_cons_of_neg (by simpa using he),
            List.filter_cons_of_pos (by simpa using hf)]
        · rw [List.filter_cons_of_neg (by simpa using hf), ih, List.filter_cons, List.filter_cons,
            List.filter_cons_of_neg (by simpa using hf)]

/-- Sorting keeps the order of the entries of one priority. -/
theorem filter_sortByPriority (entries : List SortEntry) (priority : Int32) :
    (sortByPriority entries).filter (·.priority == priority) =
      entries.filter (·.priority == priority) := by
  induction entries with
  | nil => rfl
  | cons e entries ih =>
      rw [sortByPriority_cons, filter_insertByPriority, List.filter_cons, List.filter_cons, ih]

/-- Entries of distinct priorities are sorted into one list, whatever order they come in. -/
theorem sortByPriority_eq_of_perm {first second : List SortEntry} (horder : first.Perm second)
    (hdistinct : (first.map SortEntry.priority).Nodup) :
    sortByPriority first = sortByPriority second := by
  have hperm : (sortByPriority first).Perm (sortByPriority second) :=
    (perm_sortByPriority first).trans (horder.trans (perm_sortByPriority second).symm)
  refine hperm.eq_of_pairwise ?_ (pairwise_sortByPriority first) (pairwise_sortByPriority second)
  intro e f he hf hle hge
  have hfirst : e ∈ first := (perm_sortByPriority first).mem_iff.mp he
  have hsecond : f ∈ first := horder.mem_iff.mpr ((perm_sortByPriority second).mem_iff.mp hf)
  exact List.inj_on_of_nodup_map hdistinct hfirst hsecond (Int32.le_antisymm hle hge)

/-- The sort section holds one entry for each configuration with a sort directive, whether its field
is included or not. The entries do not fall in priority, and those of one priority stand in
configuration order. Configurations in another order give the same section if no two sort
directives have the same priority. -/
theorem compile_sortBy_stable (configs : FieldConfigs) (inferred : Option (List ReferenceEntry))
    (tableNames : List String) :
    let sorted := (compile configs inferred tableNames).sortBy
    let directives := configs.entries.filterMap fun entry =>
      entry.2.sortBy.map fun s => (⟨entry.1.text, s.direction, s.priority⟩ : SortEntry)
    sorted.Perm directives ∧
    sorted.Pairwise (fun first second => first.priority ≤ second.priority) ∧
    (∀ priority : Int32, sorted.filter (·.priority == priority) =
      directives.filter (·.priority == priority)) ∧
    ∀ (other : FieldConfigs) inferred tableNames, other.entries.Perm configs.entries →
      (directives.map (·.priority)).Nodup →
        (compile other inferred tableNames).sortBy = sorted := by
  intro sorted directives
  refine ⟨?_, ?_, ?_, ?_⟩
  · exact perm_sortByPriority directives
  · exact pairwise_sortByPriority directives
  · intro priority
    exact filter_sortByPriority directives priority
  · intro other inferred tableNames horder hdistinct
    exact (sortByPriority_eq_of_perm (horder.symm.filterMap _) hdistinct).symm

/-- Configurations that sort by a field each, one of them excluded, with priorities on both sides of
zero. -/
def ranked : List (FieldKey × FieldConfig) :=
  [(⟨"orders", "total"⟩, { sortBy := some ⟨.descending, 7⟩ }),
   (⟨"orders", "day"⟩, { isIncluded := false, sortBy := some ⟨.ascending, -3⟩ }),
   (⟨"customers", "name"⟩, { sortBy := some ⟨.ascending, 0⟩ })]

theorem compile_sortBy_stable_ranked :
    let configs : FieldConfigs := OrderedMap.ofList ranked
    let reversed : FieldConfigs := OrderedMap.ofList ranked.reverse
    let directives := configs.entries.filterMap fun entry =>
      entry.2.sortBy.map fun s => (⟨entry.1.text, s.direction, s.priority⟩ : SortEntry)
    reversed.entries.Perm configs.entries ∧ (directives.map (·.priority)).Nodup ∧
      (compile reversed none []).sortBy = (compile configs none []).sortBy := by
  intro configs reversed directives
  have horder : reversed.entries.Perm configs.entries := by decide
  have hdistinct : (directives.map (·.priority)).Nodup := by decide
  exact ⟨horder, hdistinct, (compile_sortBy_stable configs none []).2.2.2 reversed none [] horder
    hdistinct⟩

end QueryCanvas
