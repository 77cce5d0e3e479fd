import Mathlib.Data.List.Induction

/-!
# First occurrences

A list without its later repetitions keeps its members where they first occur. Join inference and
scripts list names in one walk, with a growing set of what was seen. `unseen` says what such a walk
keeps without the set growing, and `unseen_cons` what it does at each step. With it go the facts
about what is kept: which members (`mem_unseen`), each once (`nodup_unseen`), and in which order
(`pairwise_unseen`).
-/

namespace QueryCanvas

variable {α : Type} [DecidableEq α] {seen other l : List α} {a x : α}

/-! ## Without repetitions -/

/-- One more member comes last, unless it came before. -/
theorem eraseDups_concat (l : List α) (x : α) :
    (l ++ [x]).eraseDups = if x ∈ l then l.eraseDups else l.eraseDups ++ [x] := by
  rw [List.eraseDups_append]
  by_cases hold : x ∈ l
  · have hnone : [x].removeAll l = [] := by simpa [List.removeAll] using hold
    rw [hnone, List.eraseDups_nil, List.append_nil, if_pos hold]
  · have hnew : [x].removeAll l = [x] := by simpa [List.removeAll] using hold
    rw [hnew, if_neg hold]
    rfl

theorem nodup_eraseDups (l : List α) : l.eraseDups.Nodup := by
  induction l using List.reverseRecOn with
  | nil => exact List.nodup_nil
  | append_singleton l x ih =>
      rw [eraseDups_concat]
      split
      · exact ih
      · rename_i hnew
        refine List.nodup_append.mpr ⟨ih, List.nodup_cons.mpr ⟨List.not_mem_nil, .nil⟩, ?_⟩
        rintro old hold _ (_ | ⟨_, hnone⟩) rfl
        · exact hnew (List.mem_eraseDups.mp hold)
        · cases hnone

/-- Nothing is removed exactly if nothing is repeated. -/
theorem eraseDups_eq_self_iff : l.eraseDups = l ↔ l.Nodup := by
  constructor
  · intro hsame
    rw [← hsame]
    exact nodup_eraseDups l
  · intro hdistinct
    induction l using List.reverseRecOn with
    | nil => rfl
    | append_singleton l x ih =>
        obtain ⟨hbefore, -, hne⟩ := List.nodup_append.mp hdistinct
        have hnew : x ∉ l := fun hold => hne x hold x List.mem_cons_self rfl
        rw [eraseDups_concat, if_neg hnew, ih hbefore]

/-- The first member of a kind is a first occurrence. -/
theorem find?_eraseDups (l : List α) (kind : α → Bool) : l.eraseDups.find? kind = l.find? kind := by
  induction l using List.reverseRecOn with
  | nil => rfl
  | append_singleton l x ih =>
      rw [eraseDups_concat, List.find?_append]
      by_cases hold : x ∈ l
      · rw [if_pos hold, ih]
        cases hfound : l.find? kind with
        | some y => rfl
        | none =>
            -- The repeated member is not of the kind either.
            have hother : ¬ kind x = true := List.find?_eq_none.mp hfound x hold
            rw [List.find?_cons_of_neg hother]
            rfl
      · rw [if_neg hold, List.find?_append, ih]

/-! ## Without what was seen -/

/-- The members that are not among those seen, without repetitions. -/
def unseen (seen l : List α) : List α :=
  (l.filter (· ∉ seen)).eraseDups

@[simp] theorem unseen_nil (seen : List α) : unseen seen [] = [] := rfl

/-- If nothing was seen, only repetitions are left out. -/
theorem nil_unseen (l : List α) : unseen [] l = l.eraseDups := by
  have hall : l.filter (· ∉ ([] : List α)) = l := List.filter_eq_self.mpr (by simp)
  rw [unseen, hall]

/-- A walk leaves out a member that was seen, and otherwise keeps it and has then seen it. -/
theorem unseen_cons (seen : List α) (x : α) (l : List α) :
    unseen seen (x :: l) = if x ∈ seen then unseen seen l else x :: unseen (x :: seen) l := by
  unfold unseen
  by_cases hold : x ∈ seen
  · rw [if_pos hold, List.filter_cons_of_neg (by simpa using hold)]
  · have hgrown : l.filter (· ∉ x :: seen) =
        (l.filter (· ∉ seen)).filter fun y => !y == x := by
      rw [List.filter_filter]
      refine List.filter_congr ?_
      intro y _
      rw [Bool.eq_iff_iff]
      simp [not_or]
    rw [if_neg hold, List.filter_cons_of_pos (by simpa using hold), List.eraseDups_cons, hgrown]

/-- The same from the end: the last member is kept if it is neither seen nor repeated. -/
theorem unseen_concat (seen l : List α) (x : α) :
    unseen seen (l ++ [x]) =
      if x ∈ seen ∨ x ∈ l then unseen seen l else unseen seen l ++ [x] := by
  unfold unseen
  rw [List.filter_append]
  by_cases hold : x ∈ seen
  · rw [List.filter_cons_of_neg (by simpa using hold), List.filter_nil, List.append_nil,
      if_pos (.inl hold)]
  · rw [List.filter_cons_of_pos (by simpa using hold), List.filter_nil, eraseDups_concat]
    simp [hold]

/-- What is kept occurs and was not seen. -/
theorem mem_unseen : a ∈ unseen seen l ↔ a ∈ l ∧ a ∉ seen := by
  rw [unseen, List.mem_eraseDups, List.mem_filter, decide_eq_true_iff]

/-- What is kept depends on which members were seen, and not on their order or repetitions. -/
theorem unseen_congr (hseen : ∀ a, a ∈ seen ↔ a ∈ other) (l : List α) :
    unseen seen l = unseen other l := by
  simp only [unseen, hseen]

/-- The members that are kept stand in the order of their first occurrences. -/
theorem pairwise_unseen (seen l : List α) :
    (unseen seen l).Pairwise fun a b => l.idxOf a < l.idxOf b := by
  induction l using List.reverseRecOn with
  | nil => exact .nil
  | append_singleton l x ih =>
      -- One more member at the end moves none of the first occurrences.
      have hbefore : (unseen seen l).Pairwise fun a b =>
          (l ++ [x]).idxOf a < (l ++ [x]).idxOf b := by
        refine ih.imp_of_mem ?_
        intro a b ha hb hlt
        rw [List.idxOf_append, if_pos (mem_unseen.mp ha).1, List.idxOf_append,
          if_pos (mem_unseen.mp hb).1]
        exact hlt
      rw [unseen_concat]
      split
      · exact hbefore
      · rename_i hnew
        refine List.pairwise_append.mpr ⟨hbefore, List.pairwise_singleton _ _, ?_⟩
        intro a ha b hb
        have hmem : a ∈ l := (mem_unseen.mp ha).1
        obtain rfl := List.mem_singleton.mp hb
        rw [List.idxOf_append, if_pos hmem, List.idxOf_append, if_neg (not_or.mp hnew).2]
        exact Nat.lt_of_lt_of_le (List.idxOf_lt_length_of_mem hmem) (Nat.le_add_left _ _)

/-- Nothing is kept twice. -/
theorem nodup_unseen (seen l : List α) : (unseen seen l).Nodup :=
  nodup_eraseDups _

/-- The first kept member of a kind is the first one of that kind that was not seen. -/
theorem find?_unseen (seen l : List α) (kind : α → Bool) :
    (unseen seen l).find? kind = l.find? fun a => decide (a ∉ seen) && kind a := by
  rw [unseen, find?_eraseDups, List.find?_filter]
  simp

end QueryCanvas
