import Mathlib.Data.List.Count
import QueryCanvas.Proofs.FirstOccurrences
import QueryCanvas.Proofs.Join.Split

/-!
# Exactness of join inference

The bare entries of an inference are named by the labels that no join carries, each once, in the
order of their first nodes (`mem_uncovered`, `pairwise_uncovered`). With the split of the
connections this gives `inferJoins_exact`: what becomes of every connection, which names the entries
have, and how often and in which order the bare ones stand.
-/

namespace QueryCanvas

variable {nodes : List Node} {connections : List Connection}

/-! ## Tables without a join -/

/-- The uncovered labels are those that are not taken, each once. -/
theorem uncovered_eq_unseen (taken labels : List String) :
    uncovered taken labels = unseen taken labels := by
  induction labels generalizing taken with
  | nil => rfl
  | cons label labels ih => rw [uncovered, unseen_cons, ih, ih]

theorem mem_uncovered {taken labels : List String} {label : String} :
    label ∈ uncovered taken labels ↔ label ∈ labels ∧ label ∉ taken := by
  rw [uncovered_eq_unseen, mem_unseen]

/-- Which labels are uncovered depends on what is taken, and not on its order or repetitions. -/
theorem uncovered_congr {taken other : List String}
    (htaken : ∀ label, label ∈ taken ↔ label ∈ other) (labels : List String) :
    uncovered taken labels = uncovered other labels := by
  rw [uncovered_eq_unseen, uncovered_eq_unseen, unseen_congr htaken]

/-- The uncovered labels stand in the order of their first occurrences. In particular none stands
twice. -/
theorem pairwise_uncovered (taken labels : List String) :
    (uncovered taken labels).Pairwise fun first second =>
      labels.idxOf first < labels.idxOf second := by
  rw [uncovered_eq_unseen]
  exact pairwise_unseen taken labels

/-- No label is uncovered twice. -/
theorem nodup_uncovered (taken labels : List String) : (uncovered taken labels).Nodup := by
  rw [uncovered_eq_unseen]
  exact nodup_unseen taken labels

/-! ## The entries -/

/-- The entries of edges are the mirrored pairs of the edges. -/
theorem mem_flatMap_entries {edges : List Edge} {entry : ReferenceEntry} :
    entry ∈ edges.flatMap Edge.entries ↔ ∃ e ∈ edges, entry = e.forward ∨ entry = e.backward := by
  simp [Edge.entries]

/-- An entry of an edge has a join. -/
theorem join_ne_none_of_mem_flatMap {edges : List Edge} {entry : ReferenceEntry}
    (hentry : entry ∈ edges.flatMap Edge.entries) : entry.join ≠ none := by
  obtain ⟨e, -, rfl | rfl⟩ := mem_flatMap_entries.mp hentry <;>
    simp [Edge.forward, Edge.backward, ReferenceEntry.joined]

/-- The names and the joined tables of the entries of edges are labels of nodes. -/
theorem labels_of_mem_flatMap {entry : ReferenceEntry}
    (hentry : entry ∈ (edges nodes connections).flatMap Edge.entries) :
    entry.name ∈ nodes.map Node.label ∧
      ∀ join, entry.join = some join → join.table ∈ nodes.map Node.label := by
  obtain ⟨e, he, hentry⟩ := mem_flatMap_entries.mp hentry
  obtain ⟨c, -, hjoins⟩ := joins_of_mem_edges he
  obtain ⟨hsource, htarget⟩ := hjoins.labels
  rcases hentry with rfl | rfl
  · refine ⟨hsource, ?_⟩
    intro join hjoin
    cases hjoin
    exact htarget
  · refine ⟨htarget, ?_⟩
    intro join hjoin
    cases hjoin
    exact hsource

/-- The labels of the nodes that no join carries as its name. -/
def bareLabels (nodes : List Node) (connections : List Connection) : List String :=
  uncovered (((edges nodes connections).flatMap Edge.entries).map (·.name)) (nodes.map Node.label)

/-- The entries are the pairs of the edges, then the bare entries. -/
theorem entries_inferJoins (nodes : List Node) (connections : List Connection) :
    (inferJoins nodes connections).entries =
      (edges nodes connections).flatMap Edge.entries ++
        (bareLabels nodes connections).map ReferenceEntry.bare :=
  rfl

theorem mem_bareLabels {label : String} :
    label ∈ bareLabels nodes connections ↔
      label ∈ nodes.map Node.label ∧
        ∀ entry ∈ (edges nodes connections).flatMap Edge.entries, entry.name ≠ label := by
  rw [bareLabels, mem_uncovered, List.mem_map (f := ReferenceEntry.name)]
  simp

/-- A label names an entry with a join exactly if it names one of an edge. -/
theorem exists_joined_iff {label : String} :
    (∃ entry ∈ (inferJoins nodes connections).entries, entry.name = label ∧ entry.join ≠ none) ↔
      ∃ entry ∈ (edges nodes connections).flatMap Edge.entries, entry.name = label := by
  rw [entries_inferJoins]
  constructor
  · rintro ⟨entry, hentry, hname, hjoin⟩
    rcases List.mem_append.mp hentry with hentry | hentry
    · exact ⟨entry, hentry, hname⟩
    · obtain ⟨_, -, rfl⟩ := List.mem_map.mp hentry
      exact absurd rfl hjoin
  · rintro ⟨entry, hentry, hname⟩
    exact ⟨entry, List.mem_append_left _ hentry, hname, join_ne_none_of_mem_flatMap hentry⟩

/-- Bare entries are told apart by their names. -/
theorem ReferenceEntry.bare_injective : Function.Injective ReferenceEntry.bare := by
  intro first second hsame
  exact congrArg ReferenceEntry.name hsame

/-- A label has one bare entry, or none if it names an entry with a join. -/
theorem count_bare {label : String} (hlabel : label ∈ nodes.map Node.label) :
    (inferJoins nodes connections).entries.count (.bare label) =
      if ∃ entry ∈ (inferJoins nodes connections).entries, entry.name = label ∧ entry.join ≠ none
      then 0 else 1 := by
  have hpairs : ((edges nodes connections).flatMap Edge.entries).count (.bare label) = 0 := by
    rw [List.count_eq_zero]
    intro hentry
    exact join_ne_none_of_mem_flatMap hentry rfl
  have hbare : (bareLabels nodes connections).count label =
      if label ∈ bareLabels nodes connections then 1 else 0 :=
    (nodup_uncovered _ _).count
  rw [entries_inferJoins, List.count_append, hpairs,
    List.count_map_of_injective _ _ ReferenceEntry.bare_injective, hbare, ← entries_inferJoins]
  by_cases hjoined : ∃ entry ∈ (edges nodes connections).flatMap Edge.entries, entry.name = label
  · have hout : label ∉ bareLabels nodes connections := by
      rw [mem_bareLabels]
      rintro ⟨-, hfree⟩
      obtain ⟨entry, hentry, hname⟩ := hjoined
      exact hfree entry hentry hname
    rw [if_neg hout, if_pos (exists_joined_iff.mpr hjoined)]
  · have hin : label ∈ bareLabels nodes connections := by
      rw [mem_bareLabels]
      refine ⟨hlabel, ?_⟩
      intro entry hentry hname
      exact hjoined ⟨entry, hentry, hname⟩
    rw [if_pos hin, if_neg (mt exists_joined_iff.mp hjoined)]

/-- Every label of a node names an entry. -/
theorem exists_entry_of_label {label : String} (hlabel : label ∈ nodes.map Node.label) :
    ∃ entry ∈ (inferJoins nodes connections).entries, entry.name = label := by
  by_cases hbare : label ∈ bareLabels nodes connections
  · exact ⟨.bare label, List.mem_append_right _ (List.mem_map_of_mem hbare), rfl⟩
  · rw [mem_bareLabels, not_and] at hbare
    have hjoined := hbare hlabel
    push Not at hjoined
    obtain ⟨entry, hentry, hname⟩ := hjoined
    exact ⟨entry, List.mem_append_left _ hentry, hname⟩

/-- Every entry is named by the label of a node, and so is the table that it joins. -/
theorem labels_of_mem_entries {entry : ReferenceEntry}
    (hentry : entry ∈ (inferJoins nodes connections).entries) :
    entry.name ∈ nodes.map Node.label ∧
      ∀ join, entry.join = some join → join.table ∈ nodes.map Node.label := by
  rcases List.mem_append.mp hentry with hentry | hentry
  · exact labels_of_mem_flatMap hentry
  · obtain ⟨label, hlabel, rfl⟩ := List.mem_map.mp hentry
    refine ⟨(mem_bareLabels.mp hlabel).1, ?_⟩
    intro join hjoin
    cases hjoin

/-- Join inference is exact. Every connection is dropped for the first check that it fails or gives
one pair of mirrored entries, both in the order of the connections. After the pairs stand bare
entries only. The entries cover the labels of the nodes and name no other tables. A label has one
bare entry unless it names an entry with a join, and the bare entries follow the first occurrences
of their labels. -/
theorem inferJoins_exact (nodes : List Node) (connections : List Connection) :
    let result := inferJoins nodes connections
    let labels := nodes.map Node.label
    ∃ (joined : List Edge) (bare : List String),
      Splits nodes 0 connections joined result.dropped ∧
      result.entries =
        joined.flatMap (fun e =>
          [.joined e.sourceTable ⟨e.targetTable, e.sourceField, e.targetField⟩,
           .joined e.targetTable ⟨e.sourceTable, e.targetField, e.sourceField⟩]) ++
        bare.map .bare ∧
      (∀ label ∈ labels, ∃ entry ∈ result.entries, entry.name = label) ∧
      (∀ entry ∈ result.entries,
        entry.name ∈ labels ∧ ∀ join, entry.join = some join → join.table ∈ labels) ∧
      (∀ label ∈ labels, result.entries.count (.bare label) =
        if ∃ entry ∈ result.entries, entry.name = label ∧ entry.join ≠ none then 0 else 1) ∧
      bare.Pairwise fun first second => labels.idxOf first < labels.idxOf second := by
  refine ⟨edges nodes connections, bareLabels nodes connections, ?_, rfl, ?_, ?_, ?_, ?_⟩
  · exact splits_iff.mpr ⟨rfl, rfl⟩
  · intro label hlabel
    exact exists_entry_of_label hlabel
  · intro entry hentry
    exact labels_of_mem_entries hentry
  · intro label hlabel
    exact count_bare hlabel
  · exact pairwise_uncovered _ _

end QueryCanvas
