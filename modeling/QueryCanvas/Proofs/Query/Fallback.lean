import QueryCanvas.Proofs.Canvas.Records
import QueryCanvas.Proofs.Join.Exactness
import QueryCanvas.Proofs.Query.RoundTrip

/-!
# Compiling without joins

A canvas can be compiled without inference: its tables then give a bare entry for each node. Where
inference finds no edge, no label is taken when it comes to the bare entries, so these are the same
without the repetitions (`entries_of_unusable`). `compileCanvas_fallback` compares the two
specifications.
-/

namespace QueryCanvas

/-! ## Canvases without an edge -/

/-- Every connection of the canvas is dropped. -/
def Canvas.Unusable (c : Canvas) : Prop :=
  ∀ connection ∈ c.connections,
    ∃ d ∈ (inferJoins c.nodes c.connections).dropped, d.connection = connection

instance (c : Canvas) : Decidable c.Unusable :=
  inferInstanceAs (Decidable (∀ connection ∈ c.connections,
    ∃ d ∈ (inferJoins c.nodes c.connections).dropped, d.connection = connection))

variable {c : Canvas}

/-- A canvas whose connections are all dropped has no edges. -/
theorem Canvas.Unusable.edges_eq_nil (h : c.Unusable) : edges c.nodes c.connections = [] := by
  refine List.eq_nil_iff_forall_not_mem.mpr ?_
  intro e he
  obtain ⟨connection, hconnection, hjoins⟩ := joins_of_mem_edges he
  obtain ⟨d, hd, rfl⟩ := h connection hconnection
  -- The connection would pass all checks and fail one.
  have hfails := ((splits_edges_droppedFrom c.nodes 0 c.connections).fails_of_mem hd).2
  have hboth := hjoins.edge_eq.symm.trans hfails.edge_eq
  cases hboth

/-- Inference on a canvas whose connections are all dropped gives the table names without
repetitions. -/
theorem entries_of_unusable (h : c.Unusable) :
    (inferJoins c.nodes c.connections).entries = c.tableNames.eraseDups.map .bare := by
  rw [entries_inferJoins, bareLabels, h.edges_eq_nil]
  show [] ++ (uncovered [] c.tableNames).map ReferenceEntry.bare = _
  rw [List.nil_append, uncovered_eq_unseen, nil_unseen]

/-! ## The two specifications -/

/-- Specifications that differ in the reference tables at most are the same exactly if these are. -/
theorem Specification.eq_iff_referenceTables {first second : Specification}
    (hothers : { first with referenceTables := second.referenceTables } = second) :
    first = second ↔ first.referenceTables = second.referenceTables := by
  constructor
  · exact congrArg Specification.referenceTables
  · intro htables
    rw [← hothers, ← htables]

/-- Specifications without joins have the same canonical text only if they are the same. -/
theorem Specification.canonicalText_inj {first second : Specification} (hfirst : first.joins = [])
    (hsecond : second.joins = []) :
    first.canonicalText = second.canonicalText ↔ first = second := by
  constructor
  · intro htext
    have hread := read_canonicalText hfirst
    rw [htext, read_canonicalText hsecond] at hread
    exact (Except.ok.inj hread).symm
  · exact congrArg Specification.canonicalText

/-- Compiling without inference is compiling with it, up to repetitions. On a canvas whose
connections are all dropped, or that has none, inference brings in each table once, in the order of
the first nodes, and without inference each node brings in its table. Nothing else differs, and the
same entries stand in both specifications, which are equal exactly if no table is placed twice; so
are their canonical texts. -/
theorem compileCanvas_fallback (hunusable : c.Unusable) (configs : FieldConfigs) :
    let inferred := (compileCanvas c configs).specification
    let fallback := compile configs none c.tableNames
    inferred.referenceTables = c.tableNames.eraseDups.map .bare ∧
    fallback.referenceTables = c.tableNames.map .bare ∧
    { inferred with referenceTables := fallback.referenceTables } = fallback ∧
    (∀ entry, entry ∈ inferred.referenceTables ↔ entry ∈ fallback.referenceTables) ∧
    (inferred = fallback ↔ c.tableNames.Nodup) ∧
    (inferred.canonicalText = fallback.canonicalText ↔ c.tableNames.Nodup) := by
  intro inferred fallback
  have hinferred : inferred.referenceTables = c.tableNames.eraseDups.map .bare :=
    entries_of_unusable hunusable
  have hfallback : fallback.referenceTables = c.tableNames.map .bare := rfl
  have hothers : { inferred with referenceTables := fallback.referenceTables } = fallback := rfl
  have hequal : inferred = fallback ↔ c.tableNames.Nodup := by
    rw [Specification.eq_iff_referenceTables hothers, hinferred, hfallback,
      ReferenceEntry.bare_injective.list_map.eq_iff, eraseDups_eq_self_iff]
  refine ⟨hinferred, hfallback, hothers, ?_, hequal, ?_⟩
  · intro entry
    rw [hinferred, hfallback, List.mem_map, List.mem_map]
    simp only [List.mem_eraseDups]
  · exact (Specification.canonicalText_inj rfl rfl).trans hequal

/-- One table placed twice, with a connection that no field can be read from. -/
def unreadable : List Canvas.Call :=
  [.addTable ⟨"parts", []⟩, .addTable ⟨"orders", []⟩, .addTable ⟨"parts", []⟩,
   .insertConnection ⟨0, "no handle", 2, "2-id-target"⟩]

theorem compileCanvas_fallback_unreadable :
    let c := ((Canvas.empty {}).run unreadable).2
    c.connections ≠ [] ∧ c.Unusable ∧
      (compileCanvas c .empty).specification.referenceTables = [.bare "parts", .bare "orders"] ∧
      (compile .empty none c.tableNames).referenceTables =
        [.bare "parts", .bare "orders", .bare "parts"] ∧
      (compileCanvas c .empty).specification ≠ compile .empty none c.tableNames := by
  intro c
  have hunusable : c.Unusable := by decide +kernel
  obtain ⟨hinferred, hfallback, -, -, hequal, -⟩ := compileCanvas_fallback hunusable .empty
  refine ⟨by decide +kernel, hunusable, hinferred.trans ?_, hfallback.trans ?_, ?_⟩
  · decide +kernel
  · decide +kernel
  · exact mt hequal.mp (by decide +kernel)

end QueryCanvas
