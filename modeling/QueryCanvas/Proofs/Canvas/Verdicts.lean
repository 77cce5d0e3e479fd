import QueryCanvas.Proofs.Canvas.Connectable

/-!
# What a canvas says of two handles

A text at the end of a connection has to be the written form of a handle (`Canvas.Admits`).
Otherwise it fails one of three checks, made in turn: its form, the node and the field
(`Canvas.Faults`). `resolve_eq_ok_iff_admits` and `resolve_eq_error_iff` say that the canvas decides
exactly so, and `connect_eq_error_iff` that a connection is refused for the first check that one of
its ends fails, the source before the target.
-/

namespace QueryCanvas

namespace Canvas

variable {c : Canvas} {source target text : String} {h : Handle} {e : ConnectError}

/-- The text is read as the handle and is its written form, and the node of the handle is on the
canvas and has its field. -/
structure Admits (c : Canvas) (text : String) (h : Handle) : Prop where
  read : Handle.parse? text = some h
  written : h.encode = text
  field : ∃ node, c.node? h.node = some node ∧ ∃ field ∈ node.table.fields, field.id = h.field

/-- The error that reports the first check that a text fails. -/
inductive Faults (c : Canvas) (text : String) : ConnectError → Prop where
  /-- The text is not the written form of a handle. -/
  | form : (∀ h, Handle.parse? text = some h → h.encode ≠ text) →
      Faults c text (.malformedHandle text)
  /-- No node on the canvas has the number of the handle. -/
  | node {h : Handle} : Handle.parse? text = some h → h.encode = text →
      (∀ node ∈ c.nodes, node.id ≠ h.node) → Faults c text (.unknownNode h.node)
  /-- The node is there, and its table has no field with the id of the handle. -/
  | field {h : Handle} {node : Node} : Handle.parse? text = some h → h.encode = text →
      c.node? h.node = some node → (∀ field ∈ node.table.fields, field.id ≠ h.field) →
      Faults c text (.unknownField h.node h.field)

/-- A text resolves to the handle that the canvas admits it as. -/
theorem resolve_eq_ok_iff_admits : c.resolve text = .ok h ↔ c.Admits text h := by
  rw [resolve_eq_ok_iff]
  simp only [Table.exists_field?_iff]
  constructor
  · rintro ⟨hread, hwritten, hfield⟩
    exact ⟨hread, hwritten, hfield⟩
  · rintro ⟨hread, hwritten, hfield⟩
    exact ⟨hread, hwritten, hfield⟩

/-- A text is refused for the first check that it fails. -/
theorem resolve_eq_error_iff : c.resolve text = .error e ↔ c.Faults text e := by
  constructor
  · intro herror
    unfold resolve at herror
    split at herror
    · rename_i hnone
      cases herror
      exact .form fun h hread => absurd (hnone.symm.trans hread) (Option.some_ne_none h).symm
    · rename_i parsed hread
      split at herror
      · rename_i hother
        cases herror
        refine .form ?_
        intro h hsame
        rwa [← Option.some.inj (hread.symm.trans hsame)]
      · rename_i hwritten
        split at herror
        · rename_i hnode
          cases herror
          exact .node hread (not_not.mp hwritten) (findNode?_eq_none_iff.mp hnode)
        · rename_i node hnode
          split at herror
          · rename_i hfield
            cases herror
            exact .field hread (not_not.mp hwritten) hnode (Table.field?_eq_none_iff.mp hfield)
          · cases herror
  · intro hfault
    cases hfault with
    | form hform =>
        unfold resolve
        split
        · rfl
        · rename_i parsed hread
          rw [if_pos (hform parsed hread)]
    | node hread hwritten hnode =>
        have hnone : c.node? _ = none := findNode?_eq_none_iff.mpr hnode
        simp [resolve, hread, hwritten, hnone]
    | field hread hwritten hnode hfield =>
        simp [resolve, hread, hwritten, hnode, Table.field?_eq_none_iff.mpr hfield]

/-- A connection is refused exactly if the source is, or if the source resolves and the target is
refused. -/
theorem connect_eq_error_iff :
    c.connect source target = .error e ↔
      c.resolve source = .error e ∨
        ∃ s, c.resolve source = .ok s ∧ c.resolve target = .error e := by
  constructor
  · intro hrefused
    cases hsource : c.resolve source with
    | error other =>
        rw [connect_of_source_error hsource] at hrefused
        exact .inl (congrArg Except.error (Except.error.inj hrefused))
    | ok s =>
        cases htarget : c.resolve target with
        | error other =>
            rw [connect_of_target_error hsource htarget] at hrefused
            exact .inr ⟨s, rfl, congrArg Except.error (Except.error.inj hrefused)⟩
        | ok t =>
            rw [connect_of_resolve hsource htarget] at hrefused
            cases hrefused
  · rintro (hsource | ⟨s, hsource, htarget⟩)
    · exact connect_of_source_error hsource target
    · exact connect_of_target_error hsource htarget

end Canvas

end QueryCanvas
