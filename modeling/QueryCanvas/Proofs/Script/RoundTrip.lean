import QueryCanvas.Proofs.Directive.RoundTrip
import QueryCanvas.Script.Replay

/-!
# Written scripts are read back

A script is read back from its text (`Script.parse_text`), whatever its tables are called, whatever
columns they have and whatever its gestures say: the same tables, columns and gestures in the same
order. So the script that was read declares, lacks and replays what the written one does.
-/

namespace QueryCanvas

open Json

/-- The values of the slots of a declared table. -/
def ScriptTable.fields (t : ScriptTable) : Filled slots :=
  (t.name, t.columns, ())

theorem ScriptTable.roundTrips : RoundTrips decoder toJson 2 := by
  have hcolumns := RoundTrips.string.dictionary
  refine .record fields (by decide) ?_ (fun _ => .refl _) ?_ (fun t => rfl) ?_
  · simp [slots, Slot.required, Slot.withDefault, Decoder.string_faithful.mono (Nat.zero_le 1),
      hcolumns.faithful]
  · exact fun t => ⟨rfl, hcolumns.ofJson_write t.columns, trivial⟩
  · simp [Proper.string, hcolumns.proper]

namespace Action

/-- The name of a gesture. -/
def tag : Action → String
  | .addTable _ => "addTable"
  | .connect _ _ => "connect"
  | .configure _ _ _ => "configure"

/-- The record of a gesture. -/
def body : Action → Json
  | .addTable table => .object [("table", .string table)]
  | .connect source target => .object [("source", .string source), ("target", .string target)]
  | .configure table field config =>
      .object [("table", .string table), ("field", .string field), ("config", config.toJson)]

theorem toJson_eq (a : Action) : a.toJson = .object [(a.tag, a.body)] := by
  cases a <;> rfl

theorem proper_body (a : Action) : Proper a.body := by
  cases a with
  | configure table field config =>
      have hconfig := FieldConfig.roundTrips.proper config
      exact .object (by simp [Proper.string, hconfig])
  | _ => exact .object (by simp [Proper.string])

theorem roundTrips : RoundTrips decoder toJson 5 := by
  have hstring := Decoder.string_faithful.mono (Nat.zero_le 3)
  have haddTable : ∀ slot ∈ addTableSlots, slot.decoder.Faithful 3 := by
    simp [addTableSlots, Slot.required, hstring]
  have hconnect : ∀ slot ∈ connectSlots, slot.decoder.Faithful 3 := by
    simp [connectSlots, Slot.required, hstring]
  have hconfigure : ∀ slot ∈ configureSlots, slot.decoder.Faithful 3 := by
    simp [configureSlots, Slot.required, Slot.withDefault, hstring,
      FieldConfig.roundTrips.faithful]
  rw [funext toJson_eq]
  refine .tagged ?_ ?_ proper_body
  · intro o ho
    simp only [List.mem_cons, List.not_mem_nil, or_false] at ho
    rcases ho with rfl | rfl | rfl
    · exact (Decoder.record_faithful _ haddTable).map _
    · exact (Decoder.record_faithful _ hconnect).map _
    · exact (Decoder.record_faithful _ hconfigure).map _
  · intro a
    cases a with
    | addTable table =>
        have hread : (Decoder.record "struct variant Action::AddTable" addTableSlots).ofJson
            (body (.addTable table)) = .ok (table, ()) :=
          record_ofJson_of_sublist _ (by decide) (.refl _) ⟨rfl, trivial⟩
        exact ⟨_, rfl, Decoder.map_ofJson hread _⟩
    | connect source target =>
        have hread : (Decoder.record "struct variant Action::Connect" connectSlots).ofJson
            (body (.connect source target)) = .ok (source, target, ()) :=
          record_ofJson_of_sublist _ (by decide) (.refl _) ⟨rfl, rfl, trivial⟩
        exact ⟨_, rfl, Decoder.map_ofJson hread _⟩
    | configure table field config =>
        have hconfig := FieldConfig.roundTrips.ofJson_write config
        have hread : (Decoder.record "struct variant Action::Configure" configureSlots).ofJson
            (body (.configure table field config)) = .ok (table, field, config, ()) :=
          record_ofJson_of_sublist _ (by decide) (.refl _) ⟨rfl, rfl, hconfig, trivial⟩
        exact ⟨_, rfl, Decoder.map_ofJson hread _⟩

end Action

namespace Script

/-- The values of the slots of a script. -/
def fields (s : Script) : Filled slots :=
  (s.tables, s.actions, ())

theorem roundTrips : RoundTrips decoder toJson 7 := by
  have htables := ScriptTable.roundTrips.list
  have hactions := Action.roundTrips.list
  refine .record fields (by decide) ?_ (fun _ => .refl _) ?_ (fun s => rfl) ?_
  · simp [slots, Slot.withDefault, htables.faithful.mono (show 3 ≤ 6 by decide), hactions.faithful]
  · exact fun s => ⟨htables.ofJson_write s.tables, hactions.ofJson_write s.actions, trivial⟩
  · simp [htables.proper, hactions.proper]

/-- A script is read back from its text, compact or indented or with other blanks between its
pieces: what is read has the same tables and gestures in the same order, so it declares and lacks
the same tables and does the same to every session with every catalog. -/
theorem parse_text (s : Script) :
    parse s.text = .ok s ∧ parse s.toJson.pretty = .ok s ∧
      (∀ text : String, Spells s.toJson text.toList → parse text = .ok s) ∧
      ∀ again, parse s.text = .ok again →
        again.tables = s.tables ∧ again.actions = s.actions ∧
          again.declaredTables = s.declaredTables ∧
          again.undeclaredTables = s.undeclaredTables ∧
          ∀ session catalog, again.replay session catalog = s.replay session catalog := by
  have hfaithful := roundTrips.faithful depthLimit (by decide) s.toJson
  have hvalue := roundTrips.ofJson_write s
  obtain ⟨hcompact, hpretty⟩ := hfaithful.read_forms (roundTrips.proper s) hvalue
  refine ⟨hcompact, hpretty, fun text htext => hfaithful.read_spelled htext hvalue, ?_⟩
  intro again hagain
  have heq : again = s := by
    have hsame : Except.ok s = Except.ok again := hcompact.symm.trans hagain
    exact (Except.ok.inj hsame).symm
  rw [heq]
  exact ⟨rfl, rfl, rfl, rfl, fun _ _ => rfl⟩

end Script

end QueryCanvas
