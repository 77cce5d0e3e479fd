import QueryCanvas.Proofs.Json.Dictionaries

/-!
# Reading records with one field

A record with one field is read as its field is. If the field is read with a change, so is the
record (`Decoder.record_map`): from an object, from an array and when the field is absent, on every
text and every value.
-/

namespace QueryCanvas.Json

/-- One slot reads what the other reads, changed. -/
structure Slot.Changes (slot changed : Slot) (f : slot.Value → changed.Value) : Prop where
  name : changed.name = slot.name
  decoder : changed.decoder = slot.decoder.map f
  default? : changed.default? = slot.default?.map f

variable {slot changed : Slot} {f : slot.Value → changed.Value}

/-- What was read for one slot so far, changed. -/
def Partial.change (f : slot.Value → changed.Value) (p : Partial [slot]) : Partial [changed] :=
  (p.1.map f, ())

theorem Slot.Changes.readMember (h : slot.Changes changed f) (depth : Nat) (p : Partial [slot])
    (name : String) (cs : List Char) :
    Json.readMember depth (p.change f) name cs =
      (Json.readMember depth p name cs).map fun r => (r.1.change f, r.2) := by
  obtain ⟨value, ⟨⟩⟩ := p
  by_cases hname : slot.name = name
  · cases value with
    | some x => simp [Json.readMember, Partial.change, Partial.taken?, h.name, hname, Except.map]
    | none =>
        simp only [Json.readMember, Partial.change, Partial.taken?, Partial.fill, h.name, hname,
          if_true, h.decoder, Decoder.map, Option.map_none, Option.isSome_none]
        cases readColon cs with
        | error e => rfl
        | ok cs =>
            simp only [bind, Except.bind]
            cases slot.decoder.ofText depth cs <;> rfl
  · simp only [Json.readMember, Partial.change, Partial.taken?, Partial.fill, h.name, hname,
      if_false, Option.map_none]
    cases readColon cs with
    | error e => rfl
    | ok cs =>
        simp only [bind, Except.bind]
        cases skipValue cs <;> rfl

theorem Slot.Changes.finish (h : slot.Changes changed f) (p : Partial [slot]) :
    (p.change f).finish = p.finish.map fun filled => (f filled.1, ()) := by
  obtain ⟨value, ⟨⟩⟩ := p
  cases value with
  | some x => rfl
  | none =>
      simp only [Partial.change, Partial.finish, h.default?, h.name, Option.map_none]
      cases slot.default? <;> rfl

theorem Slot.Changes.readPositional (h : slot.Changes changed f) (wanted : String) (depth : Nat)
    (cs : List Char) :
    Json.readPositional wanted depth [changed] 0 cs =
      (Json.readPositional wanted depth [slot] 0 cs).map fun r => ((f r.1.1, ()), r.2) := by
  simp only [Json.readPositional, h.decoder, h.default?, Decoder.map]
  generalize nextItem _ cs = next
  cases next with
  | error e => rfl
  | ok next =>
      cases next with
      | none => cases slot.default? <;> rfl
      | some cs =>
          dsimp only
          cases slot.decoder.ofText depth cs <;> rfl

theorem Slot.Changes.takeMember (h : slot.Changes changed f) (p : Partial [slot])
    (name : String) (j : Json) :
    Json.takeMember (p.change f) name j = (Json.takeMember p name j).map (Partial.change f) := by
  obtain ⟨value, ⟨⟩⟩ := p
  by_cases hname : slot.name = name
  · cases value with
    | some x => simp [Json.takeMember, Partial.change, Partial.taken?, h.name, hname, Except.map]
    | none =>
        simp only [Json.takeMember, Partial.change, Partial.taken?, Partial.fill, h.name, hname,
          if_true, h.decoder, Decoder.map, Option.map_none, Option.isSome_none]
        cases slot.decoder.ofJson j <;> rfl
  · simp only [Json.takeMember, Partial.change, Partial.taken?, h.name, hname, if_false]
    rfl

theorem Slot.Changes.takePositional (h : slot.Changes changed f) (wanted : String)
    (items : List Json) :
    Json.takePositional wanted [changed] 0 items =
      (Json.takePositional wanted [slot] 0 items).map fun r => ((f r.1.1, ()), r.2) := by
  cases items with
  | nil =>
      simp only [Json.takePositional, h.default?]
      cases slot.default? <;> rfl
  | cons j items =>
      simp only [Json.takePositional, h.decoder, Decoder.map]
      cases slot.decoder.ofJson j <;> rfl

theorem Slot.Changes.takeMembers (h : slot.Changes changed f) (members : List (String × Json))
    (p : Partial [slot]) :
    members.foldlM (fun p m => Json.takeMember p m.1 m.2) (p.change f) =
      (members.foldlM (fun p m => Json.takeMember p m.1 m.2) p).map (Partial.change f) := by
  induction members generalizing p with
  | nil => rfl
  | cons m members ih =>
      rw [List.foldlM_cons, List.foldlM_cons, h.takeMember]
      cases Json.takeMember p m.1 m.2 with
      | error problem => rfl
      | ok q => exact ih q

theorem Slot.Changes.record_ofText (h : slot.Changes changed f) (label : String) (depth : Nat)
    (cs : List Char) :
    (Decoder.record label [changed]).ofText depth cs =
      ((Decoder.record label [slot]).ofText depth cs).map fun r => ((f r.1.1, ()), r.2) := by
  simp only [Decoder.record]
  generalize skipBlanks cs = cs
  split
  · rename_i rest
    cases depth with
    | zero => rfl
    | succ depth =>
        have hmembers := readMembers_map (Partial.change f) (h.readMember depth)
          (rest.length + 1) true (Partial.start [slot]) rest
        have hstart : (Partial.start [slot]).change f = Partial.start [changed] := rfl
        rw [hstart] at hmembers
        simp only [Decoder.enter, hmembers]
        generalize Decoder.readMembers (Json.readMember depth) _ _ _ rest = gathered
        cases gathered with
        | error e => rfl
        | ok r =>
            simp only [bind, Except.bind, Except.map, h.finish]
            cases r.1.finish with
            | error problem => rfl
            | ok filled => cases closeObject r.2 <;> rfl
  · rename_i rest
    cases depth with
    | zero => rfl
    | succ depth =>
        simp only [Decoder.enter, List.length_singleton, h.readPositional]
        cases Json.readPositional (recordWanted label 1) depth [slot] 0 rest with
        | error e => rfl
        | ok r =>
            simp only [bind, Except.bind, Except.map]
            cases closeArray r.2 <;> rfl
  · rfl

theorem Slot.Changes.record_ofJson (h : slot.Changes changed f) (label : String) (j : Json) :
    (Decoder.record label [changed]).ofJson j =
      ((Decoder.record label [slot]).ofJson j).map fun filled => (f filled.1, ()) := by
  cases j with
  | object members =>
      have hmembers := h.takeMembers members (Partial.start [slot])
      have hstart : (Partial.start [slot]).change f = Partial.start [changed] := rfl
      rw [hstart] at hmembers
      simp only [Decoder.record, hmembers]
      cases members.foldlM (fun p m => Json.takeMember p m.1 m.2) (Partial.start [slot]) with
      | error problem => rfl
      | ok p => exact h.finish p
  | array items =>
      simp only [Decoder.record, List.length_singleton, h.takePositional]
      cases Json.takePositional (recordWanted label 1) [slot] 0 items with
      | error problem => rfl
      | ok r =>
          simp only [bind, Except.bind, Except.map]
          cases r.2.isEmpty <;> rfl
  | _ => rfl

/-- What is built from the one field of a record may be built from the field that is read without
the change. -/
theorem Decoder.record_map {α : Type} (label : String) (h : slot.Changes changed f)
    (build : changed.Value → α) :
    ((record label [changed]).map fun filled => build filled.1) =
      ((record label [slot]).map fun filled => filled.1).map fun x => build (f x) := by
  refine ext (funext fun depth => funext fun cs => ?_) (funext fun j => ?_)
  · simp only [Decoder.map, h.record_ofText]
    cases (record label [slot]).ofText depth cs <;> rfl
  · simp only [Decoder.map, h.record_ofJson]
    cases (record label [slot]).ofJson j <;> rfl

end QueryCanvas.Json
