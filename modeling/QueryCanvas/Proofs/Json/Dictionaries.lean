import QueryCanvas.Proofs.Json.Records
import QueryCanvas.Proofs.OrderedMap

/-!
# Reading written dictionaries

A dictionary is made of the members of an object, in document order and with the names that come
again: it is what `Decoder.members` reads, put into a map (`Decoder.dictionary_eq`), on every text
and every value. So what repeated names come to is a question about maps alone, and a dictionary is
read faithfully because its members are.
-/

namespace QueryCanvas.Json

variable {α σ τ : Type}

/-! ## Gathering members -/

/-- Read an object, entering its members one by one into what was gathered before. -/
def readObject (member : Nat → σ → String → List Char → Reading σ) (start : σ) (depth : Nat)
    (cs : List Char) : Reading σ :=
  match skipBlanks cs with
  | '{' :: rest =>
      Decoder.enter depth fun depth =>
        Except.bind (Decoder.readMembers (member depth) (rest.length + 1) true start rest) fun r =>
          (closeObject r.2).map fun rest => (r.1, rest)
  | cs => .error (unexpected "a map" cs)

/-- If each member goes along with a change of what was gathered, all members do. -/
theorem readMembers_map {member : σ → String → List Char → Reading σ}
    {changed : τ → String → List Char → Reading τ} (f : σ → τ)
    (hmember : ∀ gathered name cs, changed (f gathered) name cs =
      (member gathered name cs).map fun r => (f r.1, r.2))
    (fuel : Nat) (first : Bool) (gathered : σ) (cs : List Char) :
    Decoder.readMembers changed fuel first (f gathered) cs =
      (Decoder.readMembers member fuel first gathered cs).map fun r => (f r.1, r.2) := by
  induction fuel generalizing first gathered cs with
  | zero => rfl
  | succ fuel ih =>
      rw [Decoder.readMembers, Decoder.readMembers]
      cases nextName first cs with
      | error e => rfl
      | ok next =>
          cases next with
          | none => rfl
          | some next =>
              obtain ⟨name, text⟩ := next
              simp only [hmember]
              cases member gathered name text with
              | error e => rfl
              | ok r =>
                  obtain ⟨g, rest⟩ := r
                  exact ih false g rest

theorem readObject_map {member : Nat → σ → String → List Char → Reading σ}
    {changed : Nat → τ → String → List Char → Reading τ} (f : σ → τ)
    (hmember : ∀ depth gathered name cs, changed depth (f gathered) name cs =
      (member depth gathered name cs).map fun r => (f r.1, r.2))
    (start : σ) (depth : Nat) (cs : List Char) :
    readObject changed (f start) depth cs =
      (readObject member start depth cs).map fun r => (f r.1, r.2) := by
  unfold readObject
  split
  · rename_i rest _
    cases depth with
    | zero => rfl
    | succ depth =>
        simp only [Decoder.enter]
        rw [readMembers_map f (hmember depth)]
        cases Decoder.readMembers (member depth) (rest.length + 1) true start rest with
        | error e => rfl
        | ok r =>
            show (closeObject r.2).map _ = ((closeObject r.2).map _).map _
            cases closeObject r.2 <;> rfl
  · rfl

/-- An object that writes the members is read as they are taken one by one. -/
theorem readObject_append {member : Nat → σ → String → List Char → Reading σ}
    {take : σ → String → Json → Except Problem σ} {depth : Nat} {members : List (String × Json)}
    (hmember : ∀ m ∈ members, ∀ p q before after cs rest, take p m.1 m.2 = .ok q →
      Blank before → Blank after → Spells m.2 cs → Ends rest →
      member depth p m.1 (before ++ ':' :: (after ++ (cs ++ rest))) = .ok (q, rest))
    {ws cs : List Char} (hws : Blank ws) (hcs : Spells (.object members) cs) {p q : σ}
    (hq : members.foldlM (fun p m => take p m.1 m.2) p = .ok q) (rest : List Char) :
    readObject member p (depth + 1) (ws ++ (cs ++ rest)) = .ok (q, rest) := by
  cases hcs with
  | @object _ cs hmembers =>
      obtain ⟨ws', hws', hread⟩ := readMembers_append hmember hmembers hq
        (hmembers.length_lt_fuel rest) rest
      simp only [readObject, List.cons_append]
      rw [hws.skipBlanks_append (by decide)]
      simp only [Decoder.enter, hread, Except.bind, closeObject_append hws', Except.map]

namespace Decoder

/-! ## The members of an object -/

/-- Read one member of an object, after its name, and append it to those before. -/
def appendMember (d : Decoder α) (depth : Nat) (before : List (String × α)) (name : String)
    (cs : List Char) : Reading (List (String × α)) :=
  Except.bind (readColon cs) fun cs =>
    (d.ofText depth cs).map fun r => (before ++ [(name, r.1)], r.2)

/-- Take one member of an object and append it to those before. -/
def takeEntry (d : Decoder α) (before : List (String × α)) (name : String) (j : Json) :
    Except Problem (List (String × α)) :=
  (d.ofJson j).map fun x => before ++ [(name, x)]

/-- The members of an object in document order, each value read with `d`. A name may come again. -/
def members (d : Decoder α) : Decoder (List (String × α)) where
  ofText := readObject d.appendMember []
  ofJson
    | .object members => members.mapM fun m => (d.ofJson m.2).map fun x => (m.1, x)
    | j => .error (.wrongType j.found "a map")

/-- Read one member of an object, after its name, and store it. -/
def insertMember (d : Decoder α) (depth : Nat) (before : OrderedMap String α) (name : String)
    (cs : List Char) : Reading (OrderedMap String α) :=
  Except.bind (readColon cs) fun cs =>
    (d.ofText depth cs).map fun r => (before.insert name r.1, r.2)

theorem insertMember_ofList (d : Decoder α) (depth : Nat) (before : List (String × α))
    (name : String) (cs : List Char) :
    d.insertMember depth (OrderedMap.ofList before) name cs =
      (d.appendMember depth before name cs).map fun r => (OrderedMap.ofList r.1, r.2) := by
  unfold insertMember appendMember
  cases readColon cs with
  | error e => rfl
  | ok cs =>
      simp only [Except.bind]
      cases d.ofText depth cs with
      | error e => rfl
      | ok r => simp only [Except.map, OrderedMap.ofList_concat]

theorem members_ofJson_cons (d : Decoder α) (m : String × Json) (members : List (String × Json)) :
    d.members.ofJson (.object (m :: members)) =
      (d.ofJson m.2).bind fun x =>
        (d.members.ofJson (.object members)).map fun entries => (m.1, x) :: entries := by
  simp only [Decoder.members, List.mapM_cons]
  cases d.ofJson m.2 <;> rfl

/-- A dictionary is made of the members as they stand. -/
theorem dictionary_eq (d : Decoder α) : d.dictionary = d.members.map OrderedMap.ofList := by
  refine ext (funext fun depth => funext fun cs => ?_) (funext fun j => ?_)
  · have hdictionary : d.dictionary.ofText depth cs =
        readObject d.insertMember OrderedMap.empty depth cs := rfl
    rw [hdictionary]
    exact readObject_map OrderedMap.ofList d.insertMember_ofList [] depth cs
  · cases j with
    | object members =>
        show (d.members.ofJson (.object members)).bind (fun entries =>
          .ok (OrderedMap.ofList entries)) =
            (d.members.ofJson (.object members)).map OrderedMap.ofList
        cases d.members.ofJson (.object members) <;> rfl
    | _ => rfl

/-- To change the values that are read is to change the values of the members. -/
theorem members_map {β : Type} (d : Decoder α) (f : α → β) :
    (d.map f).members = d.members.map (List.map (Prod.map id f)) := by
  refine ext (funext fun depth => funext fun cs => ?_) (funext fun j => ?_)
  · have hmember : ∀ depth (before : List (String × α)) name cs,
        (d.map f).appendMember depth (before.map (Prod.map id f)) name cs =
          (d.appendMember depth before name cs).map fun r =>
            (r.1.map (Prod.map id f), r.2) := by
      intro depth before name cs
      unfold appendMember
      cases readColon cs with
      | error e => rfl
      | ok cs =>
          simp only [Except.bind, Decoder.map]
          cases d.ofText depth cs with
          | error e => rfl
          | ok r => simp [Except.map]
    exact readObject_map (List.map (Prod.map id f)) hmember [] depth cs
  · cases j with
    | object members =>
        show (d.map f).members.ofJson (.object members) =
          (d.members.ofJson (.object members)).map (List.map (Prod.map id f))
        induction members with
        | nil => rfl
        | cons m members ih =>
            rw [members_ofJson_cons, members_ofJson_cons, ih]
            simp only [Decoder.map]
            cases d.ofJson m.2 with
            | error e => rfl
            | ok x => cases d.members.ofJson (.object members) <;> simp [Except.map, Except.bind]
    | _ => rfl

/-- Members that are taken one by one are those that are read together. -/
theorem foldlM_takeEntry (d : Decoder α) (members : List (String × Json))
    (before : List (String × α)) :
    members.foldlM (fun before m => d.takeEntry before m.1 m.2) before =
      (d.members.ofJson (.object members)).map fun entries => before ++ entries := by
  induction members generalizing before with
  | nil =>
      show Except.ok before = .ok (before ++ [])
      rw [List.append_nil]
  | cons m members ih =>
      rw [List.foldlM_cons, members_ofJson_cons, takeEntry]
      cases d.ofJson m.2 with
      | error e => rfl
      | ok x =>
          show members.foldlM _ (before ++ [(m.1, x)]) = _
          rw [ih]
          cases d.members.ofJson (.object members) <;> simp [Except.map, Except.bind]

/-- The members of an object are read faithfully if their values are, with one container less to be
opened. -/
theorem Faithful.members {d : Decoder α} {height : Nat} (hd : d.Faithful height) :
    d.members.Faithful (height + 1) := by
  intro depth hdepth j ws cs rest entries hws hcs _ hentries
  obtain ⟨depth, rfl⟩ := Nat.exists_eq_succ_of_ne_zero (Nat.ne_zero_of_lt hdepth)
  have hwithin := hd depth (Nat.le_of_succ_le_succ hdepth)
  cases j with
  | object members =>
      have htaken := d.foldlM_takeEntry members []
      rw [hentries] at htaken
      have hmember : ∀ m ∈ members, ∀ (p q : List (String × α)) before after cs rest,
          d.takeEntry p m.1 m.2 = .ok q → Blank before → Blank after → Spells m.2 cs →
          Ends rest →
          d.appendMember depth p m.1 (before ++ ':' :: (after ++ (cs ++ rest))) = .ok (q, rest) := by
        intro m _ p q before after cs rest hq hbefore hafter hcs hrest
        obtain ⟨x, hx, rfl⟩ := map_eq_ok_iff.mp hq
        have htext := hwithin m.2 after cs rest x hafter hcs hrest hx
        rw [appendMember, readColon_append hbefore]
        simp only [Except.bind, htext, Except.map]
      exact readObject_append hmember hws hcs htaken rest
  | _ => cases hentries

theorem Faithful.dictionary {d : Decoder α} {height : Nat} (hd : d.Faithful height) :
    d.dictionary.Faithful (height + 1) := by
  rw [dictionary_eq]
  exact hd.members.map OrderedMap.ofList

end Decoder

end QueryCanvas.Json
