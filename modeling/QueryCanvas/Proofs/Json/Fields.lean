import QueryCanvas.Proofs.Json.Reading

/-!
# The fields of an object

What a record takes from an object depends only on the member of each slot's name, which must not
come twice: where it stands and what else the object holds makes no difference
(`record_ofJson_object_iff`). A slot without a member takes its default (`Slot.Takes`).
-/

namespace QueryCanvas.Json

/-- The slot takes the value from the members: from the one of its name, or its default. -/
def Slot.Takes (slot : Slot) (members : List (String × Json)) (x : slot.Value) : Prop :=
  match members.lookup slot.name with
  | some j => slot.decoder.ofJson j = .ok x
  | none => slot.default? = some x

theorem Slot.takes_of_lookup {slot : Slot} {members : List (String × Json)} {j : Json}
    {x : slot.Value} (hmember : members.lookup slot.name = some j)
    (hx : slot.decoder.ofJson j = .ok x) : slot.Takes members x := by
  rw [Slot.Takes, hmember]
  exact hx

theorem Slot.takes_default {slot : Slot} {members : List (String × Json)} {x : slot.Value}
    (hmember : members.lookup slot.name = none) (hx : slot.default? = some x) :
    slot.Takes members x := by
  rw [Slot.Takes, hmember]
  exact hx

/-- Every slot takes its value from the members. -/
def Takes (members : List (String × Json)) : (slots : List Slot) → Filled slots → Prop
  | [], _ => True
  | slot :: slots, filled => slot.Takes members filled.1 ∧ Takes members slots filled.2

/-- What was read for a slot and the members that are left come to the value: either it was read
and no member of the slot is left, or the slot takes it, from one member at most. -/
def Slot.ComesTo (slot : Slot) (members : List (String × Json)) (read : Option slot.Value)
    (x : slot.Value) : Prop :=
  match read with
  | some y => y = x ∧ slot.name ∉ members.map Prod.fst
  | none => slot.Takes members x ∧ (members.map Prod.fst).count slot.name ≤ 1

/-- What was read for all slots and the members that are left come to the values. -/
def Partial.ComesTo (members : List (String × Json)) :
    {slots : List Slot} → Partial slots → Filled slots → Prop
  | [], _, _ => True
  | slot :: slots, p, filled =>
      slot.ComesTo members p.1 filled.1 ∧ @Partial.ComesTo members slots p.2 filled.2

variable {slots : List Slot} {members : List (String × Json)} {m : String × Json}

theorem Partial.comesTo_start_iff {filled : Filled slots} :
    (Partial.start slots).ComesTo members filled ↔
      (∀ slot ∈ slots, (members.map Prod.fst).count slot.name ≤ 1) ∧
        Takes members slots filled := by
  induction slots with
  | nil => simp [Partial.ComesTo, Takes]
  | cons slot slots ih =>
      rw [List.forall_mem_cons]
      constructor
      · rintro ⟨⟨htakes, hcount⟩, hlater⟩
        obtain ⟨hcounts, hrest⟩ := ih.mp hlater
        exact ⟨⟨hcount, hcounts⟩, htakes, hrest⟩
      · rintro ⟨⟨hcount, hcounts⟩, htakes, hrest⟩
        exact ⟨⟨htakes, hcount⟩, ih.mpr ⟨hcounts, hrest⟩⟩

/-- Once no members are left, the values are there. -/
theorem Partial.comesTo_nil_iff {p : Partial slots} {filled : Filled slots} :
    p.ComesTo [] filled ↔ p.finish = .ok filled := by
  induction slots with
  | nil => exact ⟨fun _ => rfl, fun _ => trivial⟩
  | cons slot slots ih =>
      obtain ⟨value, later⟩ := p
      obtain ⟨x, xs⟩ := filled
      cases value with
      | some y =>
          constructor
          · rintro ⟨⟨rfl, -⟩, hlater⟩
            exact map_eq_ok_iff.mpr ⟨xs, ih.mp hlater, rfl⟩
          · intro hfinish
            obtain ⟨ys, hys, heq⟩ := map_eq_ok_iff.mp hfinish
            cases heq
            exact ⟨⟨rfl, List.not_mem_nil⟩, ih.mpr hys⟩
      | none =>
          constructor
          · rintro ⟨⟨htakes, -⟩, hlater⟩
            have hdefault : slot.default? = some x := htakes
            simp only [Partial.finish, hdefault]
            exact map_eq_ok_iff.mpr ⟨xs, ih.mp hlater, rfl⟩
          · intro hfinish
            cases hdefault : slot.default? with
            | none =>
                simp only [Partial.finish, hdefault] at hfinish
                cases hfinish
            | some y =>
                simp only [Partial.finish, hdefault] at hfinish
                obtain ⟨ys, hys, heq⟩ := map_eq_ok_iff.mp hfinish
                cases heq
                have htakes : slot.Takes [] x := hdefault
                exact ⟨⟨htakes, Nat.zero_le 1⟩, ih.mpr hys⟩

/-! ## One member -/

/-- A member of the name of a slot without a value gives the slot its value. -/
theorem takeMember_self {slot : Slot} (p : Partial slots) (j : Json) :
    @takeMember (slot :: slots) (none, p) slot.name j =
      (slot.decoder.ofJson j).map fun x => (some x, p) := by
  simp only [takeMember, Partial.taken?, Partial.fill, if_true]
  cases slot.decoder.ofJson j <;> rfl

/-- A second member of the name of a slot is refused. -/
theorem takeMember_taken {slot : Slot} (x : slot.Value) (p : Partial slots) (j : Json) :
    @takeMember (slot :: slots) (some x, p) slot.name j = .error (.duplicateField slot.name) := by
  simp [takeMember, Partial.taken?]

/-- A member of another name leaves a slot alone. -/
theorem takeMember_of_ne {slot : Slot} {p : Partial (slot :: slots)} {name : String}
    (hname : slot.name ≠ name) (j : Json) :
    takeMember p name j = (takeMember p.2 name j).map fun q => (p.1, q) := by
  simp only [takeMember, Partial.taken?, Partial.fill, hname, if_false]
  cases Partial.taken? p.2 name with
  | none => rfl
  | some taken =>
      cases taken with
      | true => rfl
      | false =>
          cases Partial.fill (fun d => (d.ofJson j).map (·, ())) p.2 name with
          | none => rfl
          | some r => cases r <;> rfl

theorem Slot.takes_cons_of_ne {slot : Slot} {x : slot.Value} (hname : slot.name ≠ m.1) :
    slot.Takes (m :: members) x ↔ slot.Takes members x := by
  have hlookup : (m :: members).lookup slot.name = members.lookup slot.name := by
    rw [List.lookup_cons, beq_eq_false_iff_ne.mpr hname]
  rw [Slot.Takes, Slot.Takes, hlookup]

theorem Slot.comesTo_cons_of_ne {slot : Slot} {read : Option slot.Value} {x : slot.Value}
    (hname : slot.name ≠ m.1) :
    slot.ComesTo (m :: members) read x ↔ slot.ComesTo members read x := by
  cases read with
  | some y => simp only [Slot.ComesTo, List.map_cons, List.mem_cons, hname, false_or]
  | none =>
      have htakes : slot.Takes (m :: members) x ↔ slot.Takes members x :=
        Slot.takes_cons_of_ne hname
      simp only [Slot.ComesTo, htakes, List.map_cons, List.count_cons_of_ne (Ne.symm hname)]

/-- A member of the slot's own name is the one that it takes, and there must be no other. -/
theorem Slot.comesTo_cons_self {slot : Slot} {x : slot.Value} (hname : slot.name = m.1) :
    slot.ComesTo (m :: members) none x ↔
      slot.decoder.ofJson m.2 = .ok x ∧ slot.name ∉ members.map Prod.fst := by
  have htakes : slot.Takes (m :: members) x ↔ slot.decoder.ofJson m.2 = .ok x := by
    rw [Slot.Takes, List.lookup_cons, beq_iff_eq.mpr hname]
  have hcount : ((m :: members).map Prod.fst).count slot.name ≤ 1 ↔
      slot.name ∉ members.map Prod.fst := by
    rw [List.map_cons, ← hname, List.count_cons_self, Nat.succ_le_succ_iff, Nat.le_zero,
      List.count_eq_zero]
  exact and_congr htakes hcount

/-- Without a member of its name a slot takes its default. -/
theorem Slot.comesTo_of_notMem {slot : Slot} {x : slot.Value}
    (habsent : slot.name ∉ members.map Prod.fst) :
    slot.ComesTo members none x ↔ slot.default? = some x := by
  have hlookup : members.lookup slot.name = none := by
    refine List.lookup_eq_none_iff.mpr fun m hm => ?_
    have hne : slot.name ≠ m.1 := fun heq => habsent (heq ▸ List.mem_map_of_mem hm)
    exact bne_iff_ne.mpr hne
  have hcount : (members.map Prod.fst).count slot.name ≤ 1 := by
    rw [List.count_eq_zero.mpr habsent]
    exact Nat.zero_le 1
  simp only [Slot.ComesTo, Slot.Takes, hlookup, hcount, and_true]

/-- The order of the members makes no difference. -/
theorem Slot.comesTo_perm {slot : Slot} {x : slot.Value} {others : List (String × Json)}
    (h : members.Perm others) : slot.ComesTo members none x ↔ slot.ComesTo others none x := by
  induction h with
  | nil => exact Iff.rfl
  | @cons m ms ns hperm ih =>
      by_cases hname : slot.name = m.1
      · rw [comesTo_cons_self hname, comesTo_cons_self hname, (hperm.map Prod.fst).mem_iff]
      · rw [comesTo_cons_of_ne hname, comesTo_cons_of_ne hname, ih]
  | swap m n ms =>
      by_cases hm : slot.name = m.1
      · by_cases hn : slot.name = n.1
        · -- Two members of the name are refused in either order.
          simp only [comesTo_cons_self hm, comesTo_cons_self hn, List.map_cons, List.mem_cons,
            ← hm, ← hn, true_or, not_true_eq_false, and_false]
        · simp only [comesTo_cons_of_ne hn, comesTo_cons_self hm, List.map_cons, List.mem_cons, hn,
            false_or]
      · by_cases hn : slot.name = n.1
        · simp only [comesTo_cons_of_ne hm, comesTo_cons_self hn, List.map_cons, List.mem_cons, hm,
            false_or]
        · simp only [comesTo_cons_of_ne hm, comesTo_cons_of_ne hn]
  | trans _ _ ih ih' => exact ih.trans ih'

theorem Partial.comesTo_cons_of_ne {p : Partial slots} {filled : Filled slots}
    (hslots : ∀ slot ∈ slots, slot.name ≠ m.1) :
    p.ComesTo (m :: members) filled ↔ p.ComesTo members filled := by
  induction slots with
  | nil => exact Iff.rfl
  | cons slot slots ih =>
      have hlater : ∀ s ∈ slots, s.name ≠ m.1 := fun s hs => hslots s (List.mem_cons_of_mem slot hs)
      exact and_congr (Slot.comesTo_cons_of_ne (hslots slot List.mem_cons_self)) (ih hlater)

/-- A member of the first slot is taken by it, if no later slot has its name. -/
theorem Partial.comesTo_cons_self_iff {slot : Slot} (hlater : ∀ s ∈ slots, s.name ≠ slot.name)
    {j : Json} {p : Partial (slot :: slots)} {filled : Filled (slot :: slots)} :
    p.ComesTo ((slot.name, j) :: members) filled ↔
      ∃ q, takeMember p slot.name j = .ok q ∧ q.ComesTo members filled := by
  obtain ⟨value, later⟩ := p
  obtain ⟨x, xs⟩ := filled
  have hrest : later.ComesTo ((slot.name, j) :: members) xs ↔ later.ComesTo members xs :=
    Partial.comesTo_cons_of_ne hlater
  cases value with
  | some y =>
      rw [takeMember_taken]
      constructor
      · rintro ⟨⟨-, habsent⟩, -⟩
        exact absurd List.mem_cons_self habsent
      · rintro ⟨q, hq, -⟩
        cases hq
  | none =>
      rw [takeMember_self]
      constructor
      · rintro ⟨hx, hxs⟩
        obtain ⟨hread, habsent⟩ := (Slot.comesTo_cons_self rfl).mp hx
        exact ⟨(some x, later), map_eq_ok_iff.mpr ⟨x, hread, rfl⟩, ⟨rfl, habsent⟩, hrest.mp hxs⟩
      · rintro ⟨q, hq, hcomes⟩
        obtain ⟨y, hy, rfl⟩ := map_eq_ok_iff.mp hq
        obtain ⟨⟨rfl, habsent⟩, hxs⟩ := hcomes
        exact ⟨(Slot.comesTo_cons_self rfl).mpr ⟨hy, habsent⟩, hrest.mpr hxs⟩

/-- A member is taken exactly if what is read then comes to the same values with the members after
it. -/
theorem Partial.comesTo_cons_iff (hnames : (slots.map Slot.name).Nodup) {p : Partial slots}
    {filled : Filled slots} :
    p.ComesTo (m :: members) filled ↔
      ∃ q, takeMember p m.1 m.2 = .ok q ∧ q.ComesTo members filled := by
  induction slots with
  | nil => exact ⟨fun _ => ⟨p, rfl, trivial⟩, fun _ => trivial⟩
  | cons slot slots ih =>
      rw [List.map_cons, List.nodup_cons] at hnames
      by_cases hname : slot.name = m.1
      · have hlater : ∀ s ∈ slots, s.name ≠ slot.name := fun s hs heq =>
          hnames.1 (heq ▸ List.mem_map_of_mem hs)
        obtain ⟨name, j⟩ := m
        obtain rfl : slot.name = name := hname
        exact Partial.comesTo_cons_self_iff hlater
      · -- The member is for a later slot, or for none.
        obtain ⟨value, later⟩ := p
        obtain ⟨x, xs⟩ := filled
        have hslot : slot.ComesTo (m :: members) value x ↔ slot.ComesTo members value x :=
          Slot.comesTo_cons_of_ne hname
        have hlater : Partial.ComesTo (m :: members) later xs ↔
            ∃ q, takeMember later m.1 m.2 = .ok q ∧ Partial.ComesTo members q xs := ih hnames.2
        have hstep : @takeMember (slot :: slots) (value, later) m.1 m.2 =
            (takeMember later m.1 m.2).map fun q => (value, q) := takeMember_of_ne hname m.2
        rw [hstep]
        constructor
        · rintro ⟨hx, hxs⟩
          obtain ⟨q, hq, hcomes⟩ := hlater.mp hxs
          exact ⟨(value, q), map_eq_ok_iff.mpr ⟨q, hq, rfl⟩, hslot.mp hx, hcomes⟩
        · rintro ⟨r, hr, hcomes⟩
          obtain ⟨q, hq, rfl⟩ := map_eq_ok_iff.mp hr
          exact ⟨hslot.mpr hcomes.1, hlater.mpr ⟨q, hq, hcomes.2⟩⟩

/-! ## All members -/

theorem record_ofJson_iff_comesTo (label : String) (hnames : (slots.map Slot.name).Nodup)
    {filled : Filled slots} :
    (Decoder.record label slots).ofJson (.object members) = .ok filled ↔
      (Partial.start slots).ComesTo members filled := by
  have hrun : ∀ p : Partial slots, p.ComesTo members filled ↔
      ∃ q, members.foldlM (fun p m => takeMember p m.1 m.2) p = .ok q ∧ q.finish = .ok filled := by
    induction members with
    | nil => simp [Partial.comesTo_nil_iff, pure, Except.pure]
    | cons m ms ih =>
        intro p
        rw [Partial.comesTo_cons_iff hnames]
        simp only [ih, List.foldlM_cons, bind_eq_ok_iff]
        constructor
        · rintro ⟨q, hq, r, hr, hfinish⟩
          exact ⟨r, ⟨q, hq, hr⟩, hfinish⟩
        · rintro ⟨r, ⟨q, hq, hr⟩, hfinish⟩
          exact ⟨q, hq, r, hr, hfinish⟩
  rw [hrun]
  exact bind_eq_ok_iff

/-- A record takes its values from an object exactly if no slot has two members. -/
theorem record_ofJson_object_iff (label : String) (hnames : (slots.map Slot.name).Nodup)
    {filled : Filled slots} :
    (Decoder.record label slots).ofJson (.object members) = .ok filled ↔
      (∀ slot ∈ slots, (members.map Prod.fst).count slot.name ≤ 1) ∧
        Takes members slots filled :=
  (record_ofJson_iff_comesTo label hnames).trans Partial.comesTo_start_iff

theorem Partial.comesTo_start_imp {others : List (String × Json)} {filled : Filled slots}
    (hslots : ∀ slot ∈ slots, ∀ x, slot.ComesTo members none x → slot.ComesTo others none x)
    (h : (Partial.start slots).ComesTo members filled) :
    (Partial.start slots).ComesTo others filled := by
  induction slots with
  | nil => trivial
  | cons slot slots ih =>
      exact ⟨hslots slot List.mem_cons_self filled.1 h.1,
        ih (fun s hs => hslots s (List.mem_cons_of_mem slot hs)) h.2⟩

/-- A record that takes its values from an object takes them from another one from which every
slot takes its own. -/
theorem record_ofJson_imp (label : String) (hnames : (slots.map Slot.name).Nodup)
    {others : List (String × Json)} {filled : Filled slots}
    (hslots : ∀ slot ∈ slots, ∀ x, slot.ComesTo members none x → slot.ComesTo others none x)
    (h : (Decoder.record label slots).ofJson (.object members) = .ok filled) :
    (Decoder.record label slots).ofJson (.object others) = .ok filled := by
  rw [record_ofJson_iff_comesTo label hnames] at h ⊢
  exact Partial.comesTo_start_imp hslots h

end QueryCanvas.Json
