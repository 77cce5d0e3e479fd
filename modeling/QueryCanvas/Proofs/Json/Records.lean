import QueryCanvas.Proofs.Json.Reading

/-!
# Reading written records

A record is read from an object, in whatever order its members stand and with members that no slot
names passed over, or from an array of its fields. Either way the text is read as the value is:
`record_faithfulWithin_object` asks only that each slot reads the members of its own name
faithfully, `record_faithful` that every slot is faithful.
-/

namespace QueryCanvas.Json

variable {slots : List Slot}

/-! ## Members -/

/-- A slot is filled from a text as it is filled from a value. -/
theorem Partial.fill_ofText {p q : Partial slots} {name : String} {j : Json} {depth : Nat}
    (hslots : ∀ slot ∈ slots, slot.name = name → slot.decoder.FaithfulWithin depth j)
    {text rest : List Char}
    (hread : ∀ (α : Type) (d : Decoder α) (x : α), d.FaithfulWithin depth j → d.ofJson j = .ok x →
      d.ofText depth text = .ok (x, rest))
    (hp : p.fill (fun d => (d.ofJson j).map (·, ())) name = some (.ok (q, ()))) :
    p.fill (fun d => d.ofText depth text) name = some (.ok (q, rest)) := by
  induction slots with
  | nil => cases hp
  | cons slot slots ih =>
      by_cases hname : slot.name = name
      · simp only [fill, hname, if_true, Option.some.injEq, map_eq_ok_iff] at hp ⊢
        obtain ⟨_, ⟨x, hx, rfl⟩, hq⟩ := hp
        cases hq
        have hd := hslots slot List.mem_cons_self hname
        exact ⟨(x, rest), hread slot.Value slot.decoder x hd hx, rfl⟩
      · simp only [fill, hname, if_false, Option.map_eq_some_iff, map_eq_ok_iff] at hp ⊢
        obtain ⟨_, hfill, ⟨r, _⟩, rfl, hq⟩ := hp
        cases hq
        have hlater := ih (fun s hs => hslots s (List.mem_cons_of_mem slot hs)) hfill
        exact ⟨_, hlater, (r, rest), rfl, rfl⟩

/-- A slot is filled exactly if there is one of that name. -/
theorem Partial.fill_isNone {ε σ : Type} (read : {α : Type} → Decoder α → Except ε (α × σ))
    (p : Partial slots) (name : String) :
    (p.fill read name).isNone = (p.taken? name).isNone := by
  induction slots with
  | nil => rfl
  | cons slot slots ih =>
      by_cases hname : slot.name = name
      · simp [fill, taken?, hname]
      · simp [fill, taken?, hname, ih]

/-- A member is read as it is taken from a value. -/
theorem readMember_append {p q : Partial slots} {name : String} {j : Json} {depth : Nat}
    (hslots : ∀ slot ∈ slots, slot.name = name → slot.decoder.FaithfulWithin depth j)
    (hp : takeMember p name j = .ok q)
    {before after cs rest : List Char} (hbefore : Blank before) (hafter : Blank after)
    (hcs : Spells j cs) (hrest : Ends rest) :
    readMember depth p name (before ++ ':' :: (after ++ (cs ++ rest))) = .ok (q, rest) := by
  have hread : ∀ (α : Type) (d : Decoder α) (x : α), d.FaithfulWithin depth j →
      d.ofJson j = .ok x → d.ofText depth (after ++ (cs ++ rest)) = .ok (x, rest) :=
    fun α d x hd hx => hd after cs rest x hafter hcs hrest hx
  unfold takeMember at hp
  unfold readMember
  cases htaken : p.taken? name with
  | none =>
      -- No slot has the name: its value is passed over.
      have hfill : p.fill (fun d => d.ofText depth (after ++ (cs ++ rest))) name = none := by
        rw [← Option.isNone_iff_eq_none, Partial.fill_isNone, htaken]
        rfl
      rw [htaken] at hp
      cases hp
      simp only [readColon_append hbefore, bind, Except.bind, hfill]
      simp only [skipValue_append hafter hcs hrest, Except.map]
  | some taken =>
      rw [htaken] at hp
      cases taken with
      | true => cases hp
      | false =>
          simp only at hp
          split at hp
          · rename_i hnone
            rw [← Option.isNone_iff_eq_none, Partial.fill_isNone, htaken] at hnone
            cases hnone
          · rename_i hfill
            obtain ⟨⟨q, _⟩, rfl, rfl⟩ := map_eq_ok_iff.mp hp
            have htext := Partial.fill_ofText hslots hread hfill
            simp only [readColon_append hbefore, bind, Except.bind, htext]

/-- The members of an object are read one by one, up to its closing brace. `take` says what a
member does to what was gathered. -/
theorem readMembers_append {σ : Type} {member : σ → String → List Char → Reading σ}
    {take : σ → String → Json → Except Problem σ} {members : List (String × Json)}
    (hmember : ∀ m ∈ members, ∀ p q before after cs rest, take p m.1 m.2 = .ok q →
      Blank before → Blank after → Spells m.2 cs → Ends rest →
      member p m.1 (before ++ ':' :: (after ++ (cs ++ rest))) = .ok (q, rest))
    {first : Bool} {cs : List Char} (h : SpellsMembers first members cs) {p q : σ}
    (hq : members.foldlM (fun p m => take p m.1 m.2) p = .ok q) {fuel : Nat}
    (hfuel : members.length < fuel) (rest : List Char) :
    ∃ ws, Blank ws ∧
      Decoder.readMembers member fuel first p (cs ++ rest) = .ok (q, ws ++ '}' :: rest) := by
  induction members generalizing first cs p fuel with
  | nil =>
      obtain ⟨fuel, rfl⟩ := Nat.exists_eq_succ_of_ne_zero (Nat.ne_zero_of_lt hfuel)
      cases h with
      | @close _ ws hws =>
          cases hq
          refine ⟨ws, hws, ?_⟩
          rw [List.append_assoc, List.singleton_append, Decoder.readMembers,
            nextName_close first hws]
  | cons m ms ih =>
      obtain ⟨fuel, rfl⟩ := Nat.exists_eq_succ_of_ne_zero (Nat.ne_zero_of_lt hfuel)
      rw [List.foldlM_cons, bind_eq_ok_iff] at hq
      obtain ⟨r, hr, hq⟩ := hq
      cases h with
      | @member _ lead name before after x cs _ more hlead hbefore hafter hx hmore =>
          -- The reader of the member stops where the later members begin.
          have hread := hmember (name, x) List.mem_cons_self p r before after cs (more ++ rest) hr
            hbefore hafter hx (hmore.ends rest)
          obtain ⟨ws, hws, hrest⟩ := ih (fun n hn => hmember n (List.mem_cons_of_mem (name, x) hn))
            hmore hq (Nat.lt_of_succ_lt_succ hfuel)
          refine ⟨ws, hws, ?_⟩
          simp only [List.append_assoc, List.cons_append]
          rw [Decoder.readMembers, hlead.nextName_append]
          simp only [hread, hrest]

/-- A record is read faithfully from an object if each slot reads the members of its name
faithfully, with one container less to be opened. -/
theorem Decoder.record_faithfulWithin_object (label : String) {members : List (String × Json)}
    {depth : Nat} (hslots : ∀ slot ∈ slots, ∀ j, (slot.name, j) ∈ members →
      slot.decoder.FaithfulWithin depth j) :
    (record label slots).FaithfulWithin (depth + 1) (.object members) := by
  intro ws cs rest x hws hcs _ hx
  obtain ⟨p, hp, hx⟩ := bind_eq_ok_iff.mp hx
  cases hcs with
  | @object _ cs hmembers =>
      have hmember : ∀ m ∈ members, ∀ (p q : Partial slots) before after cs rest,
          takeMember p m.1 m.2 = .ok q → Blank before → Blank after → Spells m.2 cs →
          Ends rest →
          readMember depth p m.1 (before ++ ':' :: (after ++ (cs ++ rest))) = .ok (q, rest) :=
        fun m hm p q before after cs rest hq hbefore hafter hcs hrest =>
          readMember_append (fun slot hslot hname => hslots slot hslot m.2 (hname ▸ hm)) hq
            hbefore hafter hcs hrest
      obtain ⟨ws', hws', hread⟩ := readMembers_append hmember hmembers hp
        (hmembers.length_lt_fuel rest) rest
      simp only [record, List.cons_append]
      rw [hws.skipBlanks_append (by decide)]
      simp only [enter, hread, bind, Except.bind, hx, closeObject_append hws', Except.map]

/-! ## Items -/

/-- The fields of a record are read from an array as they are taken from its items. -/
theorem readPositional_append {items : List Json} {wanted : String} {depth index : Nat}
    (hslots : ∀ slot ∈ slots, ∀ j, slot.decoder.FaithfulWithin depth j) {cs : List Char}
    (h : SpellsItems (index = 0) items cs) {filled : Filled slots}
    (hfilled : takePositional wanted slots index items = .ok (filled, [])) (rest : List Char) :
    ∃ ws, Blank ws ∧
      readPositional wanted depth slots index (cs ++ rest) = .ok (filled, ws ++ ']' :: rest) := by
  induction slots generalizing items index cs with
  | nil =>
      cases hfilled
      cases h with
      | @close _ ws hws => exact ⟨ws, hws, by rw [List.append_assoc, readPositional]; rfl⟩
  | cons slot slots ih =>
      have hlater : ∀ s ∈ slots, ∀ j, s.decoder.FaithfulWithin depth j := fun s hs =>
        hslots s (List.mem_cons_of_mem slot hs)
      cases h with
      | @close _ ws hws =>
          -- No items are left: the slot takes its default.
          rw [takePositional] at hfilled
          split at hfilled
          · cases hfilled
          · rename_i x hdefault
            obtain ⟨⟨xs, left⟩, hxs, heq⟩ := map_eq_ok_iff.mp hfilled
            cases heq
            obtain ⟨ws', hws', hread⟩ := ih hlater (.close hws) hxs
            refine ⟨ws', hws', ?_⟩
            rw [List.append_assoc, List.singleton_append] at hread ⊢
            rw [readPositional, nextItem_close _ hws]
            simp only [hdefault, hread, Except.map]
      | @item _ lead j cs items more hlead hj hmore =>
          rw [takePositional] at hfilled
          split at hfilled
          · cases hfilled
          · rename_i x hx
            obtain ⟨⟨xs, left⟩, hxs, heq⟩ := map_eq_ok_iff.mp hfilled
            cases heq
            have hitem := hslots slot List.mem_cons_self j [] cs (more ++ rest) x .nil hj
              (hmore.ends rest) hx
            rw [List.nil_append] at hitem
            have hnext : SpellsItems (index + 1 = 0) items more := hmore
            obtain ⟨ws', hws', hread⟩ := ih hlater hnext hxs
            refine ⟨ws', hws', ?_⟩
            simp only [List.append_assoc]
            rw [readPositional, hlead.nextItem_append hj]
            simp only [hitem, hread, Except.map]

/-- A record is read faithfully from an array of its fields. -/
theorem Decoder.record_faithfulWithin_array (label : String) {depth : Nat}
    (hslots : ∀ slot ∈ slots, ∀ j, slot.decoder.FaithfulWithin depth j) (items : List Json) :
    (record label slots).FaithfulWithin (depth + 1) (.array items) := by
  intro ws cs rest x hws hcs _ hx
  obtain ⟨⟨filled, left⟩, hfilled, hx⟩ := bind_eq_ok_iff.mp hx
  cases left with
  | cons _ _ => cases hx
  | nil =>
      cases hx
      cases hcs with
      | @array _ cs hitems =>
          have hfirst : SpellsItems ((0 : Nat) = 0) items cs := hitems
          obtain ⟨ws', hws', hread⟩ := readPositional_append hslots hfirst hfilled rest
          simp only [record, List.cons_append]
          rw [hws.skipBlanks_append (by decide)]
          simp only [enter, hread, bind, Except.bind, closeArray_append hws', Except.map]

/-- A record is read faithfully if all its slots are. -/
theorem Decoder.record_faithful (label : String) {height : Nat}
    (hslots : ∀ slot ∈ slots, slot.decoder.Faithful height) :
    (record label slots).Faithful (height + 1) := by
  intro depth hdepth j
  obtain ⟨depth, rfl⟩ := Nat.exists_eq_succ_of_ne_zero (Nat.ne_zero_of_lt hdepth)
  have hwithin : ∀ slot ∈ slots, ∀ j, slot.decoder.FaithfulWithin depth j := fun slot hslot =>
    hslots slot hslot depth (Nat.le_of_succ_le_succ hdepth)
  cases j with
  | array items => exact record_faithfulWithin_array label hwithin items
  | object members =>
      exact record_faithfulWithin_object label fun slot hslot j _ => hwithin slot hslot j
  | _ =>
      intro _ _ _ _ _ _ _ hx
      cases hx

end QueryCanvas.Json
