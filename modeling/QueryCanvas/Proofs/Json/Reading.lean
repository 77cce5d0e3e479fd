import QueryCanvas.Json.Decoder
import QueryCanvas.Proofs.Json.Skipping

/-!
# Reading written values

A decoder reads in two ways, from a text and from a value. It is faithful if it reads every text
that writes a value as it reads the value (`Decoder.Faithful`), whatever blanks the text holds and
whatever follows it, as long as enough containers may be opened. Faithfulness goes from the parts of
a type to the type: through arrays, records in either form, choices and what may be null. A whole
text is then read as the value that it writes (`Decoder.FaithfulWithin.read_eq`).
-/

namespace QueryCanvas.Json

variable {ε α β : Type}

theorem map_eq_ok_iff {f : α → β} {r : Except ε α} {y : β} :
    r.map f = .ok y ↔ ∃ x, r = .ok x ∧ f x = y := by
  cases r with
  | error e => simp [Except.map]
  | ok x => simp [Except.map]

theorem bind_eq_ok_iff {f : α → Except ε β} {r : Except ε α} {y : β} :
    r >>= f = .ok y ↔ ∃ x, r = .ok x ∧ f x = .ok y := by
  cases r with
  | error e => simp [bind, Except.bind]
  | ok x => simp [bind, Except.bind]

namespace Decoder

/-- Readers are told apart by what they read. -/
theorem ext {d e : Decoder α} (htext : d.ofText = e.ofText) (hjson : d.ofJson = e.ofJson) :
    d = e := by
  cases d
  cases e
  cases htext
  cases hjson
  rfl

theorem map_map {γ : Type} (d : Decoder α) (f : α → β) (g : β → γ) :
    (d.map f).map g = d.map fun x => g (f x) := by
  refine ext (funext fun depth => funext fun cs => ?_) (funext fun j => ?_)
  · simp only [Decoder.map]
    cases d.ofText depth cs <;> rfl
  · simp only [Decoder.map]
    cases d.ofJson j <;> rfl

theorem read_map (d : Decoder α) (f : α → β) (text : String) :
    (d.map f).read text = (d.read text).map f := by
  simp only [read, Decoder.map]
  cases d.ofText depthLimit text.toList with
  | error e => rfl
  | ok r =>
      simp only [Except.map]
      split <;> rfl

theorem map_ofJson {d : Decoder α} {j : Json} {x : α} (hx : d.ofJson j = .ok x) (f : α → β) :
    (d.map f).ofJson j = .ok (f x) :=
  map_eq_ok_iff.mpr ⟨x, hx, rfl⟩

/-! ## Faithful readers -/

/-- Every text that writes the value is read as the value is read, up to what follows it, when so
many containers may still be opened. -/
def FaithfulWithin (d : Decoder α) (depth : Nat) (j : Json) : Prop :=
  ∀ ws cs rest x, Blank ws → Spells j cs → Ends rest → d.ofJson j = .ok x →
    d.ofText depth (ws ++ (cs ++ rest)) = .ok (x, rest)

/-- Every text that writes a value is read as the value is read, when at least so many containers
may be opened. -/
def Faithful (d : Decoder α) (height : Nat) : Prop :=
  ∀ depth, height ≤ depth → ∀ j, d.FaithfulWithin depth j

/-- A whole text that writes a value is read as the value is read. -/
theorem FaithfulWithin.read_eq {d : Decoder α} {j : Json} (hd : d.FaithfulWithin depthLimit j)
    {cs : List Char} (hcs : Spells j cs) {x : α} (hx : d.ofJson j = .ok x) :
    d.read (String.ofList cs) = .ok x := by
  have hread := hd [] cs [] x .nil hcs .nil hx
  rw [List.nil_append, List.append_nil] at hread
  rw [read, String.toList_ofList, hread]
  rfl

/-- The written forms of a value are read as the value is read. -/
theorem FaithfulWithin.read_forms {d : Decoder α} {j : Json}
    (hd : d.FaithfulWithin depthLimit j) (hj : Proper j) {x : α} (hx : d.ofJson j = .ok x) :
    d.read j.compact = .ok x ∧ d.read j.pretty = .ok x :=
  ⟨hd.read_eq hj.spells_compactChars hx, hd.read_eq (hj.spells_prettyChars 0) hx⟩

theorem FaithfulWithin.read_spelled {d : Decoder α} {j : Json}
    (hd : d.FaithfulWithin depthLimit j) {text : String} (htext : Spells j text.toList) {x : α}
    (hx : d.ofJson j = .ok x) : d.read text = .ok x := by
  have hread := hd.read_eq htext hx
  rwa [String.ofList_toList] at hread

theorem FaithfulWithin.map {d : Decoder α} {depth : Nat} {j : Json}
    (hd : d.FaithfulWithin depth j) (f : α → β) : (d.map f).FaithfulWithin depth j := by
  intro ws cs rest y hws hcs hrest hy
  obtain ⟨x, hx, rfl⟩ := map_eq_ok_iff.mp hy
  simp only [Decoder.map, hd ws cs rest x hws hcs hrest hx, Except.map]

theorem Faithful.map {d : Decoder α} {height : Nat} (hd : d.Faithful height) (f : α → β) :
    (d.map f).Faithful height :=
  fun depth hdepth j => (hd depth hdepth j).map f

theorem Faithful.mono {d : Decoder α} {height more : Nat} (hd : d.Faithful height)
    (hmore : height ≤ more) : d.Faithful more :=
  fun depth hdepth => hd depth (hmore.trans hdepth)

/-! ## Values without parts -/

theorem string_faithful : string.Faithful 0 := by
  intro depth _ j ws cs rest x hws hcs _ hx
  cases hcs with
  | string =>
      cases hx
      simp only [string, quote_append]
      rw [hws.skipBlanks_append (by decide)]
      exact readString_append _ rest
  | _ => cases hx

theorem bool_faithful : bool.Faithful 0 := by
  intro depth _ j ws cs rest x hws hcs _ hx
  cases hcs with
  | trueWord =>
      cases hx
      simp only [bool, List.cons_append]
      rw [hws.skipBlanks_append (by decide)]
      rfl
  | falseWord =>
      cases hx
      simp only [bool, List.cons_append]
      rw [hws.skipBlanks_append (by decide)]
      rfl
  | _ => cases hx

/-- A number of 32 bits fits 64 bits. -/
theorem fits_of_toInt32 {n : Int} {m : Int32} (h : toInt32 n = .ok m) : Fits n := by
  have hmin32 : Int32.minValue.toInt = -2147483648 := by decide
  have hmax32 : Int32.maxValue.toInt = 2147483647 := by decide
  have hmin64 : Int64.minValue.toInt = -9223372036854775808 := by decide
  have hlimit : significandLimit = 18446744073709551616 := by decide
  unfold toInt32 at h
  split at h
  · unfold Fits
    omega
  · cases h

theorem int32_faithful : int32.Faithful 0 := by
  intro depth _ j ws cs rest x hws hcs hrest hx
  cases hcs with
  | int n =>
      replace hx : toInt32 n = .ok x := hx
      have hread := readNumeral_append (fits_of_toInt32 hx) hrest
      have hsigned := signed_toString_int n
      obtain ⟨c, tail, hcs, hc⟩ := hsigned.exists_eq_cons
      have hblank := (numberChar_ne (hsigned.mem (hcs ▸ List.mem_cons_self))).1
      rw [hcs, List.cons_append] at hread ⊢
      simp only [int32, hws.skipBlanks_append hblank, hc, if_true, hread, hx]
  | _ => cases hx

/-! ## What may be null -/

/-- What is not null is read as `d` reads it. -/
theorem nullable_ofJson (d : Decoder α) {j : Json} (hj : j ≠ .null) :
    d.nullable.ofJson j = (d.ofJson j).map some := by
  cases j with
  | null => exact absurd rfl hj
  | _ => rfl

theorem FaithfulWithin.nullable {d : Decoder α} {depth : Nat} {j : Json}
    (hd : d.FaithfulWithin depth j) : d.nullable.FaithfulWithin depth j := by
  intro ws cs rest x hws hcs hrest hx
  by_cases hnull : j = .null
  · subst hnull
    cases hcs
    cases hx
    simp only [Decoder.nullable, List.cons_append]
    rw [hws.skipBlanks_append (by decide)]
    rfl
  · -- What was read is what `d` reads, and the text does not start as a null does.
    rw [nullable_ofJson d hnull] at hx
    obtain ⟨y, hy, rfl⟩ := map_eq_ok_iff.mp hx
    obtain ⟨c, tail, rfl, hblank, -, hstart⟩ := hcs.exists_eq_cons
    have hread := hd [] (c :: tail) rest y .nil hcs hrest hy
    rw [List.nil_append, List.cons_append] at hread
    simp only [Decoder.nullable, List.cons_append]
    rw [hws.skipBlanks_append hblank]
    split
    · rename_i hn
      exact absurd (hstart (List.cons.inj hn).1) hnull
    · rw [hread]
      rfl

theorem Faithful.nullable {d : Decoder α} {height : Nat} (hd : d.Faithful height) :
    d.nullable.Faithful height :=
  fun depth hdepth j => (hd depth hdepth j).nullable

/-! ## Arrays -/

/-- The items of an array are read one by one, up to its closing bracket. -/
theorem readItems_append {d : Decoder α} {depth : Nat} {items : List Json}
    (hd : ∀ j ∈ items, d.FaithfulWithin depth j) {first : Bool} {cs : List Char}
    (h : SpellsItems first items cs) {xs : List α} (hxs : items.mapM d.ofJson = .ok xs)
    {fuel : Nat} (hfuel : items.length < fuel) (rest : List Char) :
    readItems (d.ofText depth) fuel first (cs ++ rest) = .ok (xs, rest) := by
  induction items generalizing first cs xs fuel with
  | nil =>
      obtain ⟨fuel, rfl⟩ := Nat.exists_eq_succ_of_ne_zero (Nat.ne_zero_of_lt hfuel)
      cases h with
      | close hws =>
          rw [List.mapM_nil] at hxs
          cases hxs
          rw [List.append_assoc, List.singleton_append, readItems, nextItem_close first hws]
          simp only [closeArray_append hws, Except.map]
  | cons j items ih =>
      obtain ⟨fuel, rfl⟩ := Nat.exists_eq_succ_of_ne_zero (Nat.ne_zero_of_lt hfuel)
      rw [List.mapM_cons, bind_eq_ok_iff] at hxs
      obtain ⟨x, hx, hxs⟩ := hxs
      rw [bind_eq_ok_iff] at hxs
      obtain ⟨ys, hys, hxs⟩ := hxs
      cases hxs
      cases h with
      | @item _ lead _ cs _ more hlead hj hmore =>
          have hitem := hd j List.mem_cons_self [] cs (more ++ rest) x .nil hj (hmore.ends rest) hx
          rw [List.nil_append] at hitem
          have hitems := ih (fun y hy => hd y (List.mem_cons_of_mem j hy)) hmore hys
            (Nat.lt_of_succ_lt_succ hfuel)
          simp only [List.append_assoc]
          rw [readItems, hlead.nextItem_append hj]
          simp only [hitem, hitems, Except.map]

/-- An array is read faithfully if its items are, with one container less to be opened. -/
theorem list_faithfulWithin {d : Decoder α} {depth : Nat} {items : List Json}
    (hd : ∀ j ∈ items, d.FaithfulWithin depth j) :
    d.list.FaithfulWithin (depth + 1) (.array items) := by
  intro ws cs rest xs hws hcs hrest hxs
  cases hcs with
  | @array _ cs hitems =>
      simp only [list, List.cons_append]
      rw [hws.skipBlanks_append (by decide)]
      exact readItems_append hd hitems hxs (hitems.length_lt_fuel rest) rest

theorem Faithful.list {d : Decoder α} {height : Nat} (hd : d.Faithful height) :
    d.list.Faithful (height + 1) := by
  intro depth hdepth j
  obtain ⟨depth, rfl⟩ := Nat.exists_eq_succ_of_ne_zero (Nat.ne_zero_of_lt hdepth)
  cases j with
  | array items => exact list_faithfulWithin fun x _ => hd depth (Nat.le_of_succ_le_succ hdepth) x
  | _ =>
      intro _ _ _ _ _ _ _ hx
      cases hx

/-! ## Choices -/

/-- The name of a variant is read up to its closing quote. -/
theorem readVariant_append {options : List (String × α)} {name : String} {x : α}
    (hx : choose options name = .ok x) {ws : List Char} (hws : Blank ws) (rest : List Char) :
    readVariant options (ws ++ (quote name ++ rest)) = .ok (x, rest) := by
  rw [quote_append, readVariant, hws.skipBlanks_append (by decide)]
  simp only [readString_append, hx]

theorem readNull_append {ws : List Char} (hws : Blank ws) (rest : List Char) :
    readNull (ws ++ 'n' :: 'u' :: 'l' :: 'l' :: rest) = .ok rest := by
  rw [readNull, hws.skipBlanks_append (by decide)]
  exact readWord_append ['u', 'l', 'l'] rest

/-- An object is read as a choice only if it holds a null under a name that can be chosen. -/
theorem oneOf_ofJson_object {options : List (String × α)} {members : List (String × Json)} {x : α}
    (hx : (oneOf options).ofJson (.object members) = .ok x) :
    ∃ name, members = [(name, .null)] ∧ choose options name = .ok x := by
  rcases members with _ | ⟨⟨name, value⟩, _ | ⟨_, _⟩⟩
  · cases hx
  · obtain ⟨y, hchosen, hkept⟩ := bind_eq_ok_iff.mp hx
    split at hkept
    · rename_i hnull
      cases hkept
      exact ⟨name, by rw [hnull], hchosen⟩
    · cases hkept
  · cases hx

/-- A choice is read faithfully, by its name or as an object with a null under its name. -/
theorem oneOf_faithful (options : List (String × α)) : (oneOf options).Faithful 1 := by
  intro depth hdepth j ws cs rest x hws hcs _ hx
  obtain ⟨depth, rfl⟩ := Nat.exists_eq_succ_of_ne_zero (Nat.ne_zero_of_lt hdepth)
  cases hcs with
  | string name =>
      have hchosen : choose options name = .ok x := hx
      have hvariant := readVariant_append hchosen .nil rest
      rw [List.nil_append, quote_append] at hvariant
      simp only [oneOf, quote_append]
      rw [hws.skipBlanks_append (by decide)]
      exact hvariant
  | object hmembers =>
      obtain ⟨name, rfl, hchosen⟩ := oneOf_ofJson_object hx
      cases hmembers with
      | member hlead hbefore hafter hnull hmore =>
          cases hlead with
          | first hlead =>
              cases hnull
              cases hmore with
              | close hclose =>
                  simp only [oneOf, List.cons_append, List.append_assoc]
                  rw [hws.skipBlanks_append (by decide)]
                  simp [enter, readVariant_append hchosen hlead, readColon_append hbefore,
                    readNull_append hafter, closeObject_append hclose, bind, Except.bind,
                    Except.map]
  | _ => cases hx

/-- An object is read as one of several records only if the record's name is its only one. -/
theorem tagged_ofJson_object {options : List (String × Decoder α)}
    {members : List (String × Json)} {x : α}
    (hx : (tagged options).ofJson (.object members) = .ok x) :
    ∃ name j d, members = [(name, j)] ∧ choose options name = .ok d ∧ d.ofJson j = .ok x := by
  rcases members with _ | ⟨⟨name, j⟩, _ | ⟨_, _⟩⟩
  · cases hx
  · obtain ⟨d, hchosen, hread⟩ := bind_eq_ok_iff.mp hx
    exact ⟨name, j, d, rfl, hchosen, hread⟩
  · cases hx

theorem mem_of_choose {γ : Type} {options : List (String × γ)} {name : String} {x : γ}
    (hx : choose options name = .ok x) : (name, x) ∈ options := by
  unfold choose at hx
  split at hx
  · rename_i hlookup
    cases hx
    obtain ⟨before, after, rfl, -⟩ := List.lookup_eq_some_iff.mp hlookup
    exact List.mem_append_right _ List.mem_cons_self
  · cases hx

/-- One of several records is read faithfully if all of them are, with one container less to be
opened. -/
theorem tagged_faithful {options : List (String × Decoder α)} {height : Nat}
    (hoptions : ∀ o ∈ options, o.2.Faithful height) : (tagged options).Faithful (height + 1) := by
  intro depth hdepth j ws cs rest x hws hcs _ hx
  obtain ⟨depth, rfl⟩ := Nat.exists_eq_succ_of_ne_zero (Nat.ne_zero_of_lt hdepth)
  cases hcs with
  | string name =>
      obtain ⟨d, -, hrefused⟩ := bind_eq_ok_iff.mp hx
      cases hrefused
  | object hmembers =>
      obtain ⟨name, j, d, rfl, hchosen, hread⟩ := tagged_ofJson_object hx
      cases hmembers with
      | @member _ _ _ before after _ cs _ more hlead hbefore hafter hj hmore =>
          cases hlead with
          | first hlead =>
              have hd := hoptions (name, d) (mem_of_choose hchosen) depth
                (Nat.le_of_succ_le_succ hdepth) j
              have htext := hd after cs (more ++ rest) x hafter hj (hmore.ends rest) hread
              cases hmore with
              | close hclose =>
                  simp only [List.append_assoc, List.singleton_append] at htext
                  simp only [tagged, List.cons_append, List.append_assoc]
                  rw [hws.skipBlanks_append (by decide)]
                  simp [enter, readVariant_append hchosen hlead, readColon_append hbefore, htext,
                    closeObject_append hclose, bind, Except.bind, Except.map]
  | _ => cases hx

end Decoder

end QueryCanvas.Json
