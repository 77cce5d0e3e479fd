import QueryCanvas.Command.Run
import QueryCanvas.Proofs.Host.Transcript
import QueryCanvas.Proofs.Script.Replay
import QueryCanvas.Proofs.Settings.Expansion

/-!
# Loading a session

A session is loaded by reading a script, fetching the tables that it lacks, and replaying it. What
was read and what was fetched can be told from the calls to the host (`Command.Loaded`), and so can
the cause of a failure (`Command.Unloaded`). `Command.Loading` says which calls are made: a session
is loaded exactly if the calls show a script that was read and supplied with tables and knows all it
adds, and there is none exactly if they show a cause. The data source is asked only for tables that
the script adds and does not declare.
-/

namespace QueryCanvas

open Host (Call Shows only)

/-- The value that the environment gave a variable. -/
def Host.Call.value? (name : String) : Call → Option String
  | .environment asked answer => if asked = name then answer else none
  | _ => none

/-- Only a call that asks gives values. -/
theorem Host.Call.value?_of_ne {name : String} {call : Call} (h : call.purpose ≠ .asking) :
    call.value? name = none := by
  cases call with
  | environment => exact absurd rfl h
  | _ => rfl

/-- The values that the environment gave to variables: of each, the first that there was. -/
def Host.answered (calls : List Call) (name : String) : Option String :=
  calls.findSome? (Call.value? name)

namespace Replay

variable {tables : List Table} {r next : Replay} {action : Action}

/-- An action leaves the notifications as they were. -/
theorem Step.notifications (h : r.Step tables action next) :
    next.session.notifications = r.session.notifications := by
  cases h <;> rfl

/-- So does a replay, whether it stops or not. -/
theorem notifications_run (tables : List Table) (r : Replay) (actions : List Action) :
    (run tables r actions).1.session.notifications = r.session.notifications := by
  induction actions generalizing r with
  | nil => rfl
  | cons action actions ih =>
      rcases r.step_cases tables action with ⟨next, hok, hstep⟩ | ⟨name, -, -, herror⟩
      · rw [run_cons_ok hok, ih, hstep.notifications]
      · rw [run_cons_error herror]

end Replay

namespace Command

open Host (answered)

/-! ## What the calls show -/

/-- The script was read from the file. -/
def HasRead (file : OsText) (calls : List Call) (script : Script) : Prop :=
  ∃ text, .readText file (.ok text) ∈ calls ∧ Script.parse text = .ok script

/-- The file could not be read, or holds no script. -/
inductive Unread (file : OsText) (calls : List Call) : Prop where
  | unreadable {e} : .readText file (.error e) ∈ calls → Unread file calls
  | malformed {text e} : .readText file (.ok text) ∈ calls → Script.parse text = .error e →
      Unread file calls

/-- The data source is to be asked: one is given, and the script adds a table that it does not
declare. -/
def Asks (dataSource : Option String) (script : Script) (id : String) : Prop :=
  dataSource = some id ∧ script.undeclaredTables ≠ []

/-- The tables that a script is replayed with beside its own: none if no data source is to be asked,
and else those that the data service answered with, which has its address in the settings. -/
inductive Supplied (settings : Settings) (dataSource : Option String) (script : Script)
    (calls : List Call) : List Table → Prop where
  | spared : (∀ id, ¬ Asks dataSource script id) → Supplied settings dataSource script calls []
  | fetched {id base answer tables} : Asks dataSource script id →
      settings.serviceAddress (answered calls) .data = .ok base →
      .send (catalogRequest base id) answer ∈ calls → catalogOutcome answer = .ok tables →
      Supplied settings dataSource script calls tables

/-- Why a script has no tables beside its own though a data source is to be asked: no address is
configured for the data service, a variable in it was asked for and has no value, or the service did
not answer with tables. -/
inductive Unsupplied (settings : Settings) (dataSource : Option String) (script : Script)
    (calls : List Call) : Prop where
  | unconfigured {id} : Asks dataSource script id → settings.service? .data = none →
      Unsupplied settings dataSource script calls
  | unset {id text name} : Asks dataSource script id → settings.service? .data = some text →
      name ∈ Expansion.references text → .environment name none ∈ calls →
      answered calls name = none → Unsupplied settings dataSource script calls
  | refused {id base answer e} : Asks dataSource script id →
      settings.serviceAddress (answered calls) .data = .ok base →
      .send (catalogRequest base id) answer ∈ calls → catalogOutcome answer = .error e →
      Unsupplied settings dataSource script calls

/-- The script was read and supplied, and adds no table that neither it nor the data source has. -/
structure Loaded (settings : Settings) (file : OsText) (dataSource : Option String)
    (calls : List Call) (script : Script) (catalog : List Table) : Prop where
  read : HasRead file calls script
  supplied : Supplied settings dataSource script calls catalog
  known : ∀ name, .addTable name ∈ script.actions → script.Knows catalog name

/-- Why there is no session: the script was not read or not supplied, or adds an unknown table. -/
inductive Unloaded (settings : Settings) (file : OsText) (dataSource : Option String)
    (calls : List Call) : Prop where
  | unread : Unread file calls → Unloaded settings file dataSource calls
  | unsupplied {script} : HasRead file calls script →
      Unsupplied settings dataSource script calls → Unloaded settings file dataSource calls
  | unknown {script catalog name} : HasRead file calls script →
      Supplied settings dataSource script calls catalog → .addTable name ∈ script.actions →
      ¬ script.Knows catalog name → Unloaded settings file dataSource calls

/-- The request is needed: it asks the data source, at the address in the settings, for its tables,
and there is a table that the script adds and does not declare. -/
def IsNeeded (settings : Settings) (file : OsText) (dataSource : Option String)
    (calls : List Call) (request : Request) : Prop :=
  ∃ script id base, HasRead file calls script ∧ Asks dataSource script id ∧
    settings.serviceAddress (answered calls) .data = .ok base ∧
    request = catalogRequest base id

/-! ## Reading the script -/

/-- How a script is read: with one call, and then parsed. -/
inductive Reading (file : OsText) : Except CommandError Script → List Call → Prop where
  | unreadable (e) :
      Reading file (.error (.unreadableScript file e)) [.readText file (.error e)]
  | readable (text) :
      Reading file ((Script.parse text).mapError (.malformedScript file))
        [.readText file (.ok text)]

section Reading

variable {file : OsText} {r : Except CommandError Script} {script : Script}
  {calls read : List Call}

theorem Reading.purpose_eq (h : Reading file r read) : ∀ call ∈ read, call.purpose = .reading := by
  cases h <;> simp [Call.purpose]

/-- The script that was read is the result. -/
theorem Reading.hasRead_iff (h : Reading file r read) (hread : only .reading calls = read) :
    HasRead file calls script ↔ r = .ok script := by
  have hmem : ∀ answer, .readText file answer ∈ calls ↔ .readText file answer ∈ read :=
    fun answer => Host.mem_of_only hread rfl
  unfold HasRead
  simp only [hmem]
  cases h with
  | unreadable e => simp
  | readable text => cases hparse : Script.parse text <;> simp [Except.mapError, hparse]

/-- There is none exactly if it could not be read. -/
theorem Reading.unread_iff (h : Reading file r read) (hread : only .reading calls = read) :
    Unread file calls ↔ ∃ e, r = .error e := by
  have hmem : ∀ answer, .readText file answer ∈ calls ↔ .readText file answer ∈ read :=
    fun answer => Host.mem_of_only hread rfl
  constructor
  · intro hunread
    cases hunread with
    | unreadable hcall =>
        rw [hmem] at hcall
        cases h with
        | unreadable e => exact ⟨_, rfl⟩
        | readable text => simp at hcall
    | malformed hcall hparse =>
        rw [hmem] at hcall
        cases h with
        | unreadable e => simp at hcall
        | readable text =>
            obtain rfl : _ = text := by simpa using hcall
            exact ⟨_, by rw [hparse]; rfl⟩
  · intro herror
    obtain ⟨e, herror⟩ := herror
    cases h with
    | unreadable e => exact .unreadable ((hmem _).mpr List.mem_cons_self)
    | readable text =>
        cases hparse : Script.parse text with
        | ok script => simp [hparse, Except.mapError] at herror
        | error reason => exact .malformed ((hmem _).mpr List.mem_cons_self) hparse

end Reading

/-! ## Asking the data source -/

/-- The calls that ask for variables, with the values that are given. -/
def lookups (given : List (String × Option String)) : List Call :=
  given.map fun (name, value) => .environment name value

/-- How the tables of a data source are fetched: the variables of the address are asked for, and
then, if there is an address, the service is asked once. -/
inductive Fetching (settings : Settings) (id : String) :
    Except CommandError (List Table) → List Call → Prop where
  | unaddressed {given e} :
      given.map Prod.fst = Expansion.references ((settings.service? .data).getD "") →
      settings.serviceAddress (answered (lookups given)) .data = .error e →
      Fetching settings id (.error (.settings e)) (lookups given)
  | asked {given base} (answer) :
      settings.serviceAddress (answered (lookups given)) .data = .ok base →
      Fetching settings id ((catalogOutcome answer).mapError .catalog)
        (lookups given ++ [.send (catalogRequest base id) answer])

/-- How a script is supplied with tables: the data source is asked only if it has to be. -/
inductive Supplying (settings : Settings) (dataSource : Option String) (script : Script) :
    Except CommandError (List Table) → List Call → Prop where
  | spared : (∀ id, ¬ Asks dataSource script id) → Supplying settings dataSource script (.ok []) []
  | fetched {id r calls} : Asks dataSource script id → Fetching settings id r calls →
      Supplying settings dataSource script r calls

section Supplying

variable {settings : Settings} {dataSource : Option String} {id : String} {script : Script}
  {r : Except CommandError (List Table)} {calls asked : List Call} {catalog : List Table}
  {request : Request} {answer : Except String Response}

/-- Which values variables have is told by the calls that ask. -/
theorem answered_of_only (h : only .asking calls = asked) : answered calls = answered asked := by
  subst h
  funext name
  unfold answered only
  induction calls with
  | nil => rfl
  | cons call calls ih =>
      by_cases hasks : call.purpose = .asking
      · rw [List.filter_cons_of_pos (by simpa using hasks), List.findSome?_cons,
          List.findSome?_cons, ih]
      · rw [List.filter_cons_of_neg (by simpa using hasks), List.findSome?_cons,
          Call.value?_of_ne hasks, ih]

/-- No answer of the network is a value of a variable. -/
theorem answered_concat_send (given : List (String × Option String)) :
    answered (lookups given ++ [.send request answer]) = answered (lookups given) := by
  funext name
  unfold answered
  rw [List.findSome?_append]
  simp [Call.value?]

theorem purpose_of_mem_lookups {given : List (String × Option String)} {call : Call}
    (h : call ∈ lookups given) : call.purpose = .asking := by
  obtain ⟨entry, -, hentry⟩ := List.mem_map.mp h
  subst hentry
  rfl

/-- A variable that was asked for and is not known was answered with nothing. -/
theorem environment_none_mem_lookups {given : List (String × Option String)} {name : String}
    (hname : name ∈ given.map Prod.fst) (hvalue : answered (lookups given) name = none) :
    .environment name none ∈ lookups given := by
  obtain ⟨⟨asked, value⟩, hmem, hasked⟩ := List.mem_map.mp hname
  obtain rfl : asked = name := hasked
  have hcall : .environment asked value ∈ lookups given := List.mem_map.mpr ⟨_, hmem, rfl⟩
  have hnone := List.findSome?_eq_none_iff.mp hvalue _ hcall
  obtain rfl : value = none := by simpa [Call.value?] using hnone
  exact hcall

/-- Only the environment and the network are asked. -/
theorem Fetching.purpose_eq (h : Fetching settings id r asked) :
    ∀ call ∈ asked, call.purpose = .asking := by
  intro call hcall
  cases h with
  | unaddressed => exact purpose_of_mem_lookups hcall
  | asked answer =>
      rcases List.mem_append.mp hcall with hlookup | hsend
      · exact purpose_of_mem_lookups hlookup
      · rw [List.mem_singleton.mp hsend]
        rfl

theorem Supplying.purpose_eq (h : Supplying settings dataSource script r asked) :
    ∀ call ∈ asked, call.purpose = .asking := by
  cases h with
  | spared => exact nofun
  | fetched hasks hfetching => exact hfetching.purpose_eq

/-- The one request is for the tables of the data source, at the address in the settings. -/
theorem Fetching.request_eq (h : Fetching settings id r asked)
    (hsent : .send request answer ∈ asked) :
    ∃ base, settings.serviceAddress (answered asked) .data = .ok base ∧
      request = catalogRequest base id ∧ r = (catalogOutcome answer).mapError .catalog := by
  have hlookup : ∀ given, .send request answer ∉ lookups given := by
    intro given
    simp [lookups]
  cases h with
  | unaddressed => exact absurd hsent (hlookup _)
  | @asked given base answered hbase =>
      have hcall := List.mem_singleton.mp ((List.mem_append.mp hsent).resolve_left (hlookup _))
      rw [Call.send.injEq] at hcall
      obtain ⟨hrequest, hanswer⟩ := hcall
      refine ⟨base, ?_, hrequest, ?_⟩
      · rwa [answered_concat_send]
      · rw [hanswer]

/-- The data source is asked only if it has to be. -/
theorem Supplying.request_eq (h : Supplying settings dataSource script r asked)
    (hsent : .send request answer ∈ asked) :
    ∃ id base, Asks dataSource script id ∧
      settings.serviceAddress (answered asked) .data = .ok base ∧
      request = catalogRequest base id ∧ r = (catalogOutcome answer).mapError .catalog := by
  cases h with
  | spared => cases hsent
  | fetched hasks hfetching =>
      obtain ⟨base, hbase, hrequest, hr⟩ := hfetching.request_eq hsent
      exact ⟨_, base, hasks, hbase, hrequest, hr⟩

/-- The tables that were supplied are the result. -/
theorem Supplying.supplied_iff (h : Supplying settings dataSource script r asked)
    (hasked : only .asking calls = asked) :
    Supplied settings dataSource script calls catalog ↔ r = .ok catalog := by
  constructor
  · intro hsupplied
    cases hsupplied with
    | spared hspared =>
        cases h with
        | spared => rfl
        | fetched hasks => exact absurd hasks (hspared _)
    | fetched hasks hbase hsent htables =>
        rw [Host.mem_of_only hasked rfl] at hsent
        obtain ⟨-, -, -, -, -, hr⟩ := h.request_eq hsent
        rw [hr, htables]
        rfl
  · intro hr
    subst hr
    cases h with
    | spared hspared => exact .spared hspared
    | fetched hasks hfetching =>
        -- Tables come from an answer, so the service was asked.
        generalize hresult : Except.ok catalog = result at hfetching
        cases hfetching with
        | unaddressed => cases hresult
        | asked answer hbase =>
            cases houtcome : catalogOutcome answer with
            | error e =>
                rw [houtcome] at hresult
                cases hresult
            | ok tables =>
                rw [houtcome] at hresult
                cases hresult
                rw [← answered_concat_send, ← answered_of_only hasked] at hbase
                exact .fetched hasks hbase ((Host.mem_of_only hasked rfl).mpr (by simp)) houtcome

/-- Without an address there are no tables. -/
theorem Supplying.error_of_unaddressed (h : Supplying settings dataSource script r asked)
    (hasks : Asks dataSource script id)
    (haddress : ∃ e, settings.serviceAddress (answered asked) .data = .error e) :
    ∃ e, r = .error e := by
  cases h with
  | spared hspared => exact absurd hasks (hspared id)
  | fetched _ hfetching =>
      cases hfetching with
      | unaddressed => exact ⟨_, rfl⟩
      | asked answer hbase =>
          obtain ⟨e, he⟩ := haddress
          rw [answered_concat_send, hbase] at he
          cases he

/-- There are no tables exactly if there is a cause for that. -/
theorem Supplying.unsupplied_iff (h : Supplying settings dataSource script r asked)
    (hasked : only .asking calls = asked) :
    Unsupplied settings dataSource script calls ↔ ∃ e, r = .error e := by
  have hvalues : answered calls = answered asked := answered_of_only hasked
  constructor
  · intro hunsupplied
    cases hunsupplied with
    | unconfigured hasks hnone =>
        exact h.error_of_unaddressed hasks
          (Settings.exists_serviceAddress_eq_error_iff.mpr (.inl hnone))
    | unset hasks htext hname _ hvalue =>
        rw [hvalues] at hvalue
        exact h.error_of_unaddressed hasks
          (Settings.exists_serviceAddress_eq_error_iff.mpr (.inr ⟨_, htext, _, hname, hvalue⟩))
    | refused hasks hbase hsent houtcome =>
        rw [Host.mem_of_only hasked rfl] at hsent
        obtain ⟨-, -, -, -, -, hr⟩ := h.request_eq hsent
        rw [hr, houtcome]
        exact ⟨_, rfl⟩
  · intro herror
    obtain ⟨e, herror⟩ := herror
    cases h with
    | spared => cases herror
    | fetched hasks hfetching =>
        cases hfetching with
        | unaddressed hnames haddress =>
            rcases Settings.exists_serviceAddress_eq_error_iff.mp ⟨_, haddress⟩ with
              hnone | ⟨text, htext, name, hname, hvalue⟩
            · exact .unconfigured hasks hnone
            · rw [htext, Option.getD_some] at hnames
              rw [← hnames] at hname
              have hcall := environment_none_mem_lookups hname hvalue
              rw [hnames] at hname
              rw [← hvalues] at hvalue
              exact .unset hasks htext hname ((Host.mem_of_only hasked rfl).mpr hcall) hvalue
        | asked answer hbase =>
            cases houtcome : catalogOutcome answer with
            | ok tables =>
                rw [houtcome] at herror
                cases herror
            | error reason =>
                rw [← answered_concat_send, ← hvalues] at hbase
                exact .refused hasks hbase ((Host.mem_of_only hasked rfl).mpr (by simp)) houtcome

end Supplying

/-! ## Replaying -/

/-- A replay has a session exactly if all tables that are added are known, and it is the one that
the replay leaves. -/
theorem replayed_eq_ok_iff {settings : Settings} {script : Script} {catalog : List Table}
    {s : Session} :
    replayed settings script catalog = .ok s ↔
      (∀ name, .addTable name ∈ script.actions → script.Knows catalog name) ∧
        s = (script.replay (Session.start settings.layout) catalog).1.session := by
  have hstopped : (script.replay (Session.start settings.layout) catalog).2 = none ↔
      ∀ name, .addTable name ∈ script.actions → script.Knows catalog name :=
    script.stopped_replay_eq_none_iff
  rw [← hstopped, replayed]
  cases script.replay (Session.start settings.layout) catalog with
  | mk r stopped => cases stopped <;> simp [eq_comm]

/-- How a session is loaded: a script is read, then supplied, and then replayed. -/
inductive Loading (settings : Settings) (file : OsText) (dataSource : Option String) :
    Except CommandError Session → List Call → List Call → Prop where
  | unread {e read} : Reading file (.error e) read →
      Loading settings file dataSource (.error e) read []
  | unsupplied {script e read asked} : Reading file (.ok script) read →
      Supplying settings dataSource script (.error e) asked →
      Loading settings file dataSource (.error e) read asked
  | supplied {script catalog read asked} : Reading file (.ok script) read →
      Supplying settings dataSource script (.ok catalog) asked →
      Loading settings file dataSource (replayed settings script catalog) read asked

section Loading

variable {settings : Settings} {file : OsText} {dataSource : Option String}
  {r : Except CommandError Session} {s : Session} {calls read asked : List Call}

theorem Loading.purpose_eq (h : Loading settings file dataSource r read asked) :
    (∀ call ∈ read, call.purpose = .reading) ∧ ∀ call ∈ asked, call.purpose = .asking := by
  cases h with
  | unread hreading => exact ⟨hreading.purpose_eq, nofun⟩
  | unsupplied hreading hsupplying => exact ⟨hreading.purpose_eq, hsupplying.purpose_eq⟩
  | supplied hreading hsupplying => exact ⟨hreading.purpose_eq, hsupplying.purpose_eq⟩

/-- A session that was loaded is the replay of a script that was read and supplied. -/
theorem Loading.of_ok (h : Loading settings file dataSource (.ok s) read asked) :
    ∃ script catalog, Reading file (.ok script) read ∧
      Supplying settings dataSource script (.ok catalog) asked ∧
      replayed settings script catalog = .ok s := by
  generalize hr : Except.ok s = r at h
  cases h with
  | unread => cases hr
  | unsupplied => cases hr
  | supplied hreading hsupplying => exact ⟨_, _, hreading, hsupplying, rfl⟩

/-- A session is loaded exactly if the calls show a script and its tables, and it is the one that
their replay leaves. -/
theorem Loading.loaded_iff (h : Loading settings file dataSource r read asked)
    (hread : only .reading calls = read) (hasked : only .asking calls = asked) :
    r = .ok s ↔ ∃ script catalog, Loaded settings file dataSource calls script catalog ∧
      s = (script.replay (Session.start settings.layout) catalog).1.session := by
  constructor
  · intro hr
    subst hr
    obtain ⟨script, catalog, hreading, hsupplying, hreplayed⟩ := h.of_ok
    obtain ⟨hknown, hs⟩ := replayed_eq_ok_iff.mp hreplayed
    exact ⟨script, catalog, ⟨(hreading.hasRead_iff hread).mpr rfl,
      (hsupplying.supplied_iff hasked).mpr rfl, hknown⟩, hs⟩
  · intro hloaded
    obtain ⟨script, catalog, ⟨hscript, hcatalog, hknown⟩, hs⟩ := hloaded
    cases h with
    | unread hreading => cases (hreading.hasRead_iff hread).mp hscript
    | unsupplied hreading hsupplying =>
        cases (hreading.hasRead_iff hread).mp hscript
        cases (hsupplying.supplied_iff hasked).mp hcatalog
    | supplied hreading hsupplying =>
        cases (hreading.hasRead_iff hread).mp hscript
        cases (hsupplying.supplied_iff hasked).mp hcatalog
        exact replayed_eq_ok_iff.mpr ⟨hknown, hs⟩

/-- There is no session exactly if the calls show a cause for that. -/
theorem Loading.unloaded_iff (h : Loading settings file dataSource r read asked)
    (hread : only .reading calls = read) (hasked : only .asking calls = asked) :
    (∃ e, r = .error e) ↔ Unloaded settings file dataSource calls := by
  constructor
  · intro herror
    obtain ⟨e, herror⟩ := herror
    cases h with
    | unread hreading => exact .unread ((hreading.unread_iff hread).mpr ⟨_, rfl⟩)
    | unsupplied hreading hsupplying =>
        exact .unsupplied ((hreading.hasRead_iff hread).mpr rfl)
          ((hsupplying.unsupplied_iff hasked).mpr ⟨_, rfl⟩)
    | @supplied script catalog _ _ hreading hsupplying =>
        have hunknown : ∃ name, .addTable name ∈ script.actions ∧ ¬ script.Knows catalog name := by
          by_contra hknown
          push Not at hknown
          rw [replayed_eq_ok_iff.mpr ⟨hknown, rfl⟩] at herror
          cases herror
        obtain ⟨name, hadds, hunknown⟩ := hunknown
        exact .unknown ((hreading.hasRead_iff hread).mpr rfl)
          ((hsupplying.supplied_iff hasked).mpr rfl) hadds hunknown
  · intro hunloaded
    cases r with
    | error e => exact ⟨e, rfl⟩
    | ok s =>
        -- A cause contradicts what was read, supplied or known.
        obtain ⟨script, catalog, hreading, hsupplying, hreplayed⟩ := h.of_ok
        cases hunloaded with
        | unread hunread =>
            obtain ⟨e, herror⟩ := (hreading.unread_iff hread).mp hunread
            cases herror
        | unsupplied hscript hunsupplied =>
            cases (hreading.hasRead_iff hread).mp hscript
            obtain ⟨e, herror⟩ := (hsupplying.unsupplied_iff hasked).mp hunsupplied
            cases herror
        | unknown hscript hcatalog hadds hunknown =>
            cases (hreading.hasRead_iff hread).mp hscript
            cases (hsupplying.supplied_iff hasked).mp hcatalog
            exact absurd ((replayed_eq_ok_iff.mp hreplayed).1 _ hadds) hunknown

/-- The data source is asked only for tables that the script lacks. -/
theorem Loading.isNeeded (h : Loading settings file dataSource r read asked)
    (hread : only .reading calls = read) (hasked : only .asking calls = asked)
    {request : Request} {answer : Except String Response} (hsent : .send request answer ∈ calls) :
    IsNeeded settings file dataSource calls request := by
  rw [Host.mem_of_only hasked rfl] at hsent
  have hneeded : ∀ {script supply}, Reading file (.ok script) read →
      Supplying settings dataSource script supply asked →
      IsNeeded settings file dataSource calls request := by
    intro script supply hreading hsupplying
    obtain ⟨id, base, hasks, hbase, hrequest, -⟩ := hsupplying.request_eq hsent
    rw [← answered_of_only hasked] at hbase
    exact ⟨script, id, base, (hreading.hasRead_iff hread).mpr rfl, hasks, hbase, hrequest⟩
  cases h with
  | unread => cases hsent
  | unsupplied hreading hsupplying => exact hneeded hreading hsupplying
  | supplied hreading hsupplying => exact hneeded hreading hsupplying

end Loading

/-! ## The calls that are made -/

/-- The value that is kept of a variable is the first that the environment gave it. -/
theorem lookup_kept (given : List (String × Option String)) (name : String) :
    (given.filterMap fun (name, value) => value.map (name, ·)).lookup name =
      answered (lookups given) name := by
  unfold answered lookups
  induction given with
  | nil => rfl
  | cons first given ih =>
      obtain ⟨other, value⟩ := first
      rw [List.map_cons, List.findSome?_cons, ← ih]
      cases value with
      | none => simp [Call.value?]
      | some value =>
          by_cases hname : other = name
          · simp [Call.value?, hname]
          · have hother : (name == other) = false := by
              rw [beq_eq_false_iff_ne]
              exact fun hsame => hname hsame.symm
            simp [Call.value?, hname, List.lookup_cons, hother]

variable {σ : Type} (host : Host (StateM σ)) (settings : Settings)

/-- The values of variables are asked for one after another. -/
theorem environmentValues_shows (names : List String) :
    Shows (Settings.environmentValues host names) (Settings.environmentValues host.watched names)
      fun values calls => ∃ given, calls = lookups given ∧ given.map Prod.fst = names ∧
        (fun name => values.lookup name) = answered (lookups given) := by
  unfold Settings.environmentValues
  have hasked : Shows (names.mapM fun name => do return (name, ← host.environment name))
      (names.mapM fun name => do return (name, ← host.watched.environment name))
      fun given calls => calls = lookups given ∧ given.map Prod.fst = names := by
    refine .mapM ?_ names
    intro name
    exact (Shows.keep _ _).bind_pure fun value calls hcalls => ⟨hcalls, rfl⟩
  refine hasked.bind_pure ?_
  intro given calls hgiven
  obtain ⟨hcalls, hnames⟩ := hgiven
  exact ⟨given, hcalls, hnames, funext (lookup_kept given)⟩

/-- The tables of a data source are fetched as described. -/
theorem fetchTables_shows (id : String) :
    Shows (fetchTables host settings id none) (fetchTables host.watched settings id none)
      (Fetching settings id) := by
  have haddress : Shows (address host settings .data none)
      (address host.watched settings .data none) fun base calls => ∃ given, calls = lookups given ∧
        given.map Prod.fst = Expansion.references ((settings.service? .data).getD "") ∧
        base = settings.serviceAddress (answered (lookups given)) .data := by
    refine (environmentValues_shows host _).bind_pure ?_
    intro values calls hvalues
    obtain ⟨given, hcalls, hnames, hlookup⟩ := hvalues
    exact ⟨given, hcalls, hnames, by rw [← hlookup]⟩
  refine haddress.bind ?_
  intro base calls hbase
  obtain ⟨given, hcalls, hnames, hserved⟩ := hbase
  subst hcalls
  cases base with
  | error e =>
      refine .pure ?_
      rw [List.append_nil]
      exact .unaddressed hnames hserved.symm
  | ok base =>
      have hsent : Shows (catalogAt host base id) (catalogAt host.watched base id)
          fun found calls => ∃ answer, calls = [.send (catalogRequest base id) answer] ∧
            found = catalogOutcome answer := by
        refine (Shows.keep _ _).bind_pure ?_
        intro answer calls hcalls
        exact ⟨answer, hcalls, rfl⟩
      refine hsent.bind_pure ?_
      intro found calls hfound
      obtain ⟨answer, hcalls, hfound⟩ := hfound
      subst hcalls hfound
      exact .asked answer hserved.symm

/-- A script is supplied as described. -/
theorem catalogFor_shows (script : Script) (dataSource : Option String) :
    Shows (catalogFor host settings script dataSource)
      (catalogFor host.watched settings script dataSource)
      (Supplying settings dataSource script) := by
  unfold catalogFor
  cases dataSource with
  | none => exact .pure (.spared fun id hasks => nomatch hasks.1)
  | some id =>
      cases hlacks : script.undeclaredTables with
      | nil => exact .pure (.spared fun id hasks => hasks.2 hlacks)
      | cons name names =>
          refine (fetchTables_shows host settings id).mono ?_
          intro r calls hfetching
          exact .fetched ⟨rfl, by simp [hlacks]⟩ hfetching

/-- A script is read as described. -/
theorem readScript_shows (file : OsText) :
    Shows (readScript host file) (readScript host.watched file) (Reading file) := by
  refine (Shows.keep _ _).bind ?_
  intro answer calls hcalls
  subst hcalls
  cases answer with
  | error e => exact .pure (.unreadable e)
  | ok text => exact .pure (.readable text)

/-- A session is loaded as described. -/
theorem loadSession_shows (file : OsText) (dataSource : Option String) :
    Shows (loadSession host settings file dataSource)
      (loadSession host.watched settings file dataSource) fun r calls =>
        ∃ read asked, calls = read ++ asked ∧ Loading settings file dataSource r read asked := by
  refine (readScript_shows host file).bind ?_
  intro r read hreading
  cases r with
  | error e => exact .pure ⟨read, [], rfl, .unread hreading⟩
  | ok script =>
      refine (catalogFor_shows host settings script dataSource).bind ?_
      intro supply asked hsupplying
      cases supply with
      | error e =>
          exact .pure ⟨read, asked, by rw [List.append_nil], .unsupplied hreading hsupplying⟩
      | ok catalog =>
          exact .pure ⟨read, asked, by rw [List.append_nil], .supplied hreading hsupplying⟩

end Command

end QueryCanvas
