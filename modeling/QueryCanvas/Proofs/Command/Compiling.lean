import QueryCanvas.Proofs.Command.Ending
import QueryCanvas.Proofs.Command.Loading

/-!
# The status of compiling a script

Compiling a script can fail while its session is loaded, while the specification is written, before
a clipboard is found, and while the text is copied; the last two and the writing are told by
notifications, which are counted when the command ends. `Course` says which of these ends there are
and which calls come before them. From it follows what the status stands for, whatever the host
answers: `Command.run_compile_exact` says that the command succeeds exactly if the calls show that
everything was done that was asked for, and fails exactly if they show a cause. The file that is
written need not be where the given path leads to.
-/

namespace QueryCanvas

open Host (Call Shows only)

namespace Command

open Host (handed)

/-- The specification of the session that a script leaves. -/
def rendering (settings : Settings) (script : Script) (catalog : List Table) : Specification :=
  (script.replay (Session.start settings.layout) catalog).1.session.render

/-- Everything that a command to compile asks for was done with a script and the tables beside it:
they were loaded, the specification was delivered, and if a copy is asked for then a clipboard took
it. -/
structure Fulfilled (settings : Settings) (file : OsText) (output : Option OsText) (copy : Bool)
    (dataSource : Option String) (calls : List Call) (script : Script) (catalog : List Table) :
    Prop where
  loaded : Loaded settings file dataSource calls script catalog
  delivered : Delivered (rendering settings script catalog) calls output
  copied : copy = true → ∃ c,
    HasCopied settings.exports (rendering settings script catalog).canonicalText calls c

/-- Why a command to compile fails: there is no session, or its specification was not delivered, or
it was delivered and is to be copied and was not. -/
inductive Failure (settings : Settings) (file : OsText) (output : Option OsText) (copy : Bool)
    (dataSource : Option String) (calls : List Call) : Prop where
  | unloaded : Unloaded settings file dataSource calls →
      Failure settings file output copy dataSource calls
  | undelivered {script catalog} : Loaded settings file dataSource calls script catalog →
      Undelivered (rendering settings script catalog) calls output →
      Failure settings file output copy dataSource calls
  | uncopied {script catalog} : Loaded settings file dataSource calls script catalog →
      Delivered (rendering settings script catalog) calls output → copy = true →
      Uncopied settings.exports (rendering settings script catalog).canonicalText calls →
      Failure settings file output copy dataSource calls

/-- How a script is compiled, and with which status: a session is loaded, and the command ends with
it; lines are reported beside that. -/
inductive Course (settings : Settings) (file : OsText) (output : Option OsText) (copy : Bool)
    (dataSource : Option String) : Nat → List Call → Prop where
  | unloaded {e calls read asked} : Loading settings file dataSource (.error e) read asked →
      Host.unreported calls = read ++ asked →
      Course settings file output copy dataSource failed calls
  | loaded {s status calls read asked written run} :
      Loading settings file dataSource (.ok s) read asked →
      Ending settings.exports s.render output copy status written run →
      Host.unreported calls = read ++ asked ++ (written ++ run) →
      Course settings file output copy dataSource status calls

section Course

variable {settings : Settings} {file : OsText} {output : Option OsText} {copy : Bool}
  {dataSource : Option String} {r : Except CommandError Session} {s : Session}
  {exports : ExportSettings} {spec : Specification} {status : Nat}
  {calls read asked written run : List Call} {script : Script} {catalog : List Table}

/-- The parts of a command are told apart by what the calls are for. -/
theorem only_parts (hcalls : Host.unreported calls = read ++ asked ++ (written ++ run))
    (hread : ∀ call ∈ read, call.purpose = .reading)
    (hasked : ∀ call ∈ asked, call.purpose = .asking)
    (hwritten : ∀ call ∈ written, call.purpose = .writing)
    (hrun : ∀ call ∈ run, call.purpose = .running) :
    only .reading calls = read ∧ only .asking calls = asked ∧ only .writing calls = written ∧
      only .running calls = run := by
  have hsplit : ∀ purpose, purpose ≠ .reporting → only purpose calls =
      only purpose read ++ only purpose asked ++ (only purpose written ++ only purpose run) := by
    intro purpose hpurpose
    rw [← Host.only_unreported hpurpose, hcalls, Host.only_append, Host.only_append,
      Host.only_append]
  simp [hsplit, Host.only_of_forall hread, Host.only_of_forall hasked,
    Host.only_of_forall hwritten, Host.only_of_forall hrun]

/-- Loading hands nothing out. -/
theorem Loading.handed_eq (h : Loading settings file dataSource r read asked) :
    handed (read ++ asked) = [] := by
  obtain ⟨hread, hasked⟩ := h.purpose_eq
  refine Host.handed_eq_nil ?_
  intro call hcall
  rcases List.mem_append.mp hcall with hreading | hasking
  · simp [hread call hreading]
  · simp [hasked call hasking]

/-- The calls of a command without a session. -/
theorem Loading.only_eq (h : Loading settings file dataSource r read asked)
    (hcalls : Host.unreported calls = read ++ asked) :
    only .reading calls = read ∧ only .asking calls = asked ∧ only .writing calls = [] ∧
      only .running calls = [] := by
  obtain ⟨hread, hasked⟩ := h.purpose_eq
  exact only_parts (by simpa using hcalls) hread hasked nofun nofun

/-- The calls of a command with a session. -/
theorem Ending.only_eq (h : Ending exports spec output copy status written run)
    (hloading : Loading settings file dataSource r read asked)
    (hcalls : Host.unreported calls = read ++ asked ++ (written ++ run)) :
    only .reading calls = read ∧ only .asking calls = asked ∧ only .writing calls = written ∧
      only .running calls = run := by
  obtain ⟨hread, hasked⟩ := hloading.purpose_eq
  obtain ⟨hwritten, hrun⟩ := h.purpose_eq
  exact only_parts hcalls hread hasked hwritten hrun

theorem Course.status_eq (h : Course settings file output copy dataSource status calls) :
    status = succeeded ∨ status = failed := by
  cases h with
  | unloaded => exact .inr rfl
  | loaded _ hending => exact hending.status_eq

/-- A command succeeds exactly if everything was done that it asks for. -/
theorem Course.succeeded_iff (h : Course settings file output copy dataSource status calls) :
    status = succeeded ↔
      ∃ script catalog, Fulfilled settings file output copy dataSource calls script catalog := by
  cases h with
  | unloaded hloading hcalls =>
      obtain ⟨hread, hasked, -, -⟩ := hloading.only_eq hcalls
      constructor
      · intro hstatus
        exact absurd hstatus failed_ne_succeeded
      · intro hfulfilled
        obtain ⟨script, catalog, hloaded, -, -⟩ := hfulfilled
        cases (hloading.loaded_iff hread hasked).mpr ⟨script, catalog, hloaded, rfl⟩
  | loaded hloading hending hcalls =>
      obtain ⟨hread, hasked, hwritten, hrun⟩ := hending.only_eq hloading hcalls
      rw [hending.succeeded_iff hwritten hrun]
      constructor
      · intro hdone
        obtain ⟨hdelivered, hcopied⟩ := hdone
        obtain ⟨script, catalog, hloaded, hs⟩ := (hloading.loaded_iff hread hasked).mp rfl
        subst hs
        exact ⟨script, catalog, hloaded, hdelivered, hcopied⟩
      · intro hfulfilled
        obtain ⟨script, catalog, hloaded, hdelivered, hcopied⟩ := hfulfilled
        have hsession := (hloading.loaded_iff hread hasked).mpr ⟨script, catalog, hloaded, rfl⟩
        cases hsession
        exact ⟨hdelivered, hcopied⟩

/-- It fails exactly if there is a cause for that. -/
theorem Course.failed_iff (h : Course settings file output copy dataSource status calls) :
    status = failed ↔ Failure settings file output copy dataSource calls := by
  cases h with
  | unloaded hloading hcalls =>
      obtain ⟨hread, hasked, -, -⟩ := hloading.only_eq hcalls
      have hcause := (hloading.unloaded_iff hread hasked).mp ⟨_, rfl⟩
      exact ⟨fun _ => .unloaded hcause, fun _ => rfl⟩
  | @loaded s status calls read asked written run hloading hending hcalls =>
      obtain ⟨hread, hasked, hwritten, hrun⟩ := hending.only_eq hloading hcalls
      -- The calls tell the script and the tables, and so the session that was loaded.
      have hsession : ∀ {script catalog},
          Loaded settings file dataSource calls script catalog →
            s.render = rendering settings script catalog := by
        intro script catalog hloaded
        cases (hloading.loaded_iff hread hasked).mpr ⟨script, catalog, hloaded, rfl⟩
        rfl
      rw [hending.failed_iff hwritten hrun]
      constructor
      · intro hcause
        obtain ⟨script, catalog, hloaded, -⟩ := (hloading.loaded_iff hread hasked).mp rfl
        rw [hsession hloaded] at hcause
        rcases hcause with hundelivered | ⟨hdelivered, hcopy, huncopied⟩
        · exact .undelivered hloaded hundelivered
        · exact .uncopied hloaded hdelivered hcopy huncopied
      · intro hfailure
        cases hfailure with
        | unloaded hcause =>
            obtain ⟨e, herror⟩ := (hloading.unloaded_iff hread hasked).mpr hcause
            cases herror
        | undelivered hloaded hundelivered =>
            rw [hsession hloaded]
            exact .inl hundelivered
        | uncopied hloaded hdelivered hcopy huncopied =>
            rw [hsession hloaded]
            exact .inr ⟨hdelivered, hcopy, huncopied⟩

/-- A command that succeeds hands out the text of what was loaded, and nothing else. -/
theorem Course.handedOut (h : Course settings file output copy dataSource succeeded calls)
    (hloaded : Loaded settings file dataSource calls script catalog) :
    HandedOut settings.exports (rendering settings script catalog) output calls copy := by
  generalize hstatus : succeeded = status at h
  cases h with
  | unloaded => exact absurd hstatus.symm failed_ne_succeeded
  | loaded hloading hending hcalls =>
      subst hstatus
      obtain ⟨hread, hasked, hwritten, hrun⟩ := hending.only_eq hloading hcalls
      cases (hloading.loaded_iff hread hasked).mpr ⟨script, catalog, hloaded, rfl⟩
      refine hending.handedOut hrun ?_
      rw [← Host.handed_unreported, hcalls, Host.handed_append, hloading.handed_eq,
        Host.handed_append, List.nil_append]

/-- The data source is asked only for tables that the script lacks. -/
theorem Course.isNeeded (h : Course settings file output copy dataSource status calls)
    {request : Request} {answer : Except String Response} (hsent : .send request answer ∈ calls) :
    IsNeeded settings file dataSource calls request := by
  cases h with
  | unloaded hloading hcalls =>
      obtain ⟨hread, hasked, -, -⟩ := hloading.only_eq hcalls
      exact hloading.isNeeded hread hasked hsent
  | loaded hloading hending hcalls =>
      obtain ⟨hread, hasked, -, -⟩ := hending.only_eq hloading hcalls
      exact hloading.isNeeded hread hasked hsent

/-- If a file could not be written then the command fails and no program was run. -/
theorem Course.unwritten (h : Course settings file output copy dataSource status calls)
    {call : Call} (hcall : call ∈ calls) (hfails : call.failsToWrite = true) :
    status = failed ∧ ∀ other ∈ calls, other.purpose ≠ .running := by
  have hunrun : only .running calls = [] → ∀ other ∈ calls, other.purpose ≠ .running := by
    intro hnone other hother hpurpose
    rw [Host.mem_of_only hnone hpurpose] at hother
    cases hother
  have hwrites := Call.purpose_of_failsToWrite hfails
  cases h with
  | unloaded hloading hcalls =>
      obtain ⟨-, -, hwritten, -⟩ := hloading.only_eq hcalls
      rw [Host.mem_of_only hwritten hwrites] at hcall
      cases hcall
  | loaded hloading hending hcalls =>
      obtain ⟨-, -, hwritten, hrun⟩ := hending.only_eq hloading hcalls
      rw [Host.mem_of_only hwritten hwrites] at hcall
      obtain ⟨hstatus, hnone⟩ := hending.unwritten hcall hfails
      exact ⟨hstatus, hunrun (hrun.trans hnone)⟩

/-- A file is written only for a path that is given, and it is where that path leads to exactly if
the path names a file by a text. -/
theorem Course.samePlace_iff (h : Course settings file output copy dataSource status calls)
    {stored : OsText} {text : String} {answer : Except SystemError Unit}
    (hcall : .writeText stored text answer ∈ calls) :
    ∃ path, output = some path ∧ (Path.SamePlace stored.bytes path.bytes ↔ NamesFile path) := by
  cases h with
  | unloaded hloading hcalls =>
      obtain ⟨-, -, hwritten, -⟩ := hloading.only_eq hcalls
      rw [Host.mem_of_only hwritten rfl] at hcall
      cases hcall
  | loaded hloading hending hcalls =>
      obtain ⟨-, -, hwritten, -⟩ := hending.only_eq hloading hcalls
      rw [Host.mem_of_only hwritten rfl] at hcall
      obtain ⟨path, directory, houtput, htarget⟩ := hending.target hcall
      exact ⟨path, houtput, htarget.samePlace_iff⟩

end Course

/-- A loaded session has no notifications. -/
theorem replayed_notifications {settings : Settings} {script : Script} {catalog : List Table}
    {s : Session} (h : replayed settings script catalog = .ok s) : s.notifications = [] := by
  rw [(replayed_eq_ok_iff.mp h).2]
  exact Replay.notifications_run _ _ _

/-- A script is compiled as described. -/
theorem compileScript_shows {σ : Type} (host : Host (StateM σ)) (settings : Settings)
    (file : OsText) (output : Option OsText) (copy : Bool) (dataSource : Option String) :
    Shows (compileScript host settings file output copy dataSource)
      (compileScript host.watched settings file output copy dataSource)
      (Course settings file output copy dataSource) := by
  refine (loadSession_shows host settings file dataSource).bind ?_
  intro r reads hloaded
  obtain ⟨read, asked, hreads, hloading⟩ := hloaded
  have hkept : Host.unreported reads = read ++ asked := by
    obtain ⟨hread, hasked⟩ := hloading.purpose_eq
    rw [hreads, Host.unreported_append, Host.unreported_eq_self hread nofun,
      Host.unreported_eq_self hasked nofun]
  cases r with
  | error e =>
      refine (fail_shows host e.message).mono ?_
      intro status reports hreports
      obtain ⟨hreporting, hstatus⟩ := hreports
      subst hstatus
      refine .unloaded hloading ?_
      rw [Host.unreported_append, hkept, Host.unreported_of_forall hreporting, List.append_nil]
  | ok s =>
      obtain ⟨script, catalog, -, -, hreplayed⟩ := hloading.of_ok
      have hnone := replayed_notifications hreplayed
      refine (compileSession_shows host settings output copy hnone).mono ?_
      intro status later hlater
      obtain ⟨written, run, hcalls, hending⟩ := hlater
      refine .loaded hloading hending ?_
      rw [Host.unreported_append, hkept, hcalls]

/-- The status of a command to compile stands for what was done, whatever the host answers and
however it changes. Watching the run changes nothing and tells the calls that it makes. The command
succeeds exactly if the calls show that all was done that it asks for: the script was read, supplied
and known, its specification was delivered, and a clipboard took it if a copy is asked for. It fails
exactly if they show a cause, and there is no other status: nothing is left out without a cause.
After a success the canonical text of the replayed session was handed to the output or to the file
for the given path, and then to the clipboard if a copy is asked for, and nothing else was handed to
anything. The data source is asked only for tables that the script adds and does not declare.

The file is the one that the path leads to exactly if the last step of the path is a name that is a
text. A name that is none is replaced by what is shown of it: for `\xFF` the file is `\uFFFD`. Where
the last step leads up, as in `..`, the file gets the name that the specification has by itself, in
the directory that the steps before lead to; where there is no step, as in `/`, it gets that name in
the working directory. The command succeeds all the same. If a file cannot be written then the
command fails and no program is run, so nothing is copied. -/
theorem run_compile_exact {σ : Type} (host : Host (StateM σ)) (world : σ) (settings : Settings)
    (file : OsText) (output : Option OsText) (copy : Bool) (dataSource : Option String) :
    ∃ status calls next,
      (run host settings (.compile file output copy dataSource)).run world = (status, next) ∧
      ((run host.watched settings (.compile file output copy dataSource)).run []).run world =
        ((status, calls), next) ∧
      (status = succeeded ∨ status = failed) ∧
      (status = succeeded ↔
        ∃ script catalog, Fulfilled settings file output copy dataSource calls script catalog) ∧
      (status = failed ↔ Failure settings file output copy dataSource calls) ∧
      (status = succeeded →
        ∀ script catalog, Loaded settings file dataSource calls script catalog →
          HandedOut settings.exports (rendering settings script catalog) output calls copy) ∧
      (∀ request answer, .send request answer ∈ calls →
        IsNeeded settings file dataSource calls request) ∧
      (∀ stored text answer, .writeText stored text answer ∈ calls → ∃ path, output = some path ∧
        (Path.SamePlace stored.bytes path.bytes ↔ NamesFile path)) ∧
      (∀ call ∈ calls, call.failsToWrite = true →
        status = failed ∧ ∀ other ∈ calls, other.purpose ≠ .running) := by
  obtain ⟨status, calls, next, hrun, hseen, hcourse⟩ :=
    compileScript_shows host settings file output copy dataSource world []
  rw [List.nil_append] at hseen
  refine ⟨status, calls, next, hrun, hseen, hcourse.status_eq, hcourse.succeeded_iff,
    hcourse.failed_iff, ?_, ?_, ?_, ?_⟩
  · intro hstatus script catalog hloaded
    subst hstatus
    exact hcourse.handedOut hloaded
  · intro request answer hsent
    exact hcourse.isNeeded hsent
  · intro stored text answer hcall
    exact hcourse.samePlace_iff hcall
  · intro call hcall hfails
    exact hcourse.unwritten hcall hfails

/-- A script that declares one of the two tables that it adds. -/
def stockScript : Script where
  tables := [⟨"orders", OrderedMap.empty.insert "id" "integer"⟩]
  actions := [.addTable "orders", .addTable "stock"]

/-- The script as it is written in a file. -/
def stockText : String :=
  "\x7b\"tables\":[\x7b\"name\":\"orders\",\"columns\":\x7b\"id\":\"integer\"\x7d\x7d]," ++
    "\"actions\":[\x7b\"addTable\":\x7b\"table\":\"orders\"\x7d\x7d," ++
    "\x7b\"addTable\":\x7b\"table\":\"stock\"\x7d\x7d]\x7d"

/-- The data service is at an address that the environment completes. -/
def stockSettings : Settings where
  services := { dataService := some "http://$\x7bHOST\x7d" }

/-- The data source has the other table. Programs are counted, and the first one ends badly: the
first clipboard command is not found, but the second is. -/
def stockHost : Host (StateM Nat) where
  readText _ := return .ok stockText
  isPresent _ := return false
  createDirectories _ := return .ok ()
  writeText _ _ := return .ok ()
  environment _ := return some "catalog.local"
  runProgram _ _ _ := do
    let earlier ← get
    set (earlier + 1)
    return .ok (.code (if earlier = 0 then 1 else 0))
  send _ := return .ok ⟨200, "\x7b\"tables\":\x7b\"stock\":\x7b\x7d\x7d\x7d"⟩
  printLine _ := return ()
  reportLine _ := return ()

theorem readScript_stock : (readScript stockHost "q.json").run 0 = (.ok stockScript, 0) := by
  have hparse : Script.parse stockText = .ok stockScript := by decide +kernel
  show ((Script.parse stockText).mapError _, 0) = _
  rw [hparse]
  rfl

theorem fetchTables_stock :
    (fetchTables stockHost stockSettings "7" none).run 0 = (.ok [⟨"stock", []⟩], 0) := by
  have haddress : (stockSettings.addressOn stockHost .data).run 0 =
      (.ok "http://catalog.local", 0) := by with_unfolding_all rfl
  have hanswer : (catalogOutcome
      (.ok ⟨200, "\x7b\"tables\":\x7b\"stock\":\x7b\x7d\x7d\x7d"⟩)).mapError
        CommandError.catalog = .ok [⟨"stock", []⟩] := rfl
  rw [fetchTables, address, StateT.run_bind, haddress]
  exact congrArg (·, 0) hanswer

theorem loadSession_stock :
    (loadSession stockHost stockSettings "q.json" (some "7")).run 0 =
      (replayed stockSettings stockScript [⟨"stock", []⟩], 0) := by
  rw [loadSession, StateT.run_bind, readScript_stock]
  show (fetchTables stockHost stockSettings "7" none >>= _).run 0 = _
  rw [StateT.run_bind, fetchTables_stock]
  rfl

theorem compileSession_stock {s : Session} (hnone : s.notifications = []) (path : OsText)
    (copy : Bool) :
    (compileSession stockHost stockSettings s (some path) copy).run 0 =
      (succeeded, if copy then 3 else 0) := by
  have hwarned : ∀ lines : List String, lines.forM stockHost.reportLine = pure () := by
    intro lines
    induction lines with
    | nil => rfl
    | cons line lines ih => exact ih
  unfold compileSession
  rw [hwarned]
  obtain ⟨canvas, configs, isOpen, notifications⟩ := s
  subst hnone
  cases copy <;> rfl

theorem compileScript_stock (path : OsText) (copy : Bool) :
    (compileScript stockHost stockSettings "q.json" (some path) copy (some "7")).run 0 =
      (succeeded, if copy then 3 else 0) := by
  have hknown : ∀ name, .addTable name ∈ stockScript.actions →
      stockScript.Knows [⟨"stock", []⟩] name := by
    intro name hname
    simpa [stockScript, Script.Knows, eq_comm] using hname
  have hloaded := loadSession_stock
  rw [replayed_eq_ok_iff.mpr ⟨hknown, rfl⟩] at hloaded
  rw [compileScript, StateT.run_bind, hloaded]
  exact compileSession_stock (Replay.notifications_run _ _ _) path copy

theorem run_compile_exact_fetched :
    ∃ script catalog calls c stored,
      ((run stockHost.watched stockSettings
        (.compile "q.json" (some "out/q.json") true (some "7"))).run []).run 0 =
          ((succeeded, calls), 3) ∧
      Fulfilled stockSettings "q.json" (some "out/q.json") true (some "7") calls script catalog ∧
      Host.handed calls =
        [(.file stored, (rendering stockSettings script catalog).canonicalText),
          (.program c, (rendering stockSettings script catalog).canonicalText)] ∧
      Path.SamePlace stored.bytes (OsText.ofString "out/q.json").bytes := by
  obtain ⟨status, calls, next, hrun, hseen, -, hfulfilled, -, hhanded, -, -, -⟩ :=
    run_compile_exact stockHost 0 stockSettings "q.json" (some "out/q.json") true (some "7")
  cases (compileScript_stock "out/q.json" true).symm.trans hrun
  obtain ⟨script, catalog, hall⟩ := hfulfilled.mp rfl
  cases hhanded rfl script catalog hall.loaded with
  | @copied destination c hdestination hcopied hout =>
      cases hdestination with
      | @file path directory stored htarget =>
          have hnames : NamesFile "out/q.json" :=
            ⟨[(OsText.ofString "out").bytes], "q.json", by decide, by decide⟩
          exact ⟨script, catalog, calls, c, stored, hseen, hall, hout,
            htarget.samePlace_iff.mpr hnames⟩

/-- A command that writes to a path succeeds, though the file is not where the path leads to. -/
def StoresElsewhere (path : OsText) : Prop :=
  ∃ calls stored text,
    ((run stockHost.watched stockSettings
      (.compile "q.json" (some path) false (some "7"))).run []).run 0 = ((succeeded, calls), 0) ∧
    .writeText stored text (.ok ()) ∈ calls ∧ ¬ Path.SamePlace stored.bytes path.bytes

theorem storesElsewhere_stock {path : OsText} (h : ¬ NamesFile path) : StoresElsewhere path := by
  obtain ⟨status, calls, next, hrun, hseen, hcourse⟩ :=
    compileScript_shows stockHost stockSettings "q.json" (some path) false (some "7") 0 []
  cases (compileScript_stock path false).symm.trans hrun
  obtain ⟨script, catalog, -, hdelivered, -⟩ := hcourse.succeeded_iff.mp rfl
  cases hdelivered with
  | written htarget _ hstored =>
      refine ⟨calls, _, _, hseen, hstored, ?_⟩
      rw [htarget.samePlace_iff]
      exact h

/-- It does so where the path leads up, and where the name is a byte that begins no character. -/
theorem run_compile_unnamed : StoresElsewhere ".." ∧ StoresElsewhere ⟨[0xFF]⟩ := by
  constructor
  · have hup : Path.steps (OsText.ofString "..").bytes = [Path.up] := by decide
    exact storesElsewhere_stock (not_namesFile_of_steps hup (.inl rfl))
  · have hbyte : Path.steps (OsText.mk [0xFF]).bytes = [[0xFF]] := by decide
    exact storesElsewhere_stock (not_namesFile_of_steps hbyte (.inr (by decide)))

end Command

end QueryCanvas
