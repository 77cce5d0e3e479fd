import QueryCanvas.Proofs.Command.Delivering

/-!
# Copying a text

A text is copied by giving it to the program of a clipboard, which is configured or searched for.
`Command.Copying` says which calls that makes. Whether a clipboard took the text can be told from
the calls (`Command.HasCopied`), and so can the cause if none did (`Command.Uncopied`).
-/

namespace QueryCanvas

open Host (Call Shows only)

namespace Command

/-! ## What the calls show -/

/-- The call that searches for a program. -/
def search (name : String) (answer : Except SystemError ExitStatus) : Call :=
  .runProgram "which" [name] "" answer

/-- A program ended well. -/
abbrev endedWell : Except SystemError ExitStatus := .ok (.code 0)

/-- The program of a command was searched for in vain. -/
def Missed (calls : List Call) (c : ClipboardCommand) : Prop :=
  ∃ answer, search c.program answer ∈ calls ∧ answer ≠ endedWell

/-- The clipboard that can be used: the configured command, if it names a program, or the first
known command whose program was found. -/
inductive Usable (exports : ExportSettings) (calls : List Call) : ClipboardCommand → Prop where
  | configured {program arguments} : exports.clipboardCommand = some (program :: arguments) →
      Usable exports calls ⟨program, arguments⟩
  | found {before c after} : exports.clipboardCommand = none →
      ClipboardCommand.known = before ++ c :: after → (∀ d ∈ before, Missed calls d) →
      search c.program endedWell ∈ calls → Usable exports calls c

/-- The command is a clipboard that can be used, and it took the text. -/
def HasCopied (exports : ExportSettings) (text : String) (calls : List Call)
    (c : ClipboardCommand) : Prop :=
  Usable exports calls c ∧ .runProgram c.program c.arguments text endedWell ∈ calls

/-- Why a text was not copied: the configured command names no program, none is configured and none
of the known ones was found, or the clipboard was given the text and did not take it. -/
inductive Uncopied (exports : ExportSettings) (text : String) (calls : List Call) : Prop where
  | empty : exports.clipboardCommand = some [] → Uncopied exports text calls
  | missing : exports.clipboardCommand = none →
      (∀ c ∈ ClipboardCommand.known, Missed calls c ∧ search c.program endedWell ∉ calls) →
      Uncopied exports text calls
  | refused {c answer} : Usable exports calls c →
      .runProgram c.program c.arguments text answer ∈ calls → answer ≠ endedWell →
      Uncopied exports text calls

/-! ## Copying -/

/-- How commands are searched for: one after another, up to the first one that is found. -/
inductive Searching : List ClipboardCommand → Option ClipboardCommand → List Call → Prop where
  | exhausted : Searching [] none []
  | found {c rest} : Searching (c :: rest) (some c) [search c.program endedWell]
  | missed {c rest found searches answer} : answer ≠ endedWell →
      Searching rest found searches →
      Searching (c :: rest) found (search c.program answer :: searches)

/-- How the clipboard is chosen: commands are searched for only if none is configured. -/
inductive Choosing (exports : ExportSettings) :
    Option ClipboardCommand → List Call → Prop where
  | empty : exports.clipboardCommand = some [] → Choosing exports none []
  | configured {program arguments} : exports.clipboardCommand = some (program :: arguments) →
      Choosing exports (some ⟨program, arguments⟩) []
  | searched {found searches} : exports.clipboardCommand = none →
      Searching ClipboardCommand.known found searches → Choosing exports found searches

/-- How a text is copied, and whether that is done: there may be no clipboard to use, and else its
program is given the text. -/
inductive Copying (exports : ExportSettings) (text : String) : Bool → List Call → Prop where
  | unusable {searches} : Choosing exports none searches → Copying exports text false searches
  | refused {searches c answer} : Choosing exports (some c) searches → answer ≠ endedWell →
      Copying exports text false (searches ++ [.runProgram c.program c.arguments text answer])
  | copied {searches c} : Choosing exports (some c) searches →
      Copying exports text true (searches ++ [.runProgram c.program c.arguments text endedWell])

section Copying

variable {exports : ExportSettings} {text : String} {done : Bool} {c : ClipboardCommand}
  {candidates : List ClipboardCommand} {found : Option ClipboardCommand} {call : Call}
  {calls searches run : List Call}

@[simp] theorem search_inj {name other : String} {answer ending : Except SystemError ExitStatus} :
    search name answer = search other ending ↔ name = other ∧ answer = ending := by
  simp [search]

/-- A search in vain is one among more calls. -/
theorem Missed.cons (h : Missed calls c) (call : Call) : Missed (call :: calls) c := by
  obtain ⟨answer, hmem, hanswer⟩ := h
  exact ⟨answer, List.mem_cons_of_mem call hmem, hanswer⟩

/-- Every call of a search is for the program of a command. -/
theorem Searching.exists_search (h : Searching candidates found searches)
    (hcall : call ∈ searches) : ∃ name answer, call = search name answer := by
  induction h with
  | exhausted => cases hcall
  | found => exact ⟨_, _, List.mem_singleton.mp hcall⟩
  | missed _ _ ih =>
      rcases List.mem_cons.mp hcall with hfirst | hlater
      · exact ⟨_, _, hfirst⟩
      · exact ih hlater

/-- A command that is found comes after others that were searched for in vain. -/
theorem Searching.found_eq (h : Searching candidates (some c) searches) :
    ∃ before after, candidates = before ++ c :: after ∧ (∀ d ∈ before, Missed searches d) ∧
      search c.program endedWell ∈ searches := by
  generalize hfound : some c = found at h
  induction h with
  | exhausted => cases hfound
  | @found d rest =>
      cases hfound
      exact ⟨[], rest, rfl, nofun, List.mem_cons_self⟩
  | @missed d rest found searches answer hanswer hrest ih =>
      obtain ⟨before, after, hcandidates, hbefore, hmem⟩ := ih hfound
      refine ⟨d :: before, after, by rw [hcandidates]; rfl, ?_, List.mem_cons_of_mem _ hmem⟩
      intro other hother
      rcases List.mem_cons.mp hother with hfirst | hlater
      · subst hfirst
        exact ⟨answer, List.mem_cons_self, hanswer⟩
      · exact (hbefore other hlater).cons _

/-- If no command is found then each was searched for in vain, and no search ended well. -/
theorem Searching.missed_all (h : Searching candidates none searches) :
    (∀ c ∈ candidates, Missed searches c) ∧ ∀ name, search name endedWell ∉ searches := by
  generalize hfound : none = found at h
  induction h with
  | exhausted => exact ⟨nofun, fun name => List.not_mem_nil⟩
  | found => cases hfound
  | @missed d rest found searches answer hanswer hrest ih =>
      obtain ⟨hmissed, hnone⟩ := ih hfound
      refine ⟨?_, ?_⟩
      · intro c hc
        rcases List.mem_cons.mp hc with hfirst | hlater
        · subst hfirst
          exact ⟨answer, List.mem_cons_self, hanswer⟩
        · exact (hmissed c hlater).cons _
      · intro name
        rw [List.mem_cons, search_inj, not_or, not_and]
        exact ⟨fun _ hwell => hanswer hwell.symm, hnone name⟩

theorem Choosing.exists_search (h : Choosing exports found searches) (hcall : call ∈ searches) :
    ∃ name answer, call = search name answer := by
  cases h with
  | empty => cases hcall
  | configured => cases hcall
  | searched _ hsearching => exact hsearching.exists_search hcall

theorem Choosing.purpose_eq (h : Choosing exports found searches) :
    ∀ call ∈ searches, call.purpose = .running := by
  intro call hcall
  obtain ⟨name, answer, hsearch⟩ := h.exists_search hcall
  rw [hsearch]
  rfl

/-- A clipboard that was chosen can be used. -/
theorem Choosing.usable (h : Choosing exports (some c) searches)
    (hcalls : ∀ call ∈ searches, call ∈ calls) : Usable exports calls c := by
  cases h with
  | configured hcommand => exact .configured hcommand
  | searched hcommand hsearching =>
      obtain ⟨before, after, hknown, hbefore, hfound⟩ := hsearching.found_eq
      refine .found hcommand hknown ?_ (hcalls _ hfound)
      intro d hd
      obtain ⟨answer, hmem, hanswer⟩ := hbefore d hd
      exact ⟨answer, hcalls _ hmem, hanswer⟩

/-- The program of a clipboard is given a text after the searches. -/
theorem Choosing.mem_concat_run (h : Choosing exports found searches) (htext : text ≠ "")
    {program : String} {arguments : List String} {answer : Except SystemError ExitStatus}
    {last : Call} (hlast : .runProgram program arguments text answer ∈ searches ++ [last]) :
    .runProgram program arguments text answer = last := by
  rcases List.mem_append.mp hlast with hsearch | hrun
  · obtain ⟨name, found, hsearch⟩ := h.exists_search hsearch
    rw [search, Call.runProgram.injEq] at hsearch
    exact absurd hsearch.2.2.1 htext
  · exact List.mem_singleton.mp hrun

/-- A clipboard that was chosen and took the text is one that can be used. -/
theorem Choosing.hasCopied (h : Choosing exports (some c) searches)
    (hrun : only .running calls = searches ++ [.runProgram c.program c.arguments text endedWell]) :
    HasCopied exports text calls c := by
  refine ⟨h.usable ?_, Host.mem_of_kept hrun List.mem_concat_self⟩
  intro call hcall
  exact Host.mem_of_kept hrun (List.mem_append_left _ hcall)

/-- A clipboard that is chosen is given the text, and the copy is done if its program ended well. -/
theorem Copying.of_choosing {answer : Except SystemError ExitStatus}
    (h : Choosing exports (some c) searches) (hdone : done = true ↔ answer = endedWell) :
    Copying exports text done (searches ++ [.runProgram c.program c.arguments text answer]) := by
  cases done with
  | false => exact .refused h fun hwell => Bool.false_ne_true (hdone.mpr hwell)
  | true =>
      rw [hdone.mp rfl]
      exact .copied h

theorem Copying.purpose_eq (h : Copying exports text done run) :
    ∀ call ∈ run, call.purpose = .running := by
  have hconcat : ∀ {c searches answer}, Choosing exports (some c) searches →
      ∀ call ∈ searches ++ [.runProgram c.program c.arguments text answer],
        call.purpose = .running := by
    intro c searches answer hchoosing call hcall
    rcases List.mem_append.mp hcall with hsearch | hrun
    · exact hchoosing.purpose_eq call hsearch
    · rw [List.mem_singleton.mp hrun]
      rfl
  cases h with
  | unusable hchoosing => exact hchoosing.purpose_eq
  | refused hchoosing => exact hconcat hchoosing
  | copied hchoosing => exact hconcat hchoosing

/-- A copy is done exactly if a clipboard that can be used took the text. -/
theorem Copying.copied_iff (h : Copying exports text done run) (hrun : only .running calls = run)
    (htext : text ≠ "") : (∃ c, HasCopied exports text calls c) ↔ done = true := by
  constructor
  · intro hcopied
    obtain ⟨c, -, hcall⟩ := hcopied
    rw [Host.mem_of_only hrun rfl] at hcall
    cases h with
    | unusable hchoosing =>
        obtain ⟨name, answer, hsearch⟩ := hchoosing.exists_search hcall
        rw [search, Call.runProgram.injEq] at hsearch
        exact absurd hsearch.2.2.1 htext
    | refused hchoosing hanswer =>
        have hlast := hchoosing.mem_concat_run htext hcall
        rw [Call.runProgram.injEq] at hlast
        exact absurd hlast.2.2.2.symm hanswer
    | copied => rfl
  · intro hdone
    subst hdone
    cases h with
    | @copied searches c hchoosing =>
        exact ⟨c, hchoosing.hasCopied hrun⟩

/-- It is not done exactly if there is a cause for that. -/
theorem Copying.uncopied_iff (h : Copying exports text done run) (hrun : only .running calls = run)
    (htext : text ≠ "") : Uncopied exports text calls ↔ done = false := by
  have hcalls : ∀ call ∈ run, call ∈ calls := fun call hcall => Host.mem_of_kept hrun hcall
  constructor
  · intro huncopied
    cases h with
    | unusable => rfl
    | refused => rfl
    | @copied searches c hchoosing =>
        -- A clipboard was chosen, and it took the text.
        cases huncopied with
        | empty hempty =>
            cases hchoosing with
            | configured hcommand => simp [hempty] at hcommand
            | searched hcommand => simp [hempty] at hcommand
        | missing hnone hmissed =>
            cases hchoosing with
            | configured hcommand => simp [hnone] at hcommand
            | searched hcommand hsearching =>
                obtain ⟨before, after, hknown, -, hfound⟩ := hsearching.found_eq
                have hmem : c ∈ ClipboardCommand.known := by simp [hknown]
                exact absurd (hcalls _ (List.mem_append_left _ hfound)) (hmissed c hmem).2
        | refused husable hcall hanswer =>
            rw [Host.mem_of_only hrun rfl] at hcall
            have hlast := hchoosing.mem_concat_run htext hcall
            rw [Call.runProgram.injEq] at hlast
            exact absurd hlast.2.2.2 hanswer
  · intro hundone
    subst hundone
    cases h with
    | unusable hchoosing =>
        cases hchoosing with
        | empty hempty => exact .empty hempty
        | searched hcommand hsearching =>
            obtain ⟨hmissed, hnone⟩ := hsearching.missed_all
            refine .missing hcommand ?_
            intro c hc
            obtain ⟨answer, hmem, hanswer⟩ := hmissed c hc
            refine ⟨⟨answer, hcalls _ hmem, hanswer⟩, ?_⟩
            rw [Host.mem_of_only hrun rfl]
            exact hnone c.program
    | refused hchoosing hanswer =>
        refine .refused (hchoosing.usable ?_) (hcalls _ List.mem_concat_self) hanswer
        intro call hcall
        exact hcalls call (List.mem_append_left _ hcall)

end Copying

/-! ## The calls that are made -/

variable {σ : Type} (host : Host (StateM σ)) (exports : ExportSettings) (s : Session)

/-- A status is a success if it is the code zero. -/
theorem isSuccess_iff {status : ExitStatus} : status.isSuccess = true ↔ status = .code 0 := by
  cases status with
  | code value => cases value <;> simp [ExitStatus.isSuccess]
  | signal number name => simp [ExitStatus.isSuccess]

/-- A program is searched for with one call. -/
theorem isInstalled_shows (program : String) :
    Shows (ClipboardCommand.isInstalled host program)
      (ClipboardCommand.isInstalled host.watched program) fun found calls =>
        ∃ answer, calls = [search program answer] ∧ (found = true ↔ answer = endedWell) := by
  refine (Shows.keep _ _).bind ?_
  intro answer calls hcalls
  subst hcalls
  cases answer with
  | error e => exact .pure ⟨_, rfl, by simp⟩
  | ok status => exact .pure ⟨_, rfl, by simp [isSuccess_iff]⟩

/-- Commands are searched for as described. -/
theorem firstInstalled_shows (candidates : List ClipboardCommand) :
    Shows (ClipboardCommand.firstInstalled host candidates)
      (ClipboardCommand.firstInstalled host.watched candidates) (Searching candidates) := by
  induction candidates with
  | nil => exact .pure .exhausted
  | cons c rest ih =>
      refine (isInstalled_shows host c.program).bind ?_
      intro found calls hfound
      obtain ⟨answer, hcalls, hfound⟩ := hfound
      subst hcalls
      cases found with
      | true =>
          refine .pure ?_
          rw [hfound.mp rfl]
          exact .found
      | false =>
          have hanswer : answer ≠ endedWell := fun hwell => Bool.false_ne_true (hfound.mpr hwell)
          exact ih.mono fun _ _ hsearching => .missed hanswer hsearching

/-- The gateway of the settings has the clipboard that is chosen. There is no gateway for a
configured command without a program. -/
theorem gatewayOn_shows :
    Shows (exports.gatewayOn host) (exports.gatewayOn host.watched) fun r calls =>
      Choosing exports (r.toOption.bind Gateway.clipboard) calls := by
  unfold ExportSettings.gatewayOn
  cases hcommand : exports.clipboardCommand with
  | some command =>
      refine .pure ?_
      cases command with
      | nil => exact .empty hcommand
      | cons program arguments => exact .configured hcommand
  | none =>
      refine (firstInstalled_shows host _).bind_pure ?_
      intro found calls hsearching
      exact .searched hcommand hsearching

/-- The program of a clipboard is run once, with the text as its input. -/
theorem put_shows (c : ClipboardCommand) (text : String) :
    Shows (c.put host text) (c.put host.watched text) fun outcome calls => ∃ answer,
      calls = [.runProgram c.program c.arguments text answer] ∧
        (outcome.isOk = true ↔ answer = endedWell) := by
  refine (Shows.keep _ _).bind ?_
  intro answer calls hcalls
  subst hcalls
  cases answer with
  | error e => exact .pure ⟨_, rfl, by simp [Except.isOk, Except.toBool]⟩
  | ok status =>
      cases status with
      | code value =>
          cases value <;> exact .pure ⟨_, rfl, by simp [Except.isOk, Except.toBool]⟩
      | signal number name => exact .pure ⟨_, rfl, by simp [Except.isOk, Except.toBool]⟩

/-- Copy a session by the gateway of the settings. -/
def copySession {m : Type → Type} [Monad m] (host : Host m) (exports : ExportSettings)
    (s : Session) : m Nat := do
  match ← exports.gatewayOn host with
  | .error e => fail host e.message
  | .ok gateway =>
      let (_, next) ← s.copy (gateway.clipboardOn host)
      reportNotifications host next

/-- A session is copied as described; the status afterwards is a failure unless that is done. -/
theorem copySession_shows :
    Shows (copySession host exports s) (copySession host.watched exports s)
      fun status calls => ∃ done run reports, calls = run ++ reports ∧
        Copying exports s.render.canonicalText done run ∧
        (∀ call ∈ reports, call.purpose = .reporting) ∧
        status = if done then notificationStatus s.notifications else failed := by
  refine (gatewayOn_shows host exports).bind ?_
  intro r searches hchoosing
  cases r with
  | error e =>
      refine (fail_shows host e.message).mono ?_
      intro status reports hreports
      exact ⟨false, searches, reports, rfl, .unusable hchoosing, hreports⟩
  | ok gateway =>
      have hcopied : Shows (Gateway.copyTo (gateway.clipboardOn host) s.render)
          (Gateway.copyTo (gateway.clipboardOn host.watched) s.render) fun outcome calls =>
            Copying exports s.render.canonicalText outcome.isOk (searches ++ calls) := by
        unfold Gateway.clipboardOn
        rw [Except.toOption, Option.bind_some] at hchoosing
        cases hused : gateway.clipboard with
        | none =>
            refine .pure ?_
            rw [List.append_nil]
            exact .unusable (hused ▸ hchoosing)
        | some c =>
            refine (put_shows host c s.render.canonicalText).mono ?_
            intro outcome calls hput
            obtain ⟨answer, hcalls, hended⟩ := hput
            rw [hcalls]
            exact .of_choosing (hused ▸ hchoosing) hended
      have hsettled : Shows (s.copy (gateway.clipboardOn host))
          (s.copy (gateway.clipboardOn host.watched)) fun r calls => ∃ outcome,
            Copying exports s.render.canonicalText outcome.isOk (searches ++ calls) ∧
              r = s.afterCopy outcome :=
        hcopied.bind_pure fun outcome calls hcopying => ⟨outcome, hcopying, rfl⟩
      refine hsettled.bind ?_
      intro r calls hr
      obtain ⟨outcome, hcopying, hr⟩ := hr
      subst hr
      refine (reportNotifications_shows host _).mono ?_
      intro status reports hreports
      obtain ⟨hreporting, hstatus⟩ := hreports
      refine ⟨outcome.isOk, searches ++ calls, reports, by simp, hcopying, hreporting, ?_⟩
      rw [hstatus]
      cases outcome with
      | ok done => exact notificationStatus_notify_success s _
      | error e => exact notificationStatus_notify_error s _

end Command

end QueryCanvas
