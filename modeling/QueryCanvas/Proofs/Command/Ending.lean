import QueryCanvas.Proofs.Command.Copying

/-!
# How a command ends with its session

Once its session is loaded a command delivers the specification and then, if that was done and asked
for, copies it (`Command.Ending`). The status is a success exactly if all of that was done, and a
failure exactly if the calls show a cause for that. After a success the text was handed to its
destinations and nothing else was handed to anything (`Command.HandedOut`).
-/

namespace QueryCanvas

open Host (Call Shows only)

/-- The text in which a specification leaves is not empty. -/
theorem Specification.canonicalText_ne_empty (spec : Specification) : spec.canonicalText ≠ "" := by
  intro hempty
  have hchars := congrArg String.toList hempty
  simp [canonicalText, envelope, Json.pretty, Json.prettyChars] at hchars

/-- Where a text is handed to. -/
inductive Destination where
  | file (path : OsText)
  | output
  | program (c : ClipboardCommand)
deriving DecidableEq

namespace Host

/-- The text that a call hands out and where it goes; a program that is run without any input is
handed none. -/
def Call.handed? : Call → Option (Destination × String)
  | .writeText path text _ => some (.file path, text)
  | .printLine text => some (.output, text)
  | .runProgram program arguments input _ =>
      if input = "" then none else some (.program ⟨program, arguments⟩, input)
  | _ => none

/-- The texts that were handed out with their destinations, in order. -/
def handed (calls : List Call) : List (Destination × String) :=
  calls.filterMap Call.handed?

@[simp] theorem handed_append (earlier later : List Call) :
    handed (earlier ++ later) = handed earlier ++ handed later :=
  List.filterMap_append

/-- Nothing is handed out in calls that read, ask or report. -/
theorem handed_eq_nil {calls : List Call}
    (h : ∀ call ∈ calls, call.purpose ≠ .writing ∧ call.purpose ≠ .running) :
    handed calls = [] := by
  rw [handed, List.filterMap_eq_nil_iff]
  intro call hcall
  have hpurpose := h call hcall
  cases call <;> simp_all [Call.purpose, Call.handed?]

theorem handed_unreported (calls : List Call) : handed (unreported calls) = handed calls := by
  rw [handed, handed, unreported, List.filterMap_filter]
  congr 1
  funext call
  cases call <;> simp [Call.purpose, Call.handed?]

/-- The call was to write, and the host could not. -/
def Call.failsToWrite : Call → Bool
  | .createDirectories _ (.error _) | .writeText _ _ (.error _) => true
  | _ => false

theorem Call.purpose_of_failsToWrite {call : Call} (h : call.failsToWrite = true) :
    call.purpose = .writing := by
  unfold failsToWrite at h
  split at h
  · rfl
  · rfl
  · cases h

end Host

namespace Command

open Host (handed)

/-- Where a specification is to be delivered: to the file for a path, or to the output. -/
inductive DeliversTo (spec : Specification) : Option OsText → Destination → Prop where
  | output : DeliversTo spec none .output
  | file {path directory file} : Target path spec directory file →
      DeliversTo spec (some path) (.file file)

/-- The canonical text was handed to its destination and, if a copy is asked for, to the clipboard
that took it. Nothing else was handed to anything. -/
inductive HandedOut (exports : ExportSettings) (spec : Specification) (output : Option OsText)
    (calls : List Call) : Bool → Prop where
  | delivered {destination} : DeliversTo spec output destination →
      handed calls = [(destination, spec.canonicalText)] →
      HandedOut exports spec output calls false
  | copied {destination c} : DeliversTo spec output destination →
      HasCopied exports spec.canonicalText calls c →
      handed calls = [(destination, spec.canonicalText), (.program c, spec.canonicalText)] →
      HandedOut exports spec output calls true

/-- How a command ends with its session, and with which status: the specification is delivered, and
then copied if that was done and asked for. -/
inductive Ending (exports : ExportSettings) (spec : Specification) (output : Option OsText) :
    Bool → Nat → List Call → List Call → Prop where
  | undelivered {copy written} : Delivery spec output false written →
      Ending exports spec output copy failed written []
  | delivered {written} : Delivery spec output true written →
      Ending exports spec output false succeeded written []
  | copied {done written run} : Delivery spec output true written →
      Copying exports spec.canonicalText done run →
      Ending exports spec output true (if done then succeeded else failed) written run

section Ending

variable {exports : ExportSettings} {spec : Specification} {output : Option OsText} {text : String}
  {done copy : Bool} {status : Nat} {calls written run : List Call} {call : Call}

/-- A delivery that is done hands the text to its destination. -/
theorem Delivery.handed_eq (h : Delivery spec output true written) :
    ∃ destination, DeliversTo spec output destination ∧
      handed written = [(destination, spec.canonicalText)] := by
  cases h with
  | printed => exact ⟨.output, .output, rfl⟩
  | written htarget => exact ⟨_, .file htarget, rfl⟩

/-- A file is written only for a path that is given. -/
theorem Delivery.target (h : Delivery spec output done written) {file : OsText}
    {answer : Except SystemError Unit} (hcall : .writeText file text answer ∈ written) :
    ∃ path directory, output = some path ∧ Target path spec directory file := by
  cases h with
  | printed => simp at hcall
  | unplaced => simp at hcall
  | unwritten e htarget =>
      obtain ⟨rfl, -⟩ : file = _ ∧ _ := by simpa using hcall
      exact ⟨_, _, rfl, htarget⟩
  | written htarget =>
      obtain ⟨rfl, -⟩ : file = _ ∧ _ := by simpa using hcall
      exact ⟨_, _, rfl, htarget⟩

/-- A delivery is not done if a call of it failed. -/
theorem Delivery.failsToWrite_eq_false (h : Delivery spec output true written) :
    ∀ call ∈ written, call.failsToWrite = false := by
  cases h <;> simp [Call.failsToWrite]

/-- A search hands out no text. -/
theorem Choosing.handed_eq {found : Option ClipboardCommand} {searches : List Call}
    (h : Choosing exports found searches) : handed searches = [] := by
  rw [handed, List.filterMap_eq_nil_iff]
  intro call hcall
  obtain ⟨name, answer, hsearch⟩ := h.exists_search hcall
  rw [hsearch]
  rfl

/-- A copy that is done hands the text to the clipboard. -/
theorem Copying.handed_eq (h : Copying exports text true run) (hrun : only .running calls = run)
    (htext : text ≠ "") :
    ∃ c, HasCopied exports text calls c ∧ handed run = [(.program c, text)] := by
  cases h with
  | @copied searches c hchoosing =>
      refine ⟨c, hchoosing.hasCopied hrun, ?_⟩
      rw [Host.handed_append, hchoosing.handed_eq]
      simp [handed, Call.handed?, htext]

theorem Ending.purpose_eq (h : Ending exports spec output copy status written run) :
    (∀ call ∈ written, call.purpose = .writing) ∧ ∀ call ∈ run, call.purpose = .running := by
  cases h with
  | undelivered hdelivery => exact ⟨hdelivery.purpose_eq, nofun⟩
  | delivered hdelivery => exact ⟨hdelivery.purpose_eq, nofun⟩
  | copied hdelivery hcopying => exact ⟨hdelivery.purpose_eq, hcopying.purpose_eq⟩

theorem Ending.status_eq (h : Ending exports spec output copy status written run) :
    status = succeeded ∨ status = failed := by
  cases h with
  | undelivered => exact .inr rfl
  | delivered => exact .inl rfl
  | @copied done => cases done <;> simp

/-- A command ends well exactly if its specification was delivered and, where that was asked for,
copied. -/
theorem Ending.succeeded_iff (h : Ending exports spec output copy status written run)
    (hwritten : only .writing calls = written) (hrun : only .running calls = run) :
    status = succeeded ↔ Delivered spec calls output ∧
      (copy = true → ∃ c, HasCopied exports spec.canonicalText calls c) := by
  cases h with
  | undelivered hdelivery =>
      rw [hdelivery.delivered_iff hwritten]
      simp [failed_ne_succeeded]
  | delivered hdelivery =>
      rw [hdelivery.delivered_iff hwritten]
      simp
  | @copied done _ _ hdelivery hcopying =>
      rw [hdelivery.delivered_iff hwritten, hcopying.copied_iff hrun spec.canonicalText_ne_empty]
      cases done <;> simp [failed_ne_succeeded]

/-- It ends badly exactly if there is a cause in the delivery, or in the copy after it. -/
theorem Ending.failed_iff (h : Ending exports spec output copy status written run)
    (hwritten : only .writing calls = written) (hrun : only .running calls = run) :
    status = failed ↔ Undelivered spec calls output ∨
      (Delivered spec calls output ∧ copy = true ∧
        Uncopied exports spec.canonicalText calls) := by
  cases h with
  | undelivered hdelivery =>
      rw [hdelivery.undelivered_iff hwritten]
      simp
  | delivered hdelivery =>
      rw [hdelivery.undelivered_iff hwritten]
      simp [failed_ne_succeeded.symm]
  | @copied done _ _ hdelivery hcopying =>
      rw [hdelivery.undelivered_iff hwritten, hdelivery.delivered_iff hwritten,
        hcopying.uncopied_iff hrun spec.canonicalText_ne_empty]
      cases done <;> simp [failed_ne_succeeded.symm]

/-- A command that ends well hands its text to the destination and to the clipboard that it is to be
copied to. -/
theorem Ending.handedOut (h : Ending exports spec output copy succeeded written run)
    (hrun : only .running calls = run) (hhanded : handed calls = handed written ++ handed run) :
    HandedOut exports spec output calls copy := by
  generalize hstatus : succeeded = status at h
  cases h with
  | undelivered => exact absurd hstatus.symm failed_ne_succeeded
  | delivered hdelivery =>
      obtain ⟨destination, hdestination, hout⟩ := hdelivery.handed_eq
      refine .delivered hdestination ?_
      rw [hhanded, hout]
      rfl
  | @copied done _ _ hdelivery hcopying =>
      cases done with
      | false => exact absurd hstatus.symm failed_ne_succeeded
      | true =>
          obtain ⟨destination, hdestination, hout⟩ := hdelivery.handed_eq
          obtain ⟨c, hcopied, hgiven⟩ := hcopying.handed_eq hrun spec.canonicalText_ne_empty
          refine .copied hdestination hcopied ?_
          rw [hhanded, hout, hgiven]
          rfl

/-- If a file could not be written then the command ends badly and no program was run. -/
theorem Ending.unwritten (h : Ending exports spec output copy status written run)
    (hcall : call ∈ written) (hfails : call.failsToWrite = true) : status = failed ∧ run = [] := by
  have hdone : ¬ Delivery spec output true written := by
    intro hdelivery
    have hholds := hdelivery.failsToWrite_eq_false call hcall
    exact Bool.false_ne_true (hholds.symm.trans hfails)
  cases h with
  | undelivered => exact ⟨rfl, rfl⟩
  | delivered hdelivery => exact absurd hdelivery hdone
  | copied hdelivery => exact absurd hdelivery hdone

/-- A file is written only for a path that is given. -/
theorem Ending.target (h : Ending exports spec output copy status written run) {file : OsText}
    {answer : Except SystemError Unit} (hcall : .writeText file text answer ∈ written) :
    ∃ path directory, output = some path ∧ Target path spec directory file := by
  cases h with
  | undelivered hdelivery => exact hdelivery.target hcall
  | delivered hdelivery => exact hdelivery.target hcall
  | copied hdelivery => exact hdelivery.target hcall

end Ending

/-- A session without notifications is compiled as described; warnings and notifications are
reported beside that. -/
theorem compileSession_shows {σ : Type} (host : Host (StateM σ)) (settings : Settings) {s : Session}
    (output : Option OsText) (copy : Bool) (hnone : s.notifications = []) :
    Shows (compileSession host settings s output copy)
      (compileSession host.watched settings s output copy) fun status calls =>
        ∃ written run, Host.unreported calls = written ++ run ∧
          Ending settings.exports s.render output copy status written run := by
  have hwarnings := Shows.forM (reportLine_shows host) (warnings s.compiled)
  refine hwarnings.bind ?_
  intro _ warned hwarned
  refine (deliver_shows host s output).bind ?_
  intro r written hdelivered
  obtain ⟨done, next⟩ := r
  obtain ⟨hdelivery, hrender, hstatus⟩ := hdelivered
  have hbegun : ∀ later, Host.unreported (warned ++ (written ++ later)) =
      written ++ Host.unreported later := by
    intro later
    rw [Host.unreported_append, Host.unreported_append, Host.unreported_of_forall hwarned,
      Host.unreported_eq_self hdelivery.purpose_eq nofun, List.nil_append]
  have hreported : Shows (reportNotifications host next) (reportNotifications host.watched next)
      fun status later => Host.unreported (warned ++ (written ++ later)) = written ++ [] ∧
        status = if done then succeeded else failed := by
    refine (reportNotifications_shows host next).mono ?_
    intro status reports hreports
    obtain ⟨hreporting, hreportedStatus⟩ := hreports
    rw [hbegun, Host.unreported_of_forall hreporting, hreportedStatus, hstatus, hnone]
    exact ⟨rfl, rfl⟩
  cases done with
  | false =>
      refine hreported.mono ?_
      intro status later hlater
      obtain ⟨hcalls, hfailed⟩ := hlater
      subst hfailed
      exact ⟨written, [], hcalls, .undelivered hdelivery⟩
  | true =>
      cases copy with
      | false =>
          refine hreported.mono ?_
          intro status later hlater
          obtain ⟨hcalls, hsucceeded⟩ := hlater
          subst hsucceeded
          exact ⟨written, [], hcalls, .delivered hdelivery⟩
      | true =>
          refine (copySession_shows host settings.exports next).mono ?_
          intro status later hlater
          obtain ⟨copied, run, reports, hcalls, hcopying, hreporting, hcopied⟩ := hlater
          have hdone := Host.unreported_eq_self hcopying.purpose_eq nofun
          rw [hrender] at hcopying
          refine ⟨written, run, ?_, ?_⟩
          · rw [hbegun, hcalls, Host.unreported_append, hdone, Host.unreported_of_forall hreporting,
              List.append_nil]
          · rw [hcopied, hstatus, hnone]
            exact .copied hdelivery hcopying

end Command

end QueryCanvas
