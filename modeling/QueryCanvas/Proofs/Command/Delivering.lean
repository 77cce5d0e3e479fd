import QueryCanvas.Proofs.Command.Placing
import QueryCanvas.Proofs.Host.Transcript

/-!
# Delivering a specification

A compiled session is delivered to a file or to the output. `Command.Delivery` says which calls that
makes. Whether the specification was delivered can be told from the calls (`Command.Delivered`), and
so can the cause if it was not (`Command.Undelivered`). A failure is left among the notifications of
the session, which are counted when they are reported.
-/

namespace QueryCanvas

open Host (Call Shows only)

namespace Command

/-! ## What the calls show -/

/-- The specification was printed, or written into the file for a path whose directory was created
first. -/
inductive Delivered (spec : Specification) (calls : List Call) : Option OsText → Prop where
  | printed : .printLine spec.canonicalText ∈ calls → Delivered spec calls none
  | written {path directory file} : Target path spec directory file →
      .createDirectories directory (.ok ()) ∈ calls →
      .writeText file spec.canonicalText (.ok ()) ∈ calls → Delivered spec calls (some path)

/-- The directory of the file for a path could not be created, or the file not written. -/
inductive Undelivered (spec : Specification) (calls : List Call) : Option OsText → Prop where
  | unplaced {path directory file} (e) : Target path spec directory file →
      .createDirectories directory (.error e) ∈ calls → Undelivered spec calls (some path)
  | unwritten {path directory file} (e) : Target path spec directory file →
      .createDirectories directory (.ok ()) ∈ calls →
      .writeText file spec.canonicalText (.error e) ∈ calls → Undelivered spec calls (some path)

/-! ## Printing and writing -/

/-- How a specification is delivered, and whether that is done: it is printed, or a directory is
created and a file written in it. -/
inductive Delivery (spec : Specification) : Option OsText → Bool → List Call → Prop where
  | printed : Delivery spec none true [.printLine spec.canonicalText]
  | unplaced {path directory file} (e) : Target path spec directory file →
      Delivery spec (some path) false [.createDirectories directory (.error e)]
  | unwritten {path directory file} (e) : Target path spec directory file →
      Delivery spec (some path) false
        [.createDirectories directory (.ok ()), .writeText file spec.canonicalText (.error e)]
  | written {path directory file} : Target path spec directory file →
      Delivery spec (some path) true
        [.createDirectories directory (.ok ()), .writeText file spec.canonicalText (.ok ())]

section Delivery

variable {spec : Specification} {output : Option OsText} {done : Bool} {calls written : List Call}

theorem Delivery.purpose_eq (h : Delivery spec output done written) :
    ∀ call ∈ written, call.purpose = .writing := by
  cases h <;> simp [Call.purpose]

/-- A delivery is done exactly if the specification was delivered. -/
theorem Delivery.delivered_iff (h : Delivery spec output done written)
    (hwritten : only .writing calls = written) : Delivered spec calls output ↔ done = true := by
  have hmem : ∀ {call : Call}, call.purpose = .writing → (call ∈ calls ↔ call ∈ written) :=
    Host.mem_of_only hwritten
  constructor
  · intro hdelivered
    cases hdelivered with
    | printed => cases h with
      | printed => rfl
    | written htarget hcreated hstored =>
        rw [hmem rfl] at hcreated hstored
        cases h <;> simp_all
  · intro hdone
    subst hdone
    cases h with
    | printed => exact .printed ((hmem rfl).mpr (by simp))
    | written htarget =>
        exact .written htarget ((hmem rfl).mpr (by simp)) ((hmem rfl).mpr (by simp))

/-- It is not done exactly if there is a cause for that. -/
theorem Delivery.undelivered_iff (h : Delivery spec output done written)
    (hwritten : only .writing calls = written) : Undelivered spec calls output ↔ done = false := by
  have hmem : ∀ {call : Call}, call.purpose = .writing → (call ∈ calls ↔ call ∈ written) :=
    Host.mem_of_only hwritten
  constructor
  · intro hundelivered
    cases hundelivered with
    | unplaced e htarget hcreated =>
        rw [hmem rfl] at hcreated
        cases h <;> simp_all
    | unwritten e htarget hcreated hstored =>
        rw [hmem rfl] at hcreated hstored
        cases h <;> simp_all
  · intro hundone
    subst hundone
    cases h with
    | unplaced e htarget => exact .unplaced e htarget ((hmem rfl).mpr (by simp))
    | unwritten e htarget =>
        exact .unwritten e htarget ((hmem rfl).mpr (by simp)) ((hmem rfl).mpr (by simp))

end Delivery

/-! ## Notifications -/

variable {σ : Type} (host : Host (StateM σ)) (s : Session)

/-- A success does not change the status. -/
theorem notificationStatus_notify_success (message : String) :
    notificationStatus (s.notify .success message).notifications =
      notificationStatus s.notifications := by
  simp [notificationStatus, Session.notify]

/-- An error is a failure, whatever was notified before. -/
theorem notificationStatus_notify_error (message : String) :
    notificationStatus (s.notify .error message).notifications = failed := by
  simp [notificationStatus, Session.notify]

theorem failed_ne_succeeded : failed ≠ succeeded := by
  decide

theorem reportLine_shows (line : String) :
    Shows (host.reportLine line) (host.watched.reportLine line) fun _ calls =>
      ∀ call ∈ calls, call.purpose = .reporting := by
  refine (Shows.keep _ _).mono ?_
  intro _ calls hcalls
  simp [hcalls, Call.purpose]

theorem fail_shows (message : String) :
    Shows (fail host message) (fail host.watched message) fun status calls =>
      (∀ call ∈ calls, call.purpose = .reporting) ∧ status = failed :=
  (reportLine_shows host _).bind_pure fun _ _ hcalls => ⟨hcalls, rfl⟩

theorem reportNotifications_shows :
    Shows (reportNotifications host s) (reportNotifications host.watched s) fun status calls =>
      (∀ call ∈ calls, call.purpose = .reporting) ∧
        status = notificationStatus s.notifications := by
  have hlines := Shows.forM (fun n => reportLine_shows host (notificationLine n)) s.notifications
  exact hlines.bind_pure fun _ _ hcalls => ⟨hcalls, rfl⟩

/-- A session is delivered as described; the status afterwards is a failure unless that is done. -/
theorem deliver_shows (output : Option OsText) :
    Shows (deliver host s output) (deliver host.watched s output) fun r calls =>
      Delivery s.render output r.1 calls ∧ r.2.render = s.render ∧
        notificationStatus r.2.notifications =
          if r.1 then notificationStatus s.notifications else failed := by
  cases output with
  | none =>
      refine (Shows.keep _ _).bind_pure ?_
      intro _ calls hcalls
      subst hcalls
      exact ⟨.printed, rfl, rfl⟩
  | some path =>
      have htarget := target_gatewayTo path s.render
      have hdownload : Shows ((gatewayTo path).download host s.render)
          ((gatewayTo path).download host.watched s.render) fun r calls =>
            Delivery s.render (some path) r.isOk calls := by
        refine (Shows.keep _ _).bind ?_
        intro created calls hcalls
        subst hcalls
        cases created with
        | error e => exact .pure (.unplaced e htarget)
        | ok _ =>
            refine (Shows.keep _ _).bind ?_
            intro stored calls hcalls
            subst hcalls
            cases stored with
            | error e => exact .pure (.unwritten e htarget)
            | ok _ => exact .pure (.written htarget)
      have hsettled : Shows (s.download host (gatewayTo path))
          (s.download host.watched (gatewayTo path)) fun r calls => ∃ outcome,
            Delivery s.render (some path) outcome.isOk calls ∧ r = s.afterDownload outcome :=
        hdownload.bind_pure fun outcome calls hdelivery => ⟨outcome, hdelivery, rfl⟩
      refine hsettled.bind_pure ?_
      intro r calls hr
      obtain ⟨outcome, hdelivery, hr⟩ := hr
      subst hr
      cases outcome with
      | ok file => exact ⟨hdelivery, rfl, notificationStatus_notify_success s _⟩
      | error e => exact ⟨hdelivery, rfl, notificationStatus_notify_error s _⟩

end Command

end QueryCanvas
