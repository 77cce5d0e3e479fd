import QueryCanvas.Host.Basic

/-!
# Transcripts

What a program does to its surroundings is the sequence of its calls, each with the answer that the
host gave. A host can be watched: it answers as before and every call is kept. `Shows` says of an
action that watching it changes nothing, and which results and calls it can come to, whatever the
host answers and however its answers change from call to call. It is closed under the forms that
programs are built of (`Shows.bind` and its neighbours), so that a function of the program needs one
lemma about its calls.
-/

namespace QueryCanvas

namespace Host

/-- A call, with the answer of the host. -/
inductive Call where
  | readText (path : OsText) (answer : Except SystemError String)
  | isPresent (path : OsText) (answer : Bool)
  | createDirectories (path : OsText) (answer : Except SystemError Unit)
  | writeText (path : OsText) (text : String) (answer : Except SystemError Unit)
  | environment (name : String) (answer : Option String)
  | runProgram (program : String) (arguments : List String) (input : String)
      (answer : Except SystemError ExitStatus)
  | send (request : Request) (answer : Except String Response)
  | printLine (text : String)
  | reportLine (text : String)

/-- What a call is for. -/
inductive Purpose where
  | reading
  | asking
  | writing
  | running
  | reporting
deriving DecidableEq

/-- Files are read; the environment and the network are asked; files and the output are written;
programs are run; and lines are reported. -/
def Call.purpose : Call → Purpose
  | .readText _ _ | .isPresent _ _ => .reading
  | .environment _ _ | .send _ _ => .asking
  | .createDirectories _ _ | .writeText _ _ _ | .printLine _ => .writing
  | .runProgram _ _ _ _ => .running
  | .reportLine _ => .reporting

/-- The calls of one purpose, in their order. -/
def only (purpose : Purpose) (calls : List Call) : List Call :=
  calls.filter (·.purpose = purpose)

section Only

variable {purpose : Purpose} {call : Call} {calls kept earlier later : List Call}

@[simp] theorem mem_only : call ∈ only purpose calls ↔ call ∈ calls ∧ call.purpose = purpose := by
  simp [only]

@[simp] theorem only_append :
    only purpose (earlier ++ later) = only purpose earlier ++ only purpose later :=
  List.filter_append earlier later

/-- Of calls for one purpose all are kept for it, and none for another. -/
theorem only_of_forall {common : Purpose} (h : ∀ call ∈ calls, call.purpose = common) :
    only purpose calls = if common = purpose then calls else [] := by
  by_cases hsame : common = purpose
  · rw [if_pos hsame, only, List.filter_eq_self]
    intro call hcall
    simp [h call hcall, hsame]
  · rw [if_neg hsame, only, List.filter_eq_nil_iff]
    intro call hcall
    simp [h call hcall, hsame]

/-- The calls of one purpose are those that are kept for it. -/
theorem mem_of_only (h : only purpose calls = kept) (hcall : call.purpose = purpose) :
    call ∈ calls ↔ call ∈ kept := by
  rw [← h, mem_only]
  simp [hcall]

/-- Whatever is kept is a call. -/
theorem mem_of_kept (h : only purpose calls = kept) (hcall : call ∈ kept) : call ∈ calls := by
  rw [← h] at hcall
  exact (mem_only.mp hcall).1

/-- The calls without those that report, in their order. -/
def unreported (calls : List Call) : List Call :=
  calls.filter (·.purpose ≠ .reporting)

@[simp] theorem unreported_append :
    unreported (earlier ++ later) = unreported earlier ++ unreported later :=
  List.filter_append earlier later

/-- Calls that report are left out. -/
theorem unreported_of_forall (h : ∀ call ∈ calls, call.purpose = .reporting) :
    unreported calls = [] := by
  rw [unreported, List.filter_eq_nil_iff]
  simpa using h

/-- Calls for another purpose are kept. -/
theorem unreported_eq_self (h : ∀ call ∈ calls, call.purpose = purpose)
    (hpurpose : purpose ≠ .reporting) : unreported calls = calls := by
  rw [unreported, List.filter_eq_self]
  intro call hcall
  simp [h call hcall, hpurpose]

/-- Without those that report there are as many calls of each other purpose. -/
theorem only_unreported (h : purpose ≠ .reporting) :
    only purpose (unreported calls) = only purpose calls := by
  rw [only, only, unreported, List.filter_filter]
  refine List.filter_congr ?_
  intro call _
  by_cases hcall : call.purpose = purpose
  · simp [hcall, h]
  · simp [hcall]

end Only

variable {σ α β : Type} {m : Type → Type} [Monad m]

/-- Perform an action and keep the call that it was. -/
def keep (note : α → Call) (act : m α) : StateT (List Call) m α := do
  let answer ← act
  modify (· ++ [note answer])
  return answer

/-- The host, watched: it answers as before, and every call is kept. -/
def watched (host : Host m) : Host (StateT (List Call) m) where
  readText path := keep (.readText path) (host.readText path)
  isPresent path := keep (.isPresent path) (host.isPresent path)
  createDirectories path := keep (.createDirectories path) (host.createDirectories path)
  writeText path text := keep (.writeText path text) (host.writeText path text)
  environment name := keep (.environment name) (host.environment name)
  runProgram program arguments input :=
    keep (.runProgram program arguments input) (host.runProgram program arguments input)
  send request := keep (.send request) (host.send request)
  printLine text := keep (fun _ => .printLine text) (host.printLine text)
  reportLine text := keep (fun _ => .reportLine text) (host.reportLine text)

/-- Watching an action changes nothing. From every state of the host it comes to the same result and
the same state, its calls stand after those made earlier, and the postcondition holds of the result
and the calls. -/
def Shows (act : StateM σ α) (seen : StateT (List Call) (StateM σ) α)
    (post : α → List Call → Prop) : Prop :=
  ∀ (world : σ) (earlier : List Call), ∃ result calls next,
    act.run world = (result, next) ∧
      (seen.run earlier).run world = ((result, earlier ++ calls), next) ∧ post result calls

namespace Shows

variable {act : StateM σ α} {seen : StateT (List Call) (StateM σ) α}
  {post weaker : α → List Call → Prop}

/-- A call to the host is kept with its answer. -/
theorem keep (note : α → Call) (act : StateM σ α) :
    Shows act (Host.keep note act) fun answer calls => calls = [note answer] := by
  intro world earlier
  exact ⟨(act.run world).1, [note (act.run world).1], (act.run world).2, rfl, rfl, rfl⟩

/-- A result without calls. -/
theorem pure {a : α} (h : post a []) : Shows (Pure.pure a : StateM σ α) (Pure.pure a) post := by
  intro world earlier
  refine ⟨a, [], world, rfl, ?_, h⟩
  rw [List.append_nil]
  rfl

/-- The calls of the second action come after those of the first. -/
theorem bind {f : α → StateM σ β} {g : α → StateT (List Call) (StateM σ) β}
    {last : β → List Call → Prop} (h : Shows act seen post)
    (hf : ∀ a calls, post a calls → Shows (f a) (g a) fun b later => last b (calls ++ later)) :
    Shows (act >>= f) (seen >>= g) last := by
  intro world earlier
  obtain ⟨a, calls, middle, hact, hseen, hpost⟩ := h world earlier
  obtain ⟨b, later, final, hnext, hnextSeen, hlast⟩ := hf a calls hpost middle (earlier ++ calls)
  refine ⟨b, calls ++ later, final, ?_, ?_, hlast⟩
  · rw [StateT.run_bind, hact]
    exact hnext
  · rw [StateT.run_bind, StateT.run_bind, hseen, ← List.append_assoc]
    exact hnextSeen

/-- A postcondition may be weakened. -/
theorem mono (h : Shows act seen post) (hpost : ∀ a calls, post a calls → weaker a calls) :
    Shows act seen weaker := by
  intro world earlier
  obtain ⟨a, calls, next, hact, hseen, hholds⟩ := h world earlier
  exact ⟨a, calls, next, hact, hseen, hpost a calls hholds⟩

/-- A result that is made of that of an action needs no further calls. -/
theorem bind_pure {f : α → β} {last : β → List Call → Prop} (h : Shows act seen post)
    (hf : ∀ a calls, post a calls → last (f a) calls) :
    Shows (act >>= fun a => Pure.pure (f a)) (seen >>= fun a => Pure.pure (f a)) last := by
  refine h.bind ?_
  intro a calls hpost
  refine .pure ?_
  rw [List.append_nil]
  exact hf a calls hpost

/-- If an action on a member of a list makes one call, which its result tells beside the member,
then the actions on all members make the calls that their results tell. -/
theorem mapM {ι : Type} {f : ι → StateM σ β} {g : ι → StateT (List Call) (StateM σ) β}
    {note : β → Call} {key : β → ι}
    (h : ∀ i, Shows (f i) (g i) fun b calls => calls = [note b] ∧ key b = i) (is : List ι) :
    Shows (is.mapM f) (is.mapM g) fun bs calls => calls = bs.map note ∧ bs.map key = is := by
  induction is with
  | nil => exact .pure ⟨rfl, rfl⟩
  | cons i is ih =>
      rw [List.mapM_cons, List.mapM_cons]
      refine (h i).bind ?_
      intro b calls hb
      obtain ⟨hcalls, hkey⟩ := hb
      subst hcalls
      refine ih.bind_pure ?_
      intro bs later hbs
      obtain ⟨hlater, hkeys⟩ := hbs
      rw [hlater, List.map_cons, List.map_cons, hkey, hkeys]
      exact ⟨rfl, rfl⟩

/-- Actions on the members of a list make calls of a kind if each does. -/
theorem forM {ι : Type} {f : ι → StateM σ PUnit} {g : ι → StateT (List Call) (StateM σ) PUnit}
    {kind : Call → Prop} (h : ∀ i, Shows (f i) (g i) fun _ calls => ∀ call ∈ calls, kind call)
    (is : List ι) :
    Shows (is.forM f) (is.forM g) fun _ calls => ∀ call ∈ calls, kind call := by
  induction is with
  | nil => exact .pure (by simp)
  | cons i is ih =>
      refine (h i).bind ?_
      intro _ calls hcalls
      refine ih.mono ?_
      intro _ later hlater call hcall
      exact (List.mem_append.mp hcall).elim (hcalls call) (hlater call)

end Shows

end Host

end QueryCanvas
