import Ariax.Session.Delivery

/-!
# The end of the session owner

The owner decides to stop by what it learns after it found the queue empty:
that no handle is left, or that admission is closed. Both are true of a queue
that was filled in between, and then the commands in it are dropped with the
receiver. Nothing is lost if, between the two observations, admission is not
closed and the last handle is not dropped over a queue that was filled again.
-/

namespace Ariax

open SessionOwner

variable {Command Value Fault Store : Type}
  {execute : Store → Command → Except Fault Value × Store}

def SessionOwner.Shut (o : SessionOwner Command Value Fault Store) : Prop :=
  o.handles = 0 ∨ o.admission.state ≠ .running

variable {o : SessionOwner Command Value Fault Store}

variable (execute) in
theorem SessionOwner.Shut.next (shut : o.Shut) (input : SessionInput Command) :
    ((sessionMachine execute).next o input).2.Shut ∧
      acceptedRequest ((sessionMachine execute).step o input) = none := by
  obtain ⟨output, o', next, move⟩ := o.exists_move execute input
  simp only [Machine.step, next]
  cases move with
  | counted none =>
    refine ⟨shut.imp none id, ?_⟩
    cases input <;> rfl
  | closed stopped =>
    refine ⟨.inr stopped, ?_⟩
    cases input <;> rfl
  | refused _ stopped | finished _ stopped =>
    refine ⟨?_, rfl⟩
    rcases stopped with rfl | stopped
    · exact shut
    · exact .inr stopped
  | admitted called running =>
    rcases shut with none | stopped
    · exact absurd none called.ne'
    · exact absurd running stopped
  | took | answered | went => exact ⟨shut, rfl⟩

variable {τ : List (SessionStep Command Value Fault Store)}

theorem SessionOwner.Shut.accepts_none {o' : SessionOwner Command Value Fault Store} (shut : o.Shut)
    (run : (sessionMachine execute).Run o τ o') : o'.Shut ∧ acceptedRequests τ = [] := by
  refine run.history (P := fun τ o => o.Shut ∧ acceptedRequests τ = []) ⟨shut, rfl⟩ ?_
  rintro τ o input - ⟨shut, none⟩
  have after := shut.next execute input
  exact ⟨after.1, by rw [acceptedRequests_snoc, none, after.2]; rfl⟩

variable (execute) in
theorem SessionOwner.shut_beginShutdown (o : SessionOwner Command Value Fault Store) :
    ((sessionMachine execute).next o .beginShutdown).2.Shut := by
  simp only [sessionMachine, beginShutdown]
  split
  · split
    · exact .inr (by simp)
    · rename_i stopped
      exact .inr stopped
  · rename_i none
    exact .inl (Nat.eq_zero_of_not_pos none)

/-- The owner found the queue empty and has not learnt yet whether a handle is left. -/
def OwnerPhase.unheld : OwnerPhase Command → Bool
  | .foundEmpty => true
  | _ => false

/-- The owner found the queue empty and has not read the state of admission yet. -/
def OwnerPhase.undecided : OwnerPhase Command → Bool
  | .foundEmpty | .upgraded => true
  | _ => false

/-- Admission is closed, or the last handle dropped, over a queue that was filled after the owner
found it empty. -/
def SessionOwner.overtakes (o : SessionOwner Command Value Fault Store) :
    SessionInput Command → Bool
  | .beginShutdown => o.phase.undecided && !o.queue.isEmpty
  | .dropHandle => decide (o.handles ≤ 1) && o.phase.unheld && !o.queue.isEmpty
  | _ => false

/-- What the owner may conclude in each of its phases. -/
def SessionOwner.Concluded (o : SessionOwner Command Value Fault Store) : Prop :=
  match o.phase with
  | .foundEmpty => o.Shut → o.queue = []
  | .upgraded => o.admission.state ≠ .running → o.queue = []
  | .judged state => state ≠ .running → o.Shut ∧ o.queue = []
  | .left => o.Shut ∧ o.queue = []
  | _ => True

structure SessionOwner.Steady (o : SessionOwner Command Value Fault Store) : Prop where
  sender : o.admission.sender = true ↔ o.admission.state = .running
  concluded : o.Concluded

theorem SessionOwner.shared_eq_true :
    o.shared = true ↔ 0 < o.handles ∨ o.phase.holdsShared = true := by
  rw [shared, Bool.or_eq_true, decide_eq_true_iff]

theorem SessionOwner.Steady.close (steady : o.Steady) {admission : Admission}
    (shut : admission.state ≠ .running) (sender : admission.sender = false)
    (settled : o.phase.undecided → o.queue = []) : Steady { o with admission := admission } := by
  have concluded := steady.concluded
  refine ⟨by simp [sender, shut], ?_⟩
  cases phase : o.phase <;> simp_all [Concluded, Shut, OwnerPhase.undecided]

theorem SessionOwner.Steady.ownerMain (steady : o.Steady) : (o.ownerMain execute).2.Steady := by
  have concluded := steady.concluded
  unfold SessionOwner.ownerMain
  split
  · rename_i receiving
    split
    · exact ⟨steady.sender, trivial⟩
    · rename_i empty
      split
      · exact ⟨steady.sender, fun _ => empty⟩
      · rename_i disconnected
        refine ⟨steady.sender, ?_, empty⟩
        rw [connected, Bool.and_eq_true, steady.sender, shared_eq_true, receiving] at disconnected
        by_cases running : o.admission.state = .running
        · exact .inl (by_contra fun some => disconnected ⟨.inl (Nat.pos_of_ne_zero some), running⟩)
        · exact .inr running
  · exact ⟨steady.sender, trivial⟩
  · rename_i found
    simp only [Concluded, found] at concluded
    split
    · exact ⟨steady.sender, fun stopped => concluded (.inr stopped)⟩
    · rename_i gone
      rw [shared_eq_true, found] at gone
      have shut : o.Shut := .inl (Nat.eq_zero_of_not_pos fun some => gone (.inl some))
      exact ⟨steady.sender, shut, concluded shut⟩
  · rename_i upgraded
    simp only [Concluded, upgraded] at concluded
    exact ⟨steady.sender, fun stopped => ⟨.inr stopped, concluded stopped⟩⟩
  · rename_i state judged
    simp only [Concluded, judged] at concluded
    split
    · exact ⟨steady.sender, trivial⟩
    · rename_i stopped
      exact ⟨steady.sender, concluded stopped⟩
  · split
    · exact ⟨by simp [markClosed, dropReceiver], trivial⟩
    · exact ⟨steady.sender, trivial⟩
  · exact steady

theorem SessionOwner.Steady.next (steady : o.Steady) {input : SessionInput Command}
    (settled : o.overtakes input = false) : ((sessionMachine execute).next o input).2.Steady := by
  have concluded := steady.concluded
  cases input with
  | owner => exact steady.ownerMain
  | clone =>
    simp only [sessionMachine]
    split
    · rename_i called
      -- a second handle opens nothing that was shut
      have same : Shut { o with handles := o.handles + 1 } ↔ o.Shut :=
        or_congr_left (iff_of_false (Nat.succ_ne_zero _) called.ne')
      exact ⟨steady.sender, by simpa only [Concluded, same] using concluded⟩
    · exact steady
  | dropHandle =>
    have kept : o.Shut → Shut { o with handles := o.handles - 1 } :=
      Or.imp_left fun none => by rw [none]
    refine ⟨steady.sender, ?_⟩
    revert concluded
    change o.Concluded → Concluded { o with handles := o.handles - 1 }
    unfold Concluded
    cases phase : o.phase with
    | foundEmpty =>
      rintro concluded (last | stopped)
      · have last : o.handles ≤ 1 := Nat.sub_eq_zero_iff_le.mp last
        simpa [overtakes, last, phase, OwnerPhase.unheld] using settled
      · exact concluded (.inr stopped)
    | judged => exact fun concluded stopped => (concluded stopped).imp_left kept
    | left => exact And.imp_left kept
    | _ => exact id
  | trySubmitOwned command =>
    simp only [sessionMachine]
    split
    · rename_i called
      obtain ⟨error, admission, listed, shut, rejected⟩ | ⟨running, live, accepted⟩ :=
        o.trySubmitOwned_cases command
      · rw [rejected]
        rcases shut with rfl | ⟨rfl, finished⟩
        · exact ⟨steady.sender, concluded⟩
        · have closed : Steady { o with admission := ⟨.closed, false⟩ } :=
            steady.close (by simp) rfl fun undecided => by
              simp [finished, OwnerPhase.undecided] at undecided
          exact ⟨closed.sender, closed.concluded⟩
      · rw [accepted]
        refine ⟨steady.sender, ?_⟩
        cases phase : o.phase <;> simp_all [Concluded, Shut, called.ne']
    · exact steady
  | beginShutdown =>
    simp only [sessionMachine, beginShutdown]
    split
    · split
      · refine steady.close (by simp) rfl fun undecided => ?_
        simpa [overtakes, undecided] using settled
      · exact steady
    · exact steady
  | shutdownJoined =>
    simp only [sessionMachine]
    split
    · split
      · rename_i finished
        exact steady.close (by simp) rfl fun undecided => by
          simp [finished, OwnerPhase.undecided] at undecided
      · exact steady
    · exact steady

theorem SessionOwner.Steady.empty_of_left (steady : o.Steady) (left : o.phase = .left) :
    o.phase.inHand ++ o.queue = [] := by
  have concluded := steady.concluded
  simp only [Concluded, left] at concluded
  rw [left, concluded.2]
  rfl

/-- Runs in which admission is never closed over a queue that was filled again lose nothing. -/
structure Kept (τ : List (SessionStep Command Value Fault Store))
    (o : SessionOwner Command Value Fault Store) : Prop where
  steady : o.Steady
  finished : o.phase = .finished → executedRequests τ = acceptedRequests τ

theorem Kept.of_run {capacity : ℕ} {store : Store}
    (run : (sessionMachine execute).Run (.new capacity store) τ o)
    (settled : Machine.Guarded (fun o input => o.overtakes input = false) τ) : Kept τ o := by
  revert settled
  refine run.history (P := fun τ o =>
    Machine.Guarded (fun o input => o.overtakes input = false) τ → Kept τ o) ?_ ?_
  · exact fun _ => ⟨⟨by simp [new], trivial⟩, by simp [new]⟩
  intro τ o input run ih settled
  obtain ⟨earlier, last⟩ := Machine.guarded_snoc.mp settled
  have kept := ih earlier
  refine ⟨kept.steady.next last, fun finished => ?_⟩
  obtain ⟨lost, line, none⟩ := (Custody.of_run run).line
  obtain ⟨output, o', next, move⟩ := o.exists_move execute input
  simp only [Machine.step, next] at finished ⊢
  rw [acceptedRequests_snoc, executedRequests_snoc]
  cases move with
  | counted | closed =>
    rw [kept.finished finished]
    cases input <;> rfl
  | refused => rw [kept.finished finished]; rfl
  | admitted _ _ live => exact absurd finished live
  | took | answered => cases finished
  | went _ _ _ after => exact absurd finished after
  | finished left =>
    -- the owner left its loop with an empty queue, so the receiver takes nothing with it
    rw [line, kept.steady.empty_of_left left, none (by simp [left])]
    simp [acceptedRequest, executedRequest]

/-- The session owner executes accepted commands once and in the order of their acceptance and
answers each with its own result; it never executes a rejected one and accepts none after the
shutdown began. In a run in which admission is not closed over a queue that was filled after the
owner found it empty, no accepted command is lost. -/
theorem sessionOwner_delivers {o₀ o : SessionOwner Command Value Fault Store}
    {τ : List (SessionStep Command Value Fault Store)}
    (fresh : o₀ ∈ (sessionMachine execute).initial) (run : (sessionMachine execute).Run o₀ τ o) :
    executedRequests τ <+: acceptedRequests τ ∧
    ((acceptedRequests τ).map OwnerRequest.completion).Nodup ∧
    (∀ step ∈ τ, ∀ request result, step.output = .executed request result →
      result = (execute step.before.store request.command).1 ∧
        o.completions request.completion = .answered result) ∧
    (∀ step ∈ τ, ∀ command error, step.input = .trySubmitOwned command →
      step.output = .rejected error → error.command = command ∧
        (error.error = .queueFull ∨ error.error = .shuttingDown ∨ error.error = .unavailable) ∧
        ∀ request ∈ executedRequests τ, request.completion ≠ step.before.opened) ∧
    (∀ earlier step later, τ = earlier ++ step :: later → step.input = .beginShutdown →
      acceptedRequests later = []) ∧
    (Machine.Guarded (fun o input => o.overtakes input = false) τ →
      (o.phase = .left ∨ o.phase = .finished → executedRequests τ = acceptedRequests τ) ∧
      ∀ request ∈ acceptedRequests τ,
        (o.completions request.completion).tryWait ≠ .error .unavailable) := by
  obtain ⟨capacity, store, -, rfl⟩ := fresh
  have custody := Custody.of_run run
  obtain ⟨lost, line, none⟩ := custody.line
  have started : executedRequests τ <+: acceptedRequests τ := by
    rw [line, List.append_assoc]
    exact List.prefix_append _ _
  refine ⟨started, ?_, custody.answers, ?_, ?_, fun settled => ?_⟩
  · rw [List.nodup_iff_pairwise_ne, List.pairwise_map]
    exact custody.ascending.imp Nat.ne_of_lt
  · intro step member command error called output
    obtain ⟨unchanged, kind, -, never⟩ := custody.refusals step member command error called output
    exact ⟨unchanged, kind, fun request executed => never request (started.subset executed)⟩
  · rintro earlier step later rfl called
    obtain ⟨between, -, rest⟩ := run.split
    obtain ⟨taken, rest⟩ := rest.uncons
    have shut : step.after.Shut := by
      rw [taken, called]
      exact between.shut_beginShutdown execute
    exact (shut.accepts_none rest).2
  · have kept := Kept.of_run run settled
    have complete : o.phase = .left ∨ o.phase = .finished →
        executedRequests τ = acceptedRequests τ := by
      rintro (left | finished)
      · rw [line, kept.steady.empty_of_left left, none (by simp [left])]
        simp
      · exact kept.finished finished
    refine ⟨complete, fun request accepted => ?_⟩
    by_cases executed : request ∈ executedRequests τ
    · obtain ⟨step, member, result, output⟩ := mem_executedRequests.mp executed
      rw [(custody.answers step member request result output).2]
      cases result <;> simp [SessionCompletion.tryWait]
    · -- only the receiver of a finished thread takes requests with it
      have live : o.phase ≠ .finished := fun finished =>
        executed (complete (.inr finished) ▸ accepted)
      rw [line, none live, List.append_nil, List.mem_append] at accepted
      rw [custody.waiting request (accepted.resolve_left executed)]
      simp [SessionCompletion.tryWait]

namespace SessionSample

def add (store command : ℕ) : Except Unit ℕ × ℕ := (.ok (store + command), store + command)

/-- A command is submitted and executed before the shutdown begins. -/
def drained : List (SessionInput ℕ) :=
  [.trySubmitOwned 5, .owner, .owner, .owner, .beginShutdown, .owner, .owner, .owner]

/-- A command is submitted, and the shutdown begins, after the owner found the queue empty. -/
def overtaken : List (SessionInput ℕ) :=
  [.owner, .trySubmitOwned 5, .beginShutdown, .owner, .owner, .owner]

end SessionSample

open SessionSample in
/-- A command that was executed before the shutdown began. -/
theorem sessionOwner_delivers_drained :
    executedRequests ((sessionMachine add).trace (.new 1 0) drained) =
      acceptedRequests ((sessionMachine add).trace (.new 1 0) drained) := by
  have fresh : new 1 0 ∈ (sessionMachine add).initial := ⟨1, 0, by decide, rfl⟩
  have delivered := (sessionOwner_delivers fresh (Machine.run_trace (new 1 0) drained)).2.2.2.2.2
  exact (delivered (by unfold Machine.Guarded; decide)).1 (.inl rfl)

open SessionSample in
/-- A command that was accepted after the owner found the queue empty is lost when the shutdown
begins before the owner reads the state: the loop is left without executing it, and its
completion reports that the owner is unavailable. -/
theorem sessionOwner_loses_overtaken :
    let history := (sessionMachine add).trace (.new 1 0) overtaken
    let left := (sessionMachine add).final (.new 1 0) overtaken
    acceptedRequests history = [⟨5, 0⟩] ∧ executedRequests history = [] ∧ left.phase = .left ∧
      (((sessionMachine add).final left [.owner]).completions 0).tryWait = .error .unavailable :=
  ⟨rfl, rfl, rfl, rfl⟩

end Ariax
