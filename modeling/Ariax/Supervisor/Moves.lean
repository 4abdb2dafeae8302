import Ariax.Supervisor.Workers

/-!
# What a poll is made of

A poll is a sequence of moves. Each of them takes at most one thing from a
queue and appends the events it makes of it to those that were made before,
whether or not the mailbox takes them at once; a call that fails may lose
the last of these events. The invariants of the supervisor are proved move
by move.
-/

namespace Ariax

open List Option

namespace HttpWorkerSupervisor

def submittedOf : SupervisorRecord → Option RuntimeEventSubmission
  | .submitted submission => some submission
  | _ => none

def submissions (log : List SupervisorRecord) : List RuntimeEventSubmission :=
  log.filterMap submittedOf

/-- The events made so far, oldest first: those that were submitted and those that are pending. -/
def produced (s : HttpWorkerSupervisor) : List RuntimeEventSubmission :=
  submissions s.log ++ s.pendingEvents

def isTraffic : SupervisorRecord → Bool
  | .submitted _ | .taken _ => true
  | _ => false

/-- Nothing changed but that some events were made and some went their way. -/
structure Emits (s s' : HttpWorkerSupervisor) (events : List RuntimeEventSubmission) : Prop where
  allocations : s'.runtime.allocations = s.runtime.allocations
  cancellations : s'.runtime.cancellations = s.runtime.cancellations
  nextTicket : s'.runtime.nextTicket = s.runtime.nextTicket
  active : s'.active = s.active
  joins : s'.joins = s.joins
  byJoin : s'.byJoin = s.byJoin
  nextJoin : s'.nextJoin = s.nextJoin
  produced : s'.produced = s.produced ++ events
  log : ∃ more, s'.log = s.log ++ more ∧ ∀ record ∈ more, isTraffic record = true

variable (s : HttpWorkerSupervisor)

theorem Emits.refl : Emits s s [] :=
  ⟨rfl, rfl, rfl, rfl, rfl, rfl, rfl, (append_nil _).symm, [], (append_nil _).symm,
    by simp⟩

variable {s} {allocation : AllocationRequest} {environment : PollEnvironment}

theorem Emits.trans {s' s'' : HttpWorkerSupervisor} {events more : List RuntimeEventSubmission}
    (first : Emits s s' events) (second : Emits s' s'' more) : Emits s s'' (events ++ more) := by
  obtain ⟨one, logged, traffic⟩ := first.log
  obtain ⟨two, logged', traffic'⟩ := second.log
  exact ⟨second.allocations.trans first.allocations, second.cancellations.trans first.cancellations,
    second.nextTicket.trans first.nextTicket, second.active.trans first.active,
    second.joins.trans first.joins, second.byJoin.trans first.byJoin,
    second.nextJoin.trans first.nextJoin,
    by rw [second.produced, first.produced, append_assoc],
    one ++ two, by rw [logged', logged, append_assoc], fun record member =>
      (mem_append.mp member).elim (traffic record) (traffic' record)⟩

theorem submissions_append (first second : List SupervisorRecord) :
    submissions (first ++ second) = submissions first ++ submissions second :=
  filterMap_append

variable {submission : RuntimeEventSubmission}

/-- An event that the mailbox took goes from the pending ones to the submitted ones. -/
theorem Emits.submit {runtime : RuntimeMailbox}
    (taken : s.runtime.trySubmitEvent submission = .ok runtime)
    {rest events : List RuntimeEventSubmission}
    (made : submission :: rest = s.pendingEvents ++ events) :
    Emits s ((s.submitted runtime submission).withPending rest) events := by
  unfold RuntimeMailbox.trySubmitEvent at taken
  split at taken
  · cases taken
  split at taken
  · cases taken
  cases taken
  refine ⟨rfl, rfl, rfl, rfl, rfl, rfl, rfl, ?_, [.submitted submission], rfl, by simp [isTraffic]⟩
  have logged : submissions (s.log ++ [.submitted submission]) =
      submissions s.log ++ [submission] := submissions_append _ _
  change submissions (s.log ++ [.submitted submission]) ++ rest =
    submissions s.log ++ s.pendingEvents ++ events
  rw [logged, append_assoc, append_assoc, ← made]
  rfl

theorem Emits.postpone (s : HttpWorkerSupervisor) (events : List RuntimeEventSubmission) :
    Emits s (s.withPending (s.pendingEvents ++ events)) events :=
  ⟨rfl, rfl, rfl, rfl, rfl, rfl, rfl, (append_assoc _ _ _).symm, [],
    (append_nil _).symm, by simp⟩

theorem flushLoop_emits {pending : List RuntimeEventSubmission} (here : s.pendingEvents = pending)
    (progressed : Bool) :
    wpEnds (flushLoop pending progressed) (Emits s · []) s := by
  induction pending generalizing s progressed with
  | nil =>
    simp only [flushLoop, wp_bind, wp_modify, wp_pure]
    have same : s.withPending [] = s := by rw [← here]; rfl
    rw [same]
    exact .refl s
  | cons submission rest ih =>
    simp only [flushLoop, wp_bind, wp_get]
    split
    · rename_i runtime taken
      have flushed : Emits s ((s.submitted runtime submission).withPending rest) [] :=
        .submit taken (by rw [here, append_nil])
      exact (ih rfl true).imp fun _ => flushed.trans
    · exact wp_pure.mpr (.refl s)
    · exact wp_throw.mpr (.refl s)

variable (s) (submission)

theorem flushPending_emits : wpEnds flushPending (Emits s · []) s := by
  exact flushLoop_emits rfl false

theorem enqueueEvent_emits : wp (enqueueEvent submission) (fun _ s' => Emits s s' [submission])
      (fun _ s' => Emits s s' []) s := by
  simp only [enqueueEvent, wp_bind, wp_get, wp_throwIf]
  refine ⟨fun _ => .refl s, fun _ => ?_⟩
  split
  · rename_i none
    have none : s.pendingEvents = [] := isEmpty_iff.mp none
    split
    · rename_i runtime taken
      have same : s.submitted runtime submission =
          (s.submitted runtime submission).withPending [] := by
        rw [← none]
        rfl
      rw [wp_set, same]
      exact .submit taken (by rw [none, nil_append])
    · rw [wp_set]
      have made := Emits.postpone s [submission]
      rwa [none, nil_append] at made
    · exact wp_throw.mpr (.refl s)
  · exact wp_set.mpr (.postpone s [submission])

theorem enqueueEvent_begins : wpEnds (enqueueEvent submission)
      (fun s' => ∃ made, made <+: [submission] ∧ Emits s s' made) s :=
  (enqueueEvent_emits s submission).mono (fun _ _ emits => ⟨_, prefix_refl _, emits⟩)
    fun _ _ lost => ⟨_, nil_prefix, lost⟩

variable {s} {submission}

/-! ## Moves -/

/-- The events that a finished worker leaves. -/
def farewell (worker : ActiveWorker) (completion : Option WorkerCompletion) :
    List RuntimeEventSubmission :=
  match worker.cancellationRequest with
  | some request => [request.drained]
  | none => conclusion worker completion

section

variable (s : HttpWorkerSupervisor)

def withAllocations (allocations : List AllocationRequest) : HttpWorkerSupervisor :=
  { s with runtime := { s.runtime with allocations := allocations } }

def withCancellations (cancellations : List CancellationRequest) : HttpWorkerSupervisor :=
  { s with runtime := { s.runtime with cancellations := cancellations } }

def released (joinId : ℕ) (task : TaskId) (ended : List (ℕ × Option WorkerCompletion)) :
    HttpWorkerSupervisor :=
  { s with
    joins := { s.joins with ended := ended }
    byJoin := s.byJoin.erase joinId
    active := s.active.erase task }

end

/-- The things a poll does one after the other. -/
inductive Move (s : HttpWorkerSupervisor) : HttpWorkerSupervisor → Prop
  | emitted {s' : HttpWorkerSupervisor} (emits : Emits s s' []) : Move s s'
  | refused {allocation : AllocationRequest} {before after : List AllocationRequest}
      {body : TaskEventBody} {events : List RuntimeEventSubmission} {s' : HttpWorkerSupervisor}
      (queued : s.runtime.allocations = before ++ allocation :: after)
      (kind : body.kind = .allocationRetryable ∨ body.kind = .allocationFailed)
      (made : events <+: [allocation.identity.submission allocation.ticket body])
      (emits : Emits (s.withAllocations (before ++ after)) s' events) : Move s s'
  | started {allocation : AllocationRequest} {before after : List AllocationRequest}
      {s' : HttpWorkerSupervisor}
      (queued : s.runtime.allocations = before ++ allocation :: after)
      (free : s.active[allocation.identity.taskId]? = none)
      (emits : Emits (s.withAllocations (before ++ after)) s' [allocation.activate.1]) :
      Move s (s'.spawn allocation.activate.2)
  | drained {request : CancellationRequest} {before after : List CancellationRequest}
      {events : List RuntimeEventSubmission} {s' : HttpWorkerSupervisor}
      (queued : s.runtime.cancellations = before ++ request :: after)
      (idle : ∀ worker, s.active[request.identity.taskId]? = some worker →
        worker.identity ≠ request.identity ∨ worker.cancellationRequest.isSome)
      (made : events <+: [request.drained])
      (emits : Emits (s.withCancellations (before ++ after)) s' events) : Move s s'
  | held {request : CancellationRequest} {before after : List CancellationRequest}
      {worker : ActiveWorker}
      (queued : s.runtime.cancellations = before ++ request :: after)
      (working : s.active[request.identity.taskId]? = some worker)
      (same : worker.identity = request.identity) (free : worker.cancellationRequest = none) :
      Move s ((s.withCancellations (before ++ after)).hold worker request)
  | joined {joinId : ℕ} {completion : Option WorkerCompletion}
      {rest : List (ℕ × Option WorkerCompletion)} {task : TaskId} {worker : ActiveWorker}
      {events : List RuntimeEventSubmission} {s' : HttpWorkerSupervisor}
      (ended : s.joins.ended = (joinId, completion) :: rest) (known : s.byJoin[joinId]? = some task)
      (working : s.active[task]? = some worker) (made : events <+: farewell worker completion)
      (emits : Emits (s.released joinId task rest) s' events) : Move s s'
  | unknown {joinId : ℕ} {completion : Option WorkerCompletion}
      {rest : List (ℕ × Option WorkerCompletion)}
      (ended : s.joins.ended = (joinId, completion) :: rest) (unknown : s.byJoin[joinId]? = none) :
      Move s { s with joins := { s.joins with ended := rest } }
  | orphaned {joinId : ℕ} {completion : Option WorkerCompletion}
      {rest : List (ℕ × Option WorkerCompletion)} {task : TaskId}
      (ended : s.joins.ended = (joinId, completion) :: rest) (known : s.byJoin[joinId]? = some task)
      (idle : s.active[task]? = none) :
      Move s { s with joins := { s.joins with ended := rest }, byJoin := s.byJoin.erase joinId }
  | told : Move s s.cancelWorkers

/-- The moves that bring one state into another. -/
abbrev Moves := Relation.ReflTransGen Move

theorem Emits.moves {s' : HttpWorkerSupervisor} (emits : Emits s s' []) : Moves s s' :=
  .single (.emitted emits)

theorem refusal_eq_some (refused : s.refusal environment allocation = some submission) :
    ∃ body, (body.kind = .allocationRetryable ∨ body.kind = .allocationFailed) ∧
      submission = allocation.identity.submission allocation.ticket body := by
  unfold refusal at refused
  split at refused
  · exact ⟨_, .inl rfl, (some.inj refused).symm⟩
  split at refused
  · exact ⟨_, .inr rfl, (some.inj refused).symm⟩
  split at refused
  · exact ⟨_, .inr rfl, (some.inj refused).symm⟩
  split at refused
  · exact ⟨_, .inr rfl, (some.inj refused).symm⟩
  split at refused
  · exact ⟨_, .inr rfl, (some.inj refused).symm⟩
  · cases refused

theorem free_of_refusal_eq_none (accepted : s.refusal environment allocation = none) :
    s.active[allocation.identity.taskId]? = none := by
  unfold refusal at accepted
  split at accepted
  · cases accepted
  split at accepted
  · cases accepted
  · rename_i free
    simpa using free

theorem acceptAllocation_moves {before after : List AllocationRequest}
    (queued : s.runtime.allocations = before ++ allocation :: after) :
    wpEnds (acceptAllocation environment allocation) (Moves s)
      (s.withAllocations (before ++ after)) := by
  simp only [acceptAllocation, wp_bind, wp_get]
  split
  · rename_i submission refused
    obtain ⟨body, kind, rfl⟩ := refusal_eq_some refused
    refine (enqueueEvent_begins _ _).imp ?_
    rintro s' ⟨made, started, emits⟩
    exact .single (.refused queued kind started emits)
  · rename_i accepted
    have free : s.active[allocation.identity.taskId]? = none := free_of_refusal_eq_none accepted
    rw [wp_bind]
    refine (enqueueEvent_emits _ _).mono (fun _ s' emits => ?_) fun _ s' emits => ?_
    · exact wp_modify.mpr (.single (.started queued free emits))
    · -- the authority is lost with the event; nothing was started
      have kind : (TaskEventBody.allocationRetryable ⟨0⟩).kind = .allocationRetryable := rfl
      exact .single (.refused queued (.inl kind) nil_prefix emits)

theorem acceptCancellation_moves {request : CancellationRequest}
    {before after : List CancellationRequest}
    (queued : s.runtime.cancellations = before ++ request :: after) :
    wpEnds (acceptCancellation request) (Moves s) (s.withCancellations (before ++ after)) := by
  have drains (idle : ∀ worker, s.active[request.identity.taskId]? = some worker →
      worker.identity ≠ request.identity ∨ worker.cancellationRequest.isSome) :
      wpEnds (enqueueEvent request.drained) (Moves s)
        (s.withCancellations (before ++ after)) := by
    refine (enqueueEvent_begins _ _).imp ?_
    rintro s' ⟨made, started, emits⟩
    exact .single (.drained queued idle started emits)
  simp only [acceptCancellation, wp_bind, wp_get]
  split
  · rename_i absent
    refine drains fun worker working => ?_
    have absent : s.active[request.identity.taskId]? = none := absent
    rw [absent] at working
    cases working
  · rename_i worker working
    have working : s.active[request.identity.taskId]? = some worker := working
    split
    · rename_i other
      refine drains fun worker' working' => ?_
      rw [working] at working'
      cases working'
      exact other
    · rename_i mine
      rw [not_or, not_not, Bool.not_eq_true, isSome_eq_false_iff, isNone_iff_eq_none] at mine
      exact wp_set.mpr (.single (.held queued working mine.1 mine.2))

theorem forM_enqueueEvent_begins (s : HttpWorkerSupervisor)
    (events : List RuntimeEventSubmission) :
    wpEnds (forM events enqueueEvent) (fun s' => ∃ made, made <+: events ∧ Emits s s' made) s := by
  induction events generalizing s with
  | nil => exact wp_pure.mpr ⟨[], nil_prefix, .refl s⟩
  | cons event _ ih =>
    rw [forM_cons, wpEnds, wp_bind]
    refine (enqueueEvent_emits s event).mono (fun _ s' first => ?_) fun _ s' lost => ?_
    · refine (ih s').imp ?_
      rintro s'' ⟨made, started, rest⟩
      exact ⟨event :: made, cons_prefix_cons.mpr ⟨rfl, started⟩, first.trans rest⟩
    · exact ⟨[], nil_prefix, lost⟩

theorem completeJoin_moves {joinId : ℕ} {completion : Option WorkerCompletion}
    {rest : List (ℕ × Option WorkerCompletion)}
    (ended : s.joins.ended = (joinId, completion) :: rest) :
    wpEnds (completeJoin joinId completion) (Moves s)
      { s with joins := { s.joins with ended := rest } } := by
  simp only [completeJoin, wp_bind, wp_get, wp_orThrow, wp_set, wp_modify]
  refine ⟨fun task known => ⟨fun worker working => ?_, fun idle => ?_⟩, fun unknown => ?_⟩
  · split
    · rename_i request held
      have farewell : farewell worker completion = [request.drained] := by rw [farewell, held]
      refine (enqueueEvent_begins _ _).imp ?_
      rintro s' ⟨made, started, emits⟩
      exact .single (.joined ended known working (farewell ▸ started) emits)
    · rename_i free
      have farewell : farewell worker completion = conclusion worker completion := by
        rw [HttpWorkerSupervisor.farewell, free]
      refine (forM_enqueueEvent_begins _ _).imp ?_
      rintro s' ⟨made, started, emits⟩
      exact .single (.joined ended known working (farewell ▸ started) emits)
  · exact .single (.orphaned ended known idle)
  · exact .single (.unknown ended unknown)

/-- What an intake takes is handled by moves. -/
def Intake.Served (intake : Intake) : Prop :=
  ∀ s accept left, intake s = some (accept, left) →
    wp accept (fun _ s' => Moves s s') (fun _ s' => Moves s s') left

theorem takeJoin_served : Intake.Served takeJoin := by
  intro s accept left taken
  unfold takeJoin at taken
  split at taken
  · cases taken
  · rename_i joinId completion rest ended
    cases taken
    exact completeJoin_moves ended

theorem takeCancellation_served : Intake.Served takeCancellation := by
  intro s accept left taken
  obtain ⟨⟨request, runtime⟩, found, same⟩ := map_eq_some_iff.mp taken
  obtain ⟨⟨_, rest⟩, extracted, same'⟩ := map_eq_some_iff.mp found
  obtain ⟨before, after, queued, rfl⟩ := RuntimeMailbox.extract_eq_some extracted
  cases same'
  cases same
  exact acceptCancellation_moves queued

variable (environment : PollEnvironment)

theorem takeAllocation_served : Intake.Served (takeAllocation environment) := by
  intro s accept left taken
  obtain ⟨⟨allocation, runtime⟩, found, same⟩ := map_eq_some_iff.mp taken
  obtain ⟨⟨_, rest⟩, extracted, same'⟩ := map_eq_some_iff.mp found
  obtain ⟨before, after, queued, rfl⟩ := RuntimeMailbox.extract_eq_some extracted
  cases same'
  cases same
  exact acceptAllocation_moves queued

instance : Std.Refl Moves := ⟨fun _ => .refl⟩

instance : IsTrans HttpWorkerSupervisor Moves := ⟨fun _ _ _ => .trans⟩

theorem flushPending_moves : Tracks Moves flushPending := fun s =>
  (flushPending_emits s).imp fun _ => Emits.moves

theorem serve_moves {intake : Intake} (served : intake.Served) (slots fuel : ℕ)
    (progressed : Bool) : Tracks Moves (serve slots intake fuel progressed) := by
  induction fuel generalizing progressed with
  | zero => exact .pure
  | succ _ ih =>
    refine .get_bind fun s => ?_
    split
    · exact wp_pure.mpr .refl
    split
    · exact wp_pure.mpr .refl
    · rename_i accept left taken
      simp only [wp_bind, wp_set]
      refine (served s accept left taken).mono (fun _ _ accepted => ?_) fun _ _ moves => moves
      refine (flushPending_moves.bind fun _ => .get_bind fun s' => ?_).after accepted
      split
      · exact ih true s'
      · exact wp_pure.mpr .refl

theorem pollOnce_moves : Tracks Moves (pollOnce environment) := by
  refine .get_bind fun s => ?_
  split
  · simp only [wp_bind, wp_set, wp_throw]
    exact .single .told
  refine flushPending_moves.bind (fun _ => .get_bind fun s' => ?_) s
  split
  · exact wp_pure.mpr .refl
  refine (serve_moves takeJoin_served _ _ _).bind (fun _ => ?_) s'
  split
  · refine (serve_moves takeCancellation_served _ _ _).bind fun _ => ?_
    split
    · refine (serve_moves (takeAllocation_served environment) _ _ _).bind fun _ => ?_
      split
      · exact .pure
      · exact .pure
    · exact .pure
  · exact .pure

end HttpWorkerSupervisor

end Ariax
