import Ariax.Supervisor.Tickets

/-!
# How requests are spent

Every move of the supervisor keeps the requests in one place: what it takes
from a queue it starts a worker with, hands to a worker or spends on the
events it makes.
-/

namespace Ariax

open List OrderedMap

namespace HttpWorkerSupervisor

/-- Every request of a supervisor is in one place. -/
def Ticketed (s : HttpWorkerSupervisor) : Prop :=
  Tickets s.runtime.allocations s.runtime.cancellations s.active s.produced s.runtime.nextTicket

variable {events : List RuntimeEventSubmission} {worker : ActiveWorker}

/-- The events of a worker that ends: reports of what it did, and its outcome last. -/
def Concludes (worker : ActiveWorker) (events : List RuntimeEventSubmission) : Prop :=
  (∃ reports outcome, events = reports ++ [outcome] ∧ outcome.isOutcome = true ∧
    ∀ event ∈ reports, event.isOutcome = false) ∧
  ∀ event ∈ events, event.isResult = true ∧ event.identity = worker.authority.identity ∧
    event.ticket = worker.authority.ticket

theorem concludes_singleton {body : TaskEventBody} (final : body.kind.isOutcome = true) :
    Concludes worker
      [worker.authority.identity.submission worker.authority.ticket body] := by
  refine ⟨⟨[], _, rfl, final, by simp⟩, ?_⟩
  simp only [mem_singleton, forall_eq]
  exact ⟨TaskEventKind.isResult_of_isOutcome final, rfl, rfl⟩

theorem concludes_conclusion (worker : ActiveWorker) (completion : Option WorkerCompletion) :
    Concludes worker (conclusion worker completion) := by
  simp only [conclusion]
  generalize Option.getD _ _ = result
  cases result with
  | error =>
    change Concludes worker (if _ then _ else _)
    split
    · exact concludes_singleton rfl
    · exact concludes_singleton rfl
  | ok success =>
    obtain ⟨seed, retryAt, challenge⟩ := success
    cases challenge with
    | some => exact concludes_singleton rfl
    | none =>
      cases retryAt with
      | some => exact concludes_singleton rfl
      | none =>
        refine ⟨⟨[(worker.authority.dataComplete seed).1], _, rfl, rfl, ?_⟩, ?_⟩
        · simp only [mem_singleton, forall_eq]
          cases seed <;> rfl
        · change ∀ event ∈ [_, _], _
          simp only [mem_cons, not_mem_nil, or_false, forall_eq_or_imp, forall_eq]
          cases seed <;> exact ⟨⟨rfl, rfl, rfl⟩, rfl, rfl, rfl⟩

variable {made : List RuntimeEventSubmission} {α : Type} {before after l : List α}

theorem outcomeTickets_sublist (part : made <+: events) :
    (outcomeTickets made).Sublist (outcomeTickets events) :=
  (part.sublist.filter _).map _

theorem drainTickets_sublist (part : made <+: events) :
    (drainTickets made).Sublist (drainTickets events) :=
  (part.sublist.filter _).map _

theorem outcomeTickets_eq_nil (none : ∀ event ∈ events, event.isOutcome = false) :
    outcomeTickets events = [] := by
  rw [outcomeTickets, filter_eq_nil_iff.mpr fun event member => by simp [none event member],
    map_nil]

theorem drainTickets_eq_nil (none : ∀ event ∈ events, event.isDrained = false) :
    drainTickets events = [] := by
  rw [drainTickets, filter_eq_nil_iff.mpr fun event member => by simp [none event member], map_nil]

theorem Concludes.outcomeTickets (concludes : Concludes worker events) :
    outcomeTickets events = [worker.authority.ticket] := by
  obtain ⟨⟨reports, outcome, rfl, final, others⟩, own⟩ := concludes
  have last : [outcome].filter (·.isOutcome) = [outcome] := by simp [final]
  rw [outcomeTickets_append, outcomeTickets_eq_nil others, HttpWorkerSupervisor.outcomeTickets,
    last]
  exact congrArg (fun ticket => [ticket]) (own outcome (by simp)).2.2

theorem Concludes.drainTickets (concludes : Concludes worker events) : drainTickets events = [] :=
  drainTickets_eq_nil fun event member =>
    RuntimeEventSubmission.isDrained_eq_false_of_isResult (concludes.2 event member).1

section

variable {a : α} (split : l = before ++ a :: after)
include split

theorem notMem_of_split {number : α → ℕ} {spent : List ℕ}
    (nodup : (l.map number ++ spent).Nodup) : number a ∉ (before ++ after).map number ++ spent := by
  have moved : (l.map number ++ spent).Perm
      (number a :: ((before ++ after).map number ++ spent)) := by
    rw [split, map_append, map_cons, map_append, append_assoc, append_assoc, cons_append]
    exact perm_middle
  exact (nodup_cons.mp (moved.nodup_iff.mp nodup)).1

theorem sublist_of_split : (before ++ after).Sublist l := by
  rw [split]
  exact (List.Sublist.refl before).append (sublist_cons_self a after)

theorem mem_of_split : a ∈ l := by
  rw [split]
  simp

end

@[simp] theorem produced_spawn (s : HttpWorkerSupervisor) (authority : ActiveTransferRequest) :
    (s.spawn authority).produced = s.produced := by
  simp [produced, spawn, submissions, submittedOf]

@[simp] theorem produced_hold (s : HttpWorkerSupervisor) (worker : ActiveWorker)
    (request : CancellationRequest) : (s.hold worker request).produced = s.produced := by
  simp [produced, hold, submissions, submittedOf]

variable {s s' : HttpWorkerSupervisor}

/-- What an event is about. -/
inductive Ends (s s' : HttpWorkerSupervisor) : RuntimeEventSubmission → Prop
  | refused {allocation : AllocationRequest} {body : TaskEventBody}
      (queued : allocation ∈ s.runtime.allocations)
      (kind : body.kind = .allocationRetryable ∨ body.kind = .allocationFailed) :
      Ends s s' (allocation.identity.submission allocation.ticket body)
  | succeeded {allocation : AllocationRequest} (queued : allocation ∈ s.runtime.allocations) :
      Ends s s' allocation.activate.1
  | drained {request : CancellationRequest} {before after : List CancellationRequest}
      (queued : s.runtime.cancellations = before ++ request :: after)
      (left : s'.runtime.cancellations = before ++ after)
      (idle : ∀ worker, s.active[request.identity.taskId]? = some worker →
        worker.identity ≠ request.identity ∨ worker.cancellationRequest.isSome) :
      Ends s s' request.drained
  | released {task : TaskId} {worker : ActiveWorker} {request : CancellationRequest}
      (working : s.active[task]? = some worker) (gone : s'.active[task]? = none)
      (held : worker.cancellationRequest = some request) : Ends s s' request.drained
  | concluded {task : TaskId} {worker : ActiveWorker} {event : RuntimeEventSubmission}
      (working : s.active[task]? = some worker) (gone : s'.active[task]? = none)
      (free : worker.cancellationRequest = none) (result : event.isResult = true)
      (own : event.ticket = worker.authority.ticket) : Ends s s' event

variable {event : RuntimeEventSubmission}

theorem Ends.of_isResult (ends : Ends s s' event) (result : event.isResult = true) :
    ∃ (task : TaskId) (worker : ActiveWorker), s.active[task]? = some worker ∧
      s'.active[task]? = none ∧ event.ticket = worker.authority.ticket ∧
      worker.cancellationRequest = none := by
  cases ends with
  | refused _ kind =>
    rcases kind with kind | kind <;>
      simp [RuntimeEventSubmission.isResult, RuntimeEventSubmission.kind, kind,
        TaskEventKind.isResult] at result
  | succeeded | drained | released => cases result
  | concluded working gone free _ own => exact ⟨_, _, working, gone, own, free⟩

/-- A drain spends a request that was waiting or that was held by a worker which is gone. -/
theorem Ends.of_isDrained (ends : Ends s s' event) (drained : event.isDrained = true) :
    ∃ request : CancellationRequest, event = request.drained ∧
      ((∃ before after, s.runtime.cancellations = before ++ request :: after ∧
          s'.runtime.cancellations = before ++ after ∧
          ∀ worker, s.active[request.identity.taskId]? = some worker →
            worker.identity ≠ request.identity ∨ worker.cancellationRequest.isSome) ∨
        ∃ (task : TaskId) (worker : ActiveWorker), s.active[task]? = some worker ∧
          s'.active[task]? = none ∧ worker.cancellationRequest = some request) := by
  cases ends with
  | refused _ kind =>
    rcases kind with kind | kind <;>
      simp [RuntimeEventSubmission.isDrained, RuntimeEventSubmission.kind, kind] at drained
  | succeeded => cases drained
  | drained queued left idle => exact ⟨_, rfl, .inl ⟨_, _, queued, left, idle⟩⟩
  | released working gone held => exact ⟨_, rfl, .inr ⟨_, _, working, gone, held⟩⟩
  | concluded _ _ _ result =>
    rw [RuntimeEventSubmission.isDrained_eq_false_of_isResult result] at drained
    cases drained

/-- No worker is started and none is told to stop. -/
structure Quiet (s s' : HttpWorkerSupervisor) (events : List RuntimeEventSubmission) : Prop where
  allocations : s'.runtime.allocations.Sublist s.runtime.allocations
  cancellations : s'.runtime.cancellations.Sublist s.runtime.cancellations
  nextTicket : s'.runtime.nextTicket = s.runtime.nextTicket
  workers : ∀ (task : TaskId) (worker : ActiveWorker), s'.active[task]? = some worker →
    ∃ cancelled, s.active[task]? = some { worker with cancelled := cancelled }
  produced : s'.produced = s.produced ++ events
  log : ∃ more, s'.log = s.log ++ more ∧ ∀ record ∈ more, isTraffic record = true
  once : (drainTickets events).Nodup ∧ (outcomeTickets events).Nodup
  ends : ∀ event ∈ events, Ends s s' event

theorem Emits.quiet {t : HttpWorkerSupervisor} (emits : Emits t s' events)
    (fewer : t.runtime.allocations.Sublist s.runtime.allocations)
    (less : t.runtime.cancellations.Sublist s.runtime.cancellations)
    (workers : ∀ (task : TaskId) (worker : ActiveWorker), t.active[task]? = some worker →
      ∃ cancelled, s.active[task]? = some { worker with cancelled := cancelled })
    (same : t.runtime.nextTicket = s.runtime.nextTicket ∧ t.produced = s.produced ∧ t.log = s.log)
    (once : (drainTickets events).Nodup ∧ (outcomeTickets events).Nodup)
    (ends : ∀ event ∈ events, Ends s s' event) : Quiet s s' events := by
  obtain ⟨next, made, logged⟩ := same
  exact ⟨emits.allocations ▸ fewer, emits.cancellations ▸ less, emits.nextTicket.trans next,
    emits.active ▸ workers, made ▸ emits.produced, logged ▸ emits.log, once, ends⟩

theorem nodup_tickets (made : events <+: [event]) :
    (drainTickets events).Nodup ∧ (outcomeTickets events).Nodup := by
  have tickets : (events.map (·.ticket)).Nodup := (made.sublist.map _).nodup (by simp)
  exact ⟨(filter_sublist.map _).nodup tickets, (filter_sublist.map _).nodup tickets⟩

/-- A move as the invariants of the requests see it. -/
inductive Turn (s : HttpWorkerSupervisor) : HttpWorkerSupervisor → Prop
  | quiet {events : List RuntimeEventSubmission} {s' : HttpWorkerSupervisor}
      (quiet : Quiet s s' events) : Turn s s'
  | started {allocation : AllocationRequest} {before after : List AllocationRequest}
      {s' : HttpWorkerSupervisor} (quiet : Quiet s s' [allocation.activate.1])
      (queued : s.runtime.allocations = before ++ allocation :: after)
      (left : s'.runtime.allocations = before ++ after) : Turn s (s'.spawn allocation.activate.2)
  | held {request : CancellationRequest} {before after : List CancellationRequest}
      {worker : ActiveWorker} {s' : HttpWorkerSupervisor} (quiet : Quiet s s' [])
      (queued : s.runtime.cancellations = before ++ request :: after)
      (left : s'.runtime.cancellations = before ++ after)
      (working : s'.active[request.identity.taskId]? = some worker)
      (own : worker.identity = request.identity) (free : worker.cancellationRequest = none) :
      Turn s (s'.hold worker request)

theorem Quiet.joined {joinId : ℕ} {completion : Option WorkerCompletion}
    {rest : List (ℕ × Option WorkerCompletion)} {task : TaskId} {worker : ActiveWorker}
    (working : s.active[task]? = some worker) (made : events <+: farewell worker completion)
    (emits : Emits (s.released joinId task rest) s' events) : Quiet s s' events := by
  have gone : s'.active[task]? = none := by
    rw [emits.active]
    exact (getElem?_erase _ _ _).trans (if_pos rfl)
  refine emits.quiet (.refl _) (.refl _) (fun task' other there =>
    ⟨other.cancelled, (getElem?_erase_eq_some.mp there).2⟩) ⟨rfl, rfl, rfl⟩ ?_ ?_ <;>
    unfold farewell at made <;> split at made
  · exact nodup_tickets made
  · have concludes := concludes_conclusion worker completion
    have drains := drainTickets_sublist made
    have outcomes := outcomeTickets_sublist made
    rw [concludes.drainTickets] at drains
    rw [concludes.outcomeTickets] at outcomes
    exact ⟨drains.nodup nodup_nil, outcomes.nodup (by simp)⟩
  · rename_i request held
    intro event member
    rw [mem_singleton.mp (made.subset member)]
    exact .released working gone held
  · rename_i free
    intro event member
    obtain ⟨result, -, own⟩ := (concludes_conclusion worker completion).2 event (made.subset member)
    exact .concluded working gone free result own

theorem Move.turn (move : Move s s') : Turn s s' := by
  have here (task : TaskId) (worker : ActiveWorker) (working : s.active[task]? = some worker) :
      ∃ cancelled, s.active[task]? = some { worker with cancelled := cancelled } :=
    ⟨worker.cancelled, working⟩
  cases move with
  | emitted emits =>
    exact .quiet (emits.quiet (.refl _) (.refl _) here ⟨rfl, rfl, rfl⟩ ⟨.nil, .nil⟩ (by simp))
  | refused queued kind made emits =>
    refine .quiet (emits.quiet (sublist_of_split queued) (.refl _) here ⟨rfl, rfl, rfl⟩
      (nodup_tickets made) fun event member => ?_)
    rw [mem_singleton.mp (made.subset member)]
    exact .refused (mem_of_split queued) kind
  | started queued _ emits =>
    refine .started (emits.quiet (sublist_of_split queued) (.refl _) here ⟨rfl, rfl, rfl⟩
      (nodup_tickets (prefix_refl _)) fun event member => ?_) queued emits.allocations
    rw [mem_singleton.mp member]
    exact .succeeded (mem_of_split queued)
  | drained queued idle made emits =>
    refine .quiet (emits.quiet (.refl _) (sublist_of_split queued) here ⟨rfl, rfl, rfl⟩
      (nodup_tickets made) fun event member => ?_)
    rw [mem_singleton.mp (made.subset member)]
    exact .drained queued emits.cancellations idle
  | @held request before after worker queued working own free =>
    have taken : Quiet s (s.withCancellations (before ++ after)) [] :=
      (Emits.refl _).quiet (.refl _) (sublist_of_split queued) here ⟨rfl, rfl, rfl⟩ ⟨.nil, .nil⟩
        (by simp)
    exact .held taken queued rfl working own free
  | joined _ _ working made emits => exact .quiet (.joined working made emits)
  | unknown | orphaned =>
    exact .quiet ((Emits.refl _).quiet (.refl _) (.refl _) here ⟨rfl, rfl, rfl⟩ ⟨.nil, .nil⟩
      (by simp))
  | told =>
    refine .quiet ((Emits.refl _).quiet (.refl _) (.refl _) (fun task worker working => ?_)
      ⟨rfl, rfl, rfl⟩ ⟨.nil, .nil⟩ (by simp))
    rw [cancelWorkers, Std.ExtTreeMap.getElem?_map] at working
    obtain ⟨worker, there, rfl⟩ := Option.map_eq_some_iff.mp working
    exact ⟨worker.cancelled, there⟩

theorem Quiet.started (quiet : Quiet s s' events) (task : TaskId) (ticket : ℕ) :
    Started s'.active task ticket → Started s.active task ticket := by
  rintro ⟨worker, working, rfl⟩
  obtain ⟨cancelled, there⟩ := quiet.workers task worker working
  exact ⟨_, there, rfl⟩

theorem Quiet.stopping (quiet : Quiet s s' events) (task : TaskId) (ticket : ℕ) :
    Stopping s'.active task ticket → Stopping s.active task ticket := by
  rintro ⟨worker, request, working, held, rfl⟩
  obtain ⟨cancelled, there⟩ := quiet.workers task worker working
  exact ⟨_, request, there, held, rfl⟩

theorem Quiet.ticketed (quiet : Quiet s s' events) (tickets : s.Ticketed) : s'.Ticketed := by
  rw [Ticketed, quiet.produced, quiet.nextTicket]
  refine ⟨?_, ?_, fun task worker working => ?_, fun event member => ?_⟩
  · rw [outcomeTickets_append]
    refine tickets.starts.spend (quiet.allocations.map _) quiet.started quiet.once.2
      (forall_mem_map.mpr fun event listed => ?_)
    obtain ⟨made, outcome⟩ := mem_filter.mp listed
    obtain ⟨task, worker, working, gone, own, -⟩ :=
      (quiet.ends event made).of_isResult (TaskEventKind.isResult_of_isOutcome outcome)
    refine .inr ⟨task, ⟨worker, working, own.symm⟩, ?_⟩
    rintro ⟨_, there, -⟩
    cases gone.symm.trans there
  · rw [drainTickets_append]
    refine tickets.stops.spend (quiet.cancellations.map _) quiet.stopping quiet.once.1
      (forall_mem_map.mpr fun event listed => ?_)
    obtain ⟨made, drained⟩ := mem_filter.mp listed
    obtain ⟨request, rfl, ⟨before, after, queued, rest, -⟩ | ⟨task, worker, working, gone, held⟩⟩ :=
      (quiet.ends event made).of_isDrained drained
    · refine .inl ⟨mem_map_of_mem (mem_of_split queued), fun left => ?_⟩
      exact notMem_of_split queued tickets.stops.once (mem_append_left _ (rest ▸ left))
    · refine .inr ⟨task, ⟨worker, request, working, held, rfl⟩, ?_⟩
      rintro ⟨_, _, there, -⟩
      cases gone.symm.trans there
  · obtain ⟨cancelled, there⟩ := quiet.workers task worker working
    have own := tickets.own task _ there
    exact own
  · rcases mem_append.mp member with earlier | new
    · exact tickets.events_lt event earlier
    · cases quiet.ends event new with
      | refused queued | succeeded queued =>
        exact tickets.starts.queued_lt _ (mem_map_of_mem queued)
      | drained queued =>
        exact tickets.stops.queued_lt _ (mem_map_of_mem (mem_of_split queued))
      | released working _ held =>
        exact tickets.stops.held_lt _ _ ⟨_, _, working, held, rfl⟩
      | concluded working _ _ _ own => exact tickets.starts.held_lt _ _ ⟨_, working, own.symm⟩

theorem Turn.ticketed (turn : Turn s s') (tickets : s.Ticketed) : s'.Ticketed := by
  cases turn with
  | quiet quiet => exact quiet.ticketed tickets
  | @started allocation before after s' quiet queued left =>
    have tickets' := quiet.ticketed tickets
    have starts := tickets.starts
    rw [queued, map_append, map_cons] at starts
    rw [Ticketed, produced_spawn]
    refine ⟨?_, tickets'.stops.mono (.refl _) ?_, ?_, tickets'.events_lt⟩
    · have spent : outcomeTickets s'.produced = outcomeTickets s.produced := by
        rw [quiet.produced, outcomeTickets_append]
        exact append_nil _
      change Ledger (s'.runtime.allocations.map _) _ _ s'.runtime.nextTicket
      rw [left, map_append, quiet.nextTicket, spent]
      refine starts.take allocation.identity.taskId ?_
      rintro task _ ⟨worker, working, rfl⟩
      rcases getElem?_insert_eq_some.mp working with ⟨rfl, rfl⟩ | ⟨-, there⟩
      · exact .inr ⟨rfl, rfl⟩
      · exact .inl (quiet.started task _ ⟨worker, there, rfl⟩)
    · rintro task _ ⟨worker, request, working, held, rfl⟩
      rcases getElem?_insert_eq_some.mp working with ⟨-, rfl⟩ | ⟨-, there⟩
      · cases held
      · exact ⟨worker, request, there, held, rfl⟩
    · intro task worker working
      exact insert_rec working ⟨rfl, rfl, by rintro _ ⟨⟩⟩ (tickets'.own task worker)
  | @held request before after worker s' quiet queued left working own =>
    have tickets' := quiet.ticketed tickets
    have stops := tickets.stops
    rw [queued, map_append, map_cons] at stops
    rw [Ticketed, produced_hold]
    refine ⟨tickets'.starts.mono (.refl _) ?_, ?_, ?_, tickets'.events_lt⟩
    · rintro task _ ⟨current, there, rfl⟩
      rcases getElem?_insert_eq_some.mp there with ⟨rfl, rfl⟩ | ⟨-, there⟩
      · exact ⟨worker, working, rfl⟩
      · exact ⟨current, there, rfl⟩
    · change Ledger (s'.runtime.cancellations.map _) _ _ s'.runtime.nextTicket
      rw [left, map_append, quiet.nextTicket, quiet.produced, append_nil]
      refine stops.take request.identity.taskId ?_
      rintro task _ ⟨current, request', there, held, rfl⟩
      rcases getElem?_insert_eq_some.mp there with ⟨rfl, rfl⟩ | ⟨-, there⟩
      · cases held
        exact .inr ⟨rfl, rfl⟩
      · exact .inl (quiet.stopping task _ ⟨current, request', there, held, rfl⟩)
    · intro task current there
      refine insert_rec there ?_ (tickets'.own task current)
      obtain ⟨key, authority, -⟩ := tickets'.own _ worker working
      exact ⟨key, authority, by rintro _ ⟨⟩; exact own.symm⟩

end HttpWorkerSupervisor

end Ariax
