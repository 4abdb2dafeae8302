import Ariax.Supervisor.Spending

/-!
# What is reported of a worker

The allocation of a worker succeeds before anything is reported of it, and a
worker that was told to stop reports nothing but that it did. Every request
that is somewhere was accepted before.
-/

namespace Ariax

open List OrderedMap

namespace HttpWorkerSupervisor

variable {s s' : HttpWorkerSupervisor} {events : List RuntimeEventSubmission}

theorem Quiet.mem_log (quiet : Quiet s s' events) {record : SupervisorRecord}
    (other : isTraffic record = false) : record ∈ s'.log ↔ record ∈ s.log := by
  obtain ⟨more, logged, traffic⟩ := quiet.log
  rw [logged, mem_append, or_iff_left_iff_imp]
  intro member
  rw [traffic record member] at other
  cases other

/-! ## Requests are accepted first -/

/-- Every request that is in a queue, with a worker or spent was accepted. -/
structure Recorded (s : HttpWorkerSupervisor) : Prop where
  allocations : ∀ request ∈ s.runtime.allocations, .allocationAccepted request ∈ s.log
  workers : ∀ (task : TaskId) (worker : ActiveWorker), s.active[task]? = some worker →
    .allocationAccepted ⟨worker.identity, worker.authority.ticket⟩ ∈ s.log ∧
    ∀ request, worker.cancellationRequest = some request → .cancellationAccepted request ∈ s.log
  cancellations : ∀ request ∈ s.runtime.cancellations, .cancellationAccepted request ∈ s.log
  drains : ∀ event ∈ s.produced, event.isDrained = true →
    ∃ request, .cancellationAccepted request ∈ s.log ∧ event = request.drained

section

variable (records : s.Recorded)
include records

theorem Recorded.grow (grows : s.log ⊆ s'.log)
    (allocations : ∀ request ∈ s'.runtime.allocations,
      request ∈ s.runtime.allocations ∨ .allocationAccepted request ∈ s'.log)
    (cancellations : ∀ request ∈ s'.runtime.cancellations,
      request ∈ s.runtime.cancellations ∨ .cancellationAccepted request ∈ s'.log)
    (workers : ∀ (task : TaskId) (worker : ActiveWorker), s'.active[task]? = some worker →
      .allocationAccepted ⟨worker.identity, worker.authority.ticket⟩ ∈ s.log ∧
      ∀ request, worker.cancellationRequest = some request → .cancellationAccepted request ∈ s.log)
    (drains : ∀ event ∈ s'.produced, event.isDrained = true → event ∈ s.produced ∨
      ∃ request, .cancellationAccepted request ∈ s.log ∧ event = request.drained) :
    s'.Recorded := by
  constructor
  · exact fun request member =>
      (allocations request member).elim (fun waits => grows (records.allocations request waits)) id
  · exact fun task worker working => (workers task worker working).imp (grows ·)
      fun held request asked => grows (held request asked)
  · exact fun request member => (cancellations request member).elim
      (fun waits => grows (records.cancellations request waits)) id
  · intro event member drained
    obtain ⟨request, accepted, spent⟩ :=
      (drains event member drained).elim (records.drains event · drained) id
    exact ⟨request, grows accepted, spent⟩

theorem Quiet.recorded (quiet : Quiet s s' events) : s'.Recorded := by
  have grows : s.log ⊆ s'.log := by
    obtain ⟨more, logged, -⟩ := quiet.log
    rw [logged]
    exact subset_append_left _ _
  refine records.grow grows (fun request member => .inl (quiet.allocations.subset member))
    (fun request member => .inl (quiet.cancellations.subset member)) (fun task worker working => ?_)
    fun event member drained => ?_
  · obtain ⟨cancelled, there⟩ := quiet.workers task worker working
    have earlier := records.workers task _ there
    exact earlier
  · rw [quiet.produced] at member
    refine (mem_append.mp member).imp_right fun new => ?_
    obtain ⟨request, rfl, ⟨before, after, queued, -⟩ | ⟨task, worker, working, -, held⟩⟩ :=
      (quiet.ends event new).of_isDrained drained
    · exact ⟨request, records.cancellations request (mem_of_split queued), rfl⟩
    · exact ⟨request, (records.workers task worker working).2 request held, rfl⟩

theorem Turn.recorded (turn : Turn s s') : s'.Recorded := by
  cases turn with
  | quiet quiet => exact quiet.recorded records
  | @started allocation before after s' quiet queued left =>
    have recorded' := quiet.recorded records
    refine recorded'.grow (subset_append_left _ _) (fun _ => .inl) (fun _ => .inl)
      (fun task worker working => ?_) fun event member _ => .inl (by rwa [produced_spawn] at member)
    refine insert_rec working ⟨?_, by rintro request ⟨⟩⟩ (recorded'.workers task worker)
    exact (quiet.mem_log rfl).mpr (records.allocations allocation (mem_of_split queued))
  | @held request before after worker s' quiet queued left working =>
    have recorded' := quiet.recorded records
    refine recorded'.grow (subset_append_left _ _) (fun _ => .inl) (fun _ => .inl)
      (fun task current there => ?_) fun event member _ => .inl (by rwa [produced_hold] at member)
    refine insert_rec there ⟨(recorded'.workers _ _ working).1, ?_⟩ (recorded'.workers task current)
    rintro _ ⟨⟩
    exact (quiet.mem_log rfl).mpr (records.cancellations request (mem_of_split queued))

end

/-! ## Reports -/

section

variable (ticket : ℕ) (event : RuntimeEventSubmission)

/-- A result of the worker that a request started. -/
def IsResultOf : Prop :=
  event.ticket = ticket ∧ event.isResult = true

def IsSuccessOf : Prop :=
  event.ticket = ticket ∧ event.isSucceeded = true

def IsDrainOf : Prop :=
  event.ticket = ticket ∧ event.isDrained = true

end

/-- What holds of a worker that was told to stop, then and later. -/
structure Retired (s : HttpWorkerSupervisor) (worker : ActiveTransferRequest)
    (request : CancellationRequest) : Prop where
  succeeded : ∃ event ∈ s.produced, IsSuccessOf worker.ticket event
  silent : ∀ event ∈ s.produced, ¬IsResultOf worker.ticket event
  taken : ∀ allocation ∈ s.runtime.allocations, allocation.ticket ≠ worker.ticket
  holds : ∀ (task : TaskId) (current : ActiveWorker), s.active[task]? = some current →
    current.authority.ticket = worker.ticket → current.cancellationRequest = some request
  heralded : Heralded (IsDrainOf request.ticket) (IsSuccessOf worker.ticket) s.produced

structure Reported (s : HttpWorkerSupervisor) : Prop where
  waiting : ∀ request ∈ s.runtime.allocations, ∀ event ∈ s.produced,
    ¬IsResultOf request.ticket event
  working : ∀ (task : TaskId) (worker : ActiveWorker), s.active[task]? = some worker →
    (∀ event ∈ s.produced, ¬IsResultOf worker.authority.ticket event) ∧
      ∃ event ∈ s.produced, IsSuccessOf worker.authority.ticket event
  heralded : ∀ ticket, Heralded (IsResultOf ticket) (IsSuccessOf ticket) s.produced
  retired : ∀ worker request, .held worker request ∈ s.log → s.Retired worker request

variable {request : CancellationRequest}

theorem Retired.mono {worker : ActiveTransferRequest}
    (retired : s.Retired worker request) (produced : s'.produced = s.produced)
    (taken : ∀ allocation ∈ s'.runtime.allocations, allocation.ticket ≠ worker.ticket)
    (holds : ∀ (task : TaskId) (current : ActiveWorker), s'.active[task]? = some current →
      current.authority.ticket = worker.ticket → current.cancellationRequest = some request) :
    s'.Retired worker request :=
  ⟨produced ▸ retired.succeeded, produced ▸ retired.silent, taken, holds,
    produced ▸ retired.heralded⟩

variable (tickets : s.Ticketed) (account : s.Reported)
include tickets account

/-- The results among the new events are those of workers that are gone and held no request. -/
theorem Quiet.reported (quiet : Quiet s s' events) : s'.Reported := by
  have allocations := quiet.allocations.subset
  have earlier {event : RuntimeEventSubmission} (made : event ∈ s.produced) :
      event ∈ s'.produced := by
    rw [quiet.produced]
    exact mem_append_left _ made
  -- a result is an earlier one or that of a worker which is gone
  have results {ticket : ℕ} {event : RuntimeEventSubmission} (made : event ∈ s'.produced)
      (result : IsResultOf ticket event) : event ∈ s.produced ∨
      ∃ (task : TaskId) (worker : ActiveWorker), s.active[task]? = some worker ∧
        s'.active[task]? = none ∧ worker.authority.ticket = ticket ∧
        worker.cancellationRequest = none := by
    rw [quiet.produced] at made
    refine (mem_append.mp made).imp_right fun new => ?_
    obtain ⟨task, worker, working, gone, own, free⟩ := (quiet.ends event new).of_isResult result.2
    exact ⟨task, worker, working, gone, own.symm.trans result.1, free⟩
  constructor
  · intro request member event made result
    rcases results made result with made | ⟨task, worker, working, -, own, -⟩
    · exact account.waiting request (allocations member) event made result
    · refine tickets.starts.elsewhere task _ ⟨worker, working, rfl⟩ (mem_append_left _ ?_)
      exact mem_map.mpr ⟨request, allocations member, own.symm⟩
  · intro task worker working
    obtain ⟨cancelled, there⟩ := quiet.workers task worker working
    obtain ⟨silent, success, announced, succeeded⟩ := account.working task _ there
    refine ⟨fun event made result => ?_, success, earlier announced, succeeded⟩
    rcases results made result with made | ⟨task', worker', working', gone, own, -⟩
    · exact silent event made result
    · rw [tickets.starts.alone _ _ _ ⟨_, there, rfl⟩ ⟨_, working', own⟩, gone] at working
      cases working
  · intro ticket
    rw [quiet.produced]
    refine (account.heralded ticket).append ?_
    by_cases reports : ∃ event ∈ events, IsResultOf ticket event
    · obtain ⟨event, new, rfl, result⟩ := reports
      obtain ⟨task, worker, working, -, own, -⟩ := (quiet.ends event new).of_isResult result
      rw [own]
      exact .inl (account.working task worker working).2
    · exact .inr fun event new result => reports ⟨event, new, result⟩
  · intro worker request held
    have retired := account.retired worker request ((quiet.mem_log rfl).mp held)
    obtain ⟨success, announced, succeeded⟩ := retired.succeeded
    refine ⟨⟨success, earlier announced, succeeded⟩, fun event made result => ?_,
      fun allocation member => retired.taken allocation (allocations member),
      fun task current working same => ?_, ?_⟩
    · rcases results made result with made | ⟨task, current, working, -, own, free⟩
      · exact retired.silent event made result
      · rw [retired.holds task current working own] at free
        cases free
    · obtain ⟨cancelled, there⟩ := quiet.workers task current working
      have holds := retired.holds task _ there same
      exact holds
    · rw [quiet.produced]
      exact retired.heralded.append (.inl retired.succeeded)

theorem Reported.started {allocation : AllocationRequest}
    (quiet : Quiet s s' [allocation.activate.1]) (queued : allocation ∈ s.runtime.allocations) :
    (s'.spawn allocation.activate.2).Reported := by
  have reported' := quiet.reported tickets account
  have silent : ∀ event ∈ s'.produced, ¬IsResultOf allocation.ticket event := by
    intro event made result
    rw [quiet.produced] at made
    rcases mem_snoc.mp made with earlier | rfl
    · exact account.waiting allocation queued event earlier result
    · cases result.2
  have success : allocation.activate.1 ∈ s'.produced := by
    rw [quiet.produced]
    exact mem_concat_self
  constructor
  · rw [produced_spawn]
    exact reported'.waiting
  · intro task worker working
    rw [produced_spawn]
    exact insert_rec working ⟨silent, _, success, rfl, rfl⟩ (reported'.working task worker)
  · rw [produced_spawn]
    exact reported'.heralded
  · intro worker request held
    have held : .held worker request ∈ s'.log := (mem_snoc.mp held).resolve_right (by simp)
    have retired := reported'.retired worker request held
    refine retired.mono (produced_spawn _ _) retired.taken fun task current working => ?_
    refine insert_rec working (fun same => ?_) (retired.holds task current)
    have earlier := account.retired worker request ((quiet.mem_log rfl).mp held)
    exact absurd same (earlier.taken allocation queued)

theorem Reported.held {worker : ActiveWorker}
    (undrained : request.ticket ∉ drainTickets s.produced)
    (working : s.active[request.identity.taskId]? = some worker)
    (free : worker.cancellationRequest = none) : (s.hold worker request).Reported := by
  have elsewhere := tickets.starts.elsewhere _ _ ⟨worker, working, rfl⟩
  obtain ⟨silent, succeeded⟩ := account.working _ _ working
  constructor
  · rw [produced_hold]
    exact account.waiting
  · intro task current there
    rw [produced_hold]
    exact insert_rec there ⟨silent, succeeded⟩ (account.working task current)
  · rw [produced_hold]
    exact account.heralded
  · intro worker' request' held
    rcases mem_snoc.mp held with earlier | new
    · have retired := account.retired worker' request' earlier
      refine retired.mono (produced_hold _ _ _) retired.taken fun task current there => ?_
      refine insert_rec there (fun same => ?_) (retired.holds task current)
      -- a worker that was told before holds its request already
      rw [retired.holds _ worker working same] at free
      cases free
    · cases new
      have produced := produced_hold s worker request
      refine ⟨produced ▸ succeeded, produced ▸ silent, fun allocation member same => ?_,
        fun task current there same => ?_, ?_⟩
      · refine elsewhere (mem_append_left _ ?_)
        rw [← same]
        exact mem_map_of_mem member
      · rcases getElem?_insert_eq_some.mp there with ⟨-, rfl⟩ | ⟨different, there⟩
        · rfl
        · have one := tickets.starts.alone _ _ _ ⟨_, there, same⟩ ⟨_, working, rfl⟩
          exact absurd one different
      · rw [produced]
        intro earlier event later split drain
        refine absurd (mem_map.mpr ⟨event, mem_filter.mpr ⟨?_, drain.2⟩, drain.1⟩) undrained
        rw [split]
        simp

theorem Turn.reported (turn : Turn s s') : s'.Reported := by
  cases turn with
  | quiet quiet => exact quiet.reported tickets account
  | started quiet queued => exact account.started tickets quiet (mem_of_split queued)
  | held quiet queued _ working _ free =>
    refine (quiet.reported tickets account).held (quiet.ticketed tickets) (fun spent => ?_)
      working free
    rw [quiet.produced, append_nil] at spent
    exact notMem_of_split queued tickets.stops.once (mem_append_right _ spent)

end HttpWorkerSupervisor

end Ariax
