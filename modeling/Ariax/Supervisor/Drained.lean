import Ariax.Supervisor.Sound

/-!
# Drained cancellations

A cancellation is drained at once when it finds no worker of its generation,
or one that holds a cancellation already, and otherwise when its worker has
been joined. A poll takes cancellations before allocations, so one that is
queued together with its allocation is drained before the worker is started.
If a cancellation is accepted only when its allocation was taken and no
other cancellation of its generation is under way, no worker outlives the
drain.
-/

namespace Ariax

open List

namespace HttpWorkerSupervisor

variable {s s' : HttpWorkerSupervisor}

def allocationOf : SupervisorRecord → Option AllocationRequest
  | .allocationAccepted request => some request
  | _ => none

def acceptedAllocations (log : List SupervisorRecord) : List AllocationRequest :=
  log.filterMap allocationOf

theorem mem_filterMap_iff {α β : Type} {f : α → Option β} {g : β → α} {l : List α} {b : β}
    (inverse : ∀ a, f a = some b ↔ a = g b) : b ∈ l.filterMap f ↔ g b ∈ l := by
  simp [mem_filterMap, inverse]

variable {log : List SupervisorRecord} {request : CancellationRequest} {s₀ : HttpWorkerSupervisor}
  {τ : List SupervisorStep}

theorem mem_acceptedAllocations {request : AllocationRequest} :
    request ∈ acceptedAllocations log ↔ .allocationAccepted request ∈ log :=
  mem_filterMap_iff fun record => by cases record <;> simp [allocationOf]

/-- The order in which the scheduler emits its effects: the generations of a task increase, and a
generation is cancelled after it was started. -/
def Orderly (s : HttpWorkerSupervisor) : SupervisorInput → Prop
  | .startAllocation identity => ∀ request ∈ acceptedAllocations s.log,
      request.identity.taskId = identity.taskId → request.identity.generation < identity.generation
  | .cancelGeneration identity _ =>
    ∃ request ∈ acceptedAllocations s.log, request.identity = identity
  | _ => True

/-- A cancellation comes when its allocation was taken and no other cancellation of its
generation waits or is held by the worker. -/
def Apart (s : HttpWorkerSupervisor) : SupervisorInput → Prop
  | .cancelGeneration identity _ =>
    (∀ request ∈ s.runtime.allocations, request.identity ≠ identity) ∧
    (∀ request ∈ s.runtime.cancellations, request.identity ≠ identity) ∧
    ∀ worker ∈ s.active[identity.taskId]?, worker.identity = identity →
      worker.cancellationRequest = none
  | _ => True

instance (s : HttpWorkerSupervisor) : (input : SupervisorInput) → Decidable (s.Orderly input)
  | .startAllocation _ => inferInstanceAs (Decidable (∀ _ ∈ _, _ → _))
  | .cancelGeneration _ _ => inferInstanceAs (Decidable (∃ _ ∈ _, _))
  | .pollOnce _ | .endWorker _ _ | .takeEvent | .close => inferInstanceAs (Decidable True)

instance (s : HttpWorkerSupervisor) : (input : SupervisorInput) → Decidable (s.Apart input)
  | .cancelGeneration _ _ =>
    inferInstanceAs (Decidable ((∀ _ ∈ _, _) ∧ (∀ _ ∈ _, _) ∧ ∀ _ ∈ _, _ → _))
  | .startAllocation _ | .pollOnce _ | .endWorker _ _ | .takeEvent | .close =>
    inferInstanceAs (Decidable True)

/-- A worker is started after its cancellation was drained. -/
def Outlives (earlier later : SupervisorRecord) : Prop :=
  ∃ submission request, earlier = .submitted submission ∧ submission.isDrained = true ∧
    later = .started request ∧ request.identity = submission.identity

/-- A generation is started once, and cancelled after that. -/
structure Begun (log : List SupervisorRecord) : Prop where
  once : ∀ request request', .allocationAccepted request ∈ log →
    .allocationAccepted request' ∈ log → request.identity = request'.identity →
      request = request'
  begun : ∀ request, .cancellationAccepted request ∈ log →
    ∃ allocation, .allocationAccepted allocation ∈ log ∧
      allocation.identity = request.identity

structure Parted (s : HttpWorkerSupervisor) : Prop where
  begun : Begun s.log
  apart : ∀ request ∈ s.runtime.cancellations, ∀ allocation ∈ s.runtime.allocations,
    allocation.identity ≠ request.identity
  single : (s.runtime.cancellations.map (·.identity)).Nodup
  unheld : ∀ request ∈ s.runtime.cancellations, ∀ (task : TaskId) (worker : ActiveWorker),
    s.active[task]? = some worker → worker.identity = request.identity →
      worker.cancellationRequest = none
  settled : ∀ event ∈ s.produced, event.isDrained = true →
    (∀ allocation ∈ s.runtime.allocations, allocation.identity ≠ event.identity) ∧
      ∀ (task : TaskId) (worker : ActiveWorker), s.active[task]? = some worker →
        worker.identity ≠ event.identity
  ordered : s.log.Pairwise fun earlier later => ¬Outlives earlier later

theorem mem_submissions {submission : RuntimeEventSubmission} :
    submission ∈ submissions log ↔ .submitted submission ∈ log :=
  mem_filterMap_iff fun record => by cases record <;> simp [submittedOf]

theorem Begun.append {more : List SupervisorRecord} (begun : Begun log)
    (taken : ∀ record ∈ more, (∀ request, record ≠ .allocationAccepted request) ∧
      ∀ request, record ≠ .cancellationAccepted request) : Begun (log ++ more) := by
  have earlier {request : AllocationRequest}
      (listed : .allocationAccepted request ∈ log ++ more) : .allocationAccepted request ∈ log :=
    (mem_append.mp listed).resolve_right fun new => (taken _ new).1 request rfl
  constructor
  · exact fun request request' one two => begun.once request request' (earlier one) (earlier two)
  · intro request accepted
    obtain ⟨allocation, started, own⟩ := begun.begun request
      ((mem_append.mp accepted).resolve_right fun new => (taken _ new).2 request rfl)
    exact ⟨allocation, mem_append_left _ started, own⟩

theorem Parted.append_log {more : List SupervisorRecord}
    (ordered : log.Pairwise fun earlier later => ¬Outlives earlier later)
    (none : ∀ record ∈ more, ∀ request, record ≠ .started request) :
    (log ++ more).Pairwise fun earlier later => ¬Outlives earlier later := by
  have apart earlier : ∀ later ∈ more, ¬Outlives earlier later := by
    rintro later member ⟨submission, request, -, -, started, -⟩
    exact none later member request started
  rw [pairwise_append]
  refine ⟨ordered, ?_, fun earlier _ => apart earlier⟩
  exact pairwise_of_forall_mem_list fun earlier _ => apart earlier

section

variable (parted : s.Parted)
include parted

theorem Parted.other {before after : List CancellationRequest}
    (queued : s.runtime.cancellations = before ++ request :: after) :
    ∀ request' ∈ before ++ after, request'.identity ≠ request.identity := by
  have nodup := parted.single
  rw [queued, map_append, map_cons] at nodup
  have apart := (nodup_cons.mp (perm_middle.nodup_iff.mp nodup)).1
  rw [← map_append] at apart
  exact fun request' member same => apart (mem_map.mpr ⟨request', member, same⟩)

theorem Parted.held {worker : ActiveWorker}
    (alone : ∀ request' ∈ s.runtime.cancellations, request'.identity ≠ request.identity)
    (working : s.active[request.identity.taskId]? = some worker)
    (own : worker.identity = request.identity) : (s.hold worker request).Parted := by
  constructor
  · exact parted.begun.append (by simp)
  · exact parted.apart
  · exact parted.single
  · intro request' member task current there
    exact OrderedMap.insert_rec there
      (fun same => absurd (same.symm.trans own) (alone request' member))
      (parted.unheld request' member task current)
  · intro event made drained
    rw [produced_hold] at made
    obtain ⟨waiting, active⟩ := parted.settled event made drained
    exact ⟨waiting, fun task current there =>
      OrderedMap.insert_rec there (active _ worker working) (active task current)⟩
  · exact Parted.append_log parted.ordered (by simp)

variable (sound : s.Sound)
include sound

/-- A generation is over when its drain is made. -/
theorem Ends.over {event : RuntimeEventSubmission} (ends : Ends s s' event)
    (drained : event.isDrained = true) :
    (∀ allocation ∈ s.runtime.allocations, allocation.identity ≠ event.identity) ∧
      ∀ (task : TaskId) (worker : ActiveWorker), s.active[task]? = some worker →
        worker.identity = event.identity → s'.active[task]? = none := by
  obtain ⟨request, rfl, ⟨before, after, queued, -, idle⟩ | ⟨task, worker, working, gone, held⟩⟩ :=
    ends.of_isDrained drained
  · have member := mem_of_split queued
    refine ⟨parted.apart request member, fun task worker there own => ?_⟩
    -- a worker of this generation holds nothing, so the request would have been handed to it
    have own : worker.identity = request.identity := own
    have key : request.identity.taskId = task := own ▸ (sound.ticketed.own task worker there).1
    have free := parted.unheld request member task worker there own
    rcases idle worker (key ▸ there) with different | held
    · exact absurd own different
    · rw [free] at held
      cases held
  · obtain ⟨key, -, holds⟩ := sound.ticketed.own task worker working
    have elsewhere := sound.ticketed.starts.elsewhere task _ ⟨worker, working, rfl⟩
    have own := holds request held
    refine ⟨fun allocation there same => ?_, fun task' other there same => ?_⟩
    · -- the generation was started once, and by the request of this worker
      have one := parted.begun.once allocation ⟨worker.identity, worker.authority.ticket⟩
        (sound.recorded.allocations allocation there)
        (sound.recorded.workers task worker working).1 (same.trans own)
      refine elsewhere (mem_append_left _ (mem_map.mpr ⟨allocation, there, ?_⟩))
      rw [one]
    · have key' := (sound.ticketed.own task' other there).1
      have same : other.identity = worker.identity := same.trans own
      rw [← key', same, key]
      exact gone

theorem Quiet.parts {events : List RuntimeEventSubmission} (quiet : Quiet s s' events) :
    s'.Parted := by
  obtain ⟨more, logged, traffic⟩ := quiet.log
  constructor
  · rw [logged]
    refine parted.begun.append fun record member => ⟨?_, ?_⟩ <;>
      · rintro request rfl
        cases traffic _ member
  · exact fun request member allocation queued => parted.apart request
      (quiet.cancellations.subset member) allocation (quiet.allocations.subset queued)
  · exact (quiet.cancellations.map _).nodup parted.single
  · intro request member task worker working own
    obtain ⟨cancelled, there⟩ := quiet.workers task worker working
    have free := parted.unheld request (quiet.cancellations.subset member) task _ there own
    exact free
  · intro event made drained
    rw [quiet.produced] at made
    rcases mem_append.mp made with earlier | new
    · obtain ⟨queued, working⟩ := parted.settled event earlier drained
      refine ⟨fun allocation member => queued allocation (quiet.allocations.subset member), ?_⟩
      intro task worker there
      obtain ⟨cancelled, there⟩ := quiet.workers task worker there
      have other := working task _ there
      exact other
    · obtain ⟨queued, working⟩ := (quiet.ends event new).over parted sound drained
      refine ⟨fun allocation member => queued allocation (quiet.allocations.subset member), ?_⟩
      intro task worker there own
      obtain ⟨cancelled, earlier⟩ := quiet.workers task worker there
      rw [working task _ earlier own] at there
      cases there
  · rw [logged]
    refine Parted.append_log parted.ordered fun record member => ?_
    rintro request rfl
    cases traffic _ member

theorem Parted.started {allocation : AllocationRequest}
    (quiet : Quiet s s' [allocation.activate.1]) (queued : allocation ∈ s.runtime.allocations) :
    (s'.spawn allocation.activate.2).Parted := by
  have parted' := quiet.parts parted sound
  -- a drain was made before this poll or is made in it; the allocation waited all the time
  have waited {event : RuntimeEventSubmission} (made : event ∈ s'.produced)
      (drained : event.isDrained = true) : allocation.identity ≠ event.identity := by
    rw [quiet.produced] at made
    rcases mem_snoc.mp made with earlier | rfl
    · exact (parted.settled event earlier drained).1 allocation queued
    · cases drained
  constructor
  · exact parted'.begun.append (by simp)
  · exact parted'.apart
  · exact parted'.single
  · intro request waiting task worker working
    exact OrderedMap.insert_rec working (fun _ => rfl) (parted'.unheld request waiting task worker)
  · intro event made drained
    rw [produced_spawn] at made
    obtain ⟨waiting, working⟩ := parted'.settled event made drained
    exact ⟨waiting, fun task worker there =>
      OrderedMap.insert_rec there (waited made drained) (working task worker)⟩
  · refine pairwise_append.mpr ⟨parted'.ordered, pairwise_singleton _ _, ?_⟩
    rintro earlier listed later last ⟨submission, request, rfl, drained, begun, own⟩
    cases (mem_singleton.mp last).symm.trans begun
    exact waited (mem_append_left _ (mem_submissions.mpr listed)) drained own

theorem Turn.parts (turn : Turn s s') : s'.Parted := by
  cases turn with
  | quiet quiet => exact quiet.parts parted sound
  | started quiet queued => exact parted.started sound quiet (mem_of_split queued)
  | held quiet queued left working own =>
    exact (quiet.parts parted sound).held (left ▸ parted.other queued) working own

variable {identity : RuntimeIdentity}

theorem Parted.startAllocation
    (orderly : s.Orderly (.startAllocation identity)) : (s.startAllocation identity).Parted := by
  have fresh {request : AllocationRequest} (accepted : .allocationAccepted request ∈ s.log) :
      request.identity ≠ identity := by
    rintro rfl
    exact lt_irrefl _ (orderly request (mem_acceptedAllocations.mpr accepted) rfl)
  have uncancelled {request : CancellationRequest}
      (accepted : .cancellationAccepted request ∈ s.log) : identity ≠ request.identity := by
    obtain ⟨allocation, begun, own⟩ := parted.begun.begun request accepted
    exact own ▸ (fresh begun).symm
  refine ⟨⟨?_, ?_⟩, ?_, ?_, ?_, ?_, ?_⟩
  · intro request request' one two same
    rcases mem_snoc.mp one with one | new <;> rcases mem_snoc.mp two with two | last
    · exact parted.begun.once request request' one two same
    · cases last
      exact absurd same (fresh one)
    · cases new
      exact absurd same.symm (fresh two)
    · cases new
      cases last
      rfl
  · intro request accepted
    obtain ⟨allocation, begun, own⟩ :=
      parted.begun.begun request ((mem_snoc.mp accepted).resolve_right (by simp))
    exact ⟨allocation, mem_append_left _ begun, own⟩
  · intro request waiting allocation there
    rcases mem_snoc.mp there with earlier | rfl
    · exact parted.apart request waiting allocation earlier
    · exact uncancelled (sound.recorded.cancellations request waiting)
  · exact parted.single
  · exact parted.unheld
  · intro event made drained
    rw [produced_startAllocation] at made
    obtain ⟨waiting, working⟩ := parted.settled event made drained
    refine ⟨fun allocation there => ?_, working⟩
    rcases mem_snoc.mp there with earlier | rfl
    · exact waiting allocation earlier
    · obtain ⟨request, cancelled, rfl⟩ := sound.recorded.drains event made drained
      exact uncancelled cancelled
  · exact Parted.append_log parted.ordered (by simp)

theorem Parted.cancelGeneration {force : Bool}
    (orderly : s.Orderly (.cancelGeneration identity force))
    (apart : s.Apart (.cancelGeneration identity force)) :
    (s.cancelGeneration identity force).Parted := by
  obtain ⟨taken, alone, free⟩ := apart
  have earlier {request : AllocationRequest}
      (accepted : .allocationAccepted request ∈ (s.cancelGeneration identity force).log) :
      .allocationAccepted request ∈ s.log :=
    (mem_snoc.mp accepted).resolve_right (by simp)
  refine ⟨⟨?_, ?_⟩, ?_, ?_, ?_, ?_, ?_⟩
  · exact fun request request' one two =>
      parted.begun.once request request' (earlier one) (earlier two)
  · intro request accepted
    rcases mem_snoc.mp accepted with accepted | new
    · obtain ⟨allocation, begun, own⟩ := parted.begun.begun request accepted
      exact ⟨allocation, mem_append_left _ begun, own⟩
    · cases new
      obtain ⟨allocation, begun, own⟩ := orderly
      exact ⟨allocation, mem_append_left _ (mem_acceptedAllocations.mp begun), own⟩
  · exact forall_mem_snoc.mpr ⟨parted.apart, taken⟩
  · have joined : (s.cancelGeneration identity force).runtime.cancellations =
        s.runtime.cancellations ++ [⟨identity, force, s.runtime.nextTicket⟩] := rfl
    rw [joined, map_append, nodup_append]
    refine ⟨parted.single, by simp, ?_⟩
    rintro own listed _ new rfl
    obtain ⟨request, member, same⟩ := mem_map.mp listed
    exact alone request member (same.trans (mem_singleton.mp new))
  · refine forall_mem_snoc.mpr ⟨parted.unheld, fun task worker working own => ?_⟩
    have own : worker.identity = identity := own
    have key := (sound.ticketed.own task worker working).1
    refine free worker (Option.mem_def.mpr ?_) own
    rw [← own, key]
    exact working
  · rw [produced_cancelGeneration]
    exact parted.settled
  · exact Parted.append_log parted.ordered (by simp)

theorem Parted.next {input : SupervisorInput} (orderly : s.Orderly input) (apart : s.Apart input) :
    (supervisorMachine.next s input).2.Parted := by
  cases input with
  | startAllocation =>
    simp only [supervisorMachine]
    split
    · exact parted.startAllocation sound orderly
    · exact parted
  | cancelGeneration =>
    simp only [supervisorMachine]
    split
    · exact parted.cancelGeneration sound orderly apart
    · exact parted
  | pollOnce environment =>
    refine (pollOnce_keeps (P := fun s => s.Sound ∧ s.Parted) ?_ environment s ⟨sound, parted⟩).2
    rintro s s' ⟨sound, parted⟩ move
    exact ⟨move.sound sound, move.turn.parts parted sound⟩
  | endWorker joinId result =>
    obtain ⟨joins, ended⟩ := s.exists_endWorker joinId result
    simp only [supervisorMachine, ended]
    exact ⟨parted.begun, parted.apart, parted.single, parted.unheld, parted.settled,
      parted.ordered⟩
  | takeEvent => exact (Move.emitted s.next_takeEvent).turn.parts parted sound
  | close => exact (Move.emitted s.next_close).turn.parts parted sound

end

/-- A step of the supervisor and of what surrounds it. -/
abbrev SupervisorStep := Step HttpWorkerSupervisor SupervisorInput
  (Option (Except HttpWorkerSupervisorError HttpWorkerSupervisorPoll))

section

variable (config : HttpWorkerSupervisorConfig) (btTasks : List TaskId)
  (requestCapacity eventCapacity probes : ℕ)
include config btTasks requestCapacity eventCapacity probes

theorem Sound.new :
    (HttpWorkerSupervisor.new config btTasks requestCapacity eventCapacity probes).Sound := by
  refine ⟨⟨⟨?_, ?_, ?_, ?_, ?_⟩, ⟨?_, ?_, ?_, ?_, ?_⟩, ?_, ?_⟩, ⟨?_, ?_, ?_, ?_, ?_⟩,
    ⟨?_, ?_, ?_, ?_⟩, ⟨?_, ?_, fun _ => Heralded.nil, ?_⟩⟩ <;>
    simp [HttpWorkerSupervisor.new, produced, submissions, outcomeTickets, drainTickets, Started,
      Stopping, Own]

theorem Parted.new :
    (HttpWorkerSupervisor.new config btTasks requestCapacity eventCapacity probes).Parted := by
  refine ⟨⟨?_, ?_⟩, ?_, ?_, ?_, ?_, ?_⟩ <;> simp [HttpWorkerSupervisor.new, produced, submissions]

end

theorem produced_grows_next (s : HttpWorkerSupervisor) (input : SupervisorInput) :
    s.produced <+: (supervisorMachine.next s input).2.produced := by
  cases input with
  | startAllocation identity =>
    simp only [supervisorMachine]
    split
    · exact (produced_startAllocation s identity).symm ▸ prefix_refl _
    · exact prefix_refl _
  | cancelGeneration identity force =>
    simp only [supervisorMachine]
    split
    · exact (produced_cancelGeneration s identity force).symm ▸ prefix_refl _
    · exact prefix_refl _
  | pollOnce environment =>
    exact pollOnce_keeps (P := fun s' => s.produced <+: s'.produced)
      (fun _ _ earlier move => earlier.trans move.produced_grows) environment s
      (prefix_refl _)
  | endWorker joinId result =>
    obtain ⟨joins, ended⟩ := s.exists_endWorker joinId result
    simp only [supervisorMachine, ended]
    exact prefix_refl _
  | takeEvent => exact (Move.emitted s.next_takeEvent).produced_grows
  | close => exact (Move.emitted s.next_close).produced_grows

variable {s : HttpWorkerSupervisor} (fresh : s₀ ∈ supervisorMachine.initial)
  (run : supervisorMachine.Run s₀ τ s)
include fresh run

theorem Sound.of_run : s.Sound := by
  obtain ⟨config, btTasks, requestCapacity, eventCapacity, probes, rfl⟩ := fresh
  exact run.invariant (.new config btTasks requestCapacity eventCapacity probes)
    fun s input sound => sound.next input

theorem Parted.of_run
    (guarded : Machine.Guarded (fun s input => s.Orderly input ∧ s.Apart input) τ) : s.Parted := by
  obtain ⟨config, btTasks, requestCapacity, eventCapacity, probes, rfl⟩ := fresh
  refine (run.guarded (P := fun s => s.Sound ∧ s.Parted) guarded
    ⟨.new _ _ _ _ _, .new _ _ _ _ _⟩ ?_).2
  rintro s input ⟨sound, parted⟩ ⟨orderly, apart⟩
  exact ⟨sound.next input, parted.next sound orderly apart⟩

end HttpWorkerSupervisor

open HttpWorkerSupervisor in
/-- In every run a task has at most one worker that runs, a cancellation is drained at most once,
a worker has at most one outcome and none but the drain once it was told to stop, both after its
allocation succeeded, and events are submitted in the order in which they are made. In a run in
which cancellations come apart from their allocation and from each other, no worker of a drained
generation runs or is started later. -/
theorem supervisor_drains {s₀ s : HttpWorkerSupervisor} {τ : List SupervisorStep}
    (fresh : s₀ ∈ supervisorMachine.initial) (run : supervisorMachine.Run s₀ τ s) :
    (∀ worker ∈ s.joins.running, ∀ worker' ∈ s.joins.running,
      worker.2.taskId = worker'.2.taskId → worker = worker') ∧
    (∀ event ∈ submissions s.log, event.isDrained = true →
      ∃ request, .cancellationAccepted request ∈ s.log ∧ event = request.drained) ∧
    (drainTickets (submissions s.log)).Nodup ∧
    (outcomeTickets (submissions s.log)).Nodup ∧
    (∀ ticket, Heralded (IsResultOf ticket) (IsSuccessOf ticket) (submissions s.log)) ∧
    (∀ worker request, .held worker request ∈ s.log →
      (∀ event ∈ submissions s.log, ¬IsResultOf worker.ticket event) ∧
      Heralded (IsDrainOf request.ticket) (IsSuccessOf worker.ticket) (submissions s.log)) ∧
    (∀ step ∈ τ, step.before.produced <+: step.after.produced) ∧
    (Machine.Guarded (fun s input => s.Orderly input ∧ s.Apart input) τ →
      (∀ event ∈ submissions s.log, event.isDrained = true →
        ∀ worker ∈ s.joins.running, worker.2 ≠ event.identity) ∧
      s.log.Pairwise fun earlier later => ¬Outlives earlier later) := by
  have sound := Sound.of_run fresh run
  have part : submissions s.log <+: s.produced := prefix_append _ _
  have outcomes := (nodup_append.mp sound.ticketed.starts.once).2.1
  have drains := (nodup_append.mp sound.ticketed.stops.once).2.1
  refine ⟨fun worker one worker' two => sound.staffed.alone one two, ?_,
    (drainTickets_sublist part).nodup drains, (outcomeTickets_sublist part).nodup outcomes,
    fun ticket => (sound.reported.heralded ticket).of_initial part, ?_, ?_, fun guarded => ?_⟩
  · exact fun event member => sound.recorded.drains event (part.subset member)
  · intro worker request held
    have retired := sound.reported.retired worker request held
    exact ⟨fun event member => retired.silent event (part.subset member),
      retired.heralded.of_initial part⟩
  · intro step member
    rw [run.step_eq member]
    exact produced_grows_next _ _
  · have parted := Parted.of_run fresh run guarded
    refine ⟨fun event member drained worker running own => ?_, parted.ordered⟩
    obtain ⟨-, current, active, same⟩ := sound.staffed.running worker running
    exact (parted.settled event (part.subset member) drained).2 _ current active (same.trans own)

namespace SupervisorSample

theorem one_ne_zero : (1 : U64) ≠ 0 := by decide

def taskId : TaskId := ⟨1, one_ne_zero⟩

def gid : Gid := ⟨1, one_ne_zero⟩

def identity : RuntimeIdentity := ⟨taskId, gid, .initial⟩

def supervisor : HttpWorkerSupervisor := .new ⟨Nat.succPNat 0, Nat.succPNat 2, 1⟩ [] 8 8 0

def environment : PollEnvironment := ⟨⟨0⟩, fun _ => some gid, fun _ => false⟩

/-- A worker is started, told to stop, and ends. -/
def apart : List SupervisorInput :=
  [.startAllocation identity, .pollOnce environment, .cancelGeneration identity false,
    .pollOnce environment, .endWorker 0 none, .pollOnce environment]

/-- The cancellation is accepted while the allocation waits. -/
def together : List SupervisorInput :=
  [.startAllocation identity, .cancelGeneration identity false, .pollOnce environment]

/-- The generation is cancelled again while its worker is stopping. -/
def twice : List SupervisorInput :=
  [.startAllocation identity, .pollOnce environment, .cancelGeneration identity false,
    .cancelGeneration identity true, .pollOnce environment]

end SupervisorSample

open SupervisorSample HttpWorkerSupervisor in
/-- A worker that was told to stop and has ended. -/
theorem supervisor_drains_apart : identity.submission 1 .cancellationDrained ∈
        submissions (supervisorMachine.final supervisor apart).log ∧
      (supervisorMachine.final supervisor apart).log.Pairwise fun earlier later =>
        ¬Outlives earlier later := by
  have fresh : supervisor ∈ supervisorMachine.initial := ⟨_, _, _, _, _, rfl⟩
  refine ⟨by decide +kernel,
    ((supervisor_drains fresh (Machine.run_trace supervisor apart)).2.2.2.2.2.2.2 ?_).2⟩
  unfold Machine.Guarded
  decide +kernel

open SupervisorSample HttpWorkerSupervisor in
/-- Effects come in the order of the scheduler, and yet a worker of a drained generation runs: it
is started after the drain when both requests wait for one poll, and it has not ended when its
generation is cancelled a second time. -/
theorem supervisor_worker_outlives_drain :
    (Machine.Guarded (fun s input ↦ s.Orderly input) (supervisorMachine.trace supervisor together) ∧
      (identity.submission 1 .cancellationDrained) ∈
        submissions (supervisorMachine.final supervisor together).log ∧
      (0, identity) ∈ (supervisorMachine.final supervisor together).joins.running) ∧
    Machine.Guarded (fun s input => s.Orderly input) (supervisorMachine.trace supervisor twice) ∧
      (identity.submission 2 .cancellationDrained) ∈
        submissions (supervisorMachine.final supervisor twice).log ∧
      (0, identity) ∈ (supervisorMachine.final supervisor twice).joins.running := by
  unfold Machine.Guarded
  decide +kernel

end Ariax
