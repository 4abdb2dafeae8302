import Ariax.Runtime.Chain
import Ariax.Scheduler.Run

/-!
# Ordered exactly-once dispatch

Over every run of a driver and every behaviour of its sink: what the sink has
accepted since an input is the dispatched effects of the chain that the input
opened, in order and each once; acknowledgements and publications wait for
what precedes them; and a fault is final.
-/

namespace Ariax

open Except List SchedulerDriver SchedulerEffectSink

section Inputs

variable {σ : Type} {self : SchedulerDriver σ}

structure SchedulerDriver.Idle (driver : SchedulerDriver σ) : Prop where
  running : driver.fault = none
  pending : driver.pending = none
  offered : driver.offered = none
  landed : driver.inFlight = none
  answered : driver.acknowledgements = []
  undrafted : driver.draft = none
  restored : driver.restorePlan = none

theorem SchedulerDriver.idle_of_ensureInputReady (h : self.ensureInputReady = .ok ()) :
    self.Idle := by
  unfold ensureInputReady at h
  split at h
  · cases h
  · split at h
    · next running idle =>
      simp only [isIdle, Bool.and_eq_true, Option.isNone_iff_eq_none, List.isEmpty_iff] at idle
      obtain ⟨⟨⟨⟨⟨⟨-, pending⟩, offered⟩, landed⟩, answered⟩, undrafted⟩, restored⟩ := idle
      exact ⟨running, pending, offered, landed, answered, undrafted, restored⟩
    · cases h

/-- The inputs that open a chain: the calls of the scheduler, and a restore. -/
def DriverInput.opening (self : SchedulerDriver (Recording σ)) : DriverInput → Option (Opening σ)
  | .executeCommand command instant => called (self.scheduler.executeCommandAt command instant)
  | .handleEvent event instant => called (self.scheduler.handleEventAt event instant)
  | .admitNext instant => called (self.scheduler.admitNextAt instant)
  | .beginRestore plan => some ⟨self.scheduler, ⟨none, none, plan.nextBatch.1⟩,
      plan.nextBatch.2.effects, self.sink⟩
  | _ => none
where
  called : SchedulerResult → Option (Opening σ)
    | (.ok first, scheduler) => some ⟨scheduler, first, [], self.sink⟩
    | (.error _, _) => none

/-- A driver that has just begun the chain of an opening. -/
structure Opening.Begins (opening : Opening σ) (driver : SchedulerDriver (Recording σ)) : Prop where
  scheduler : driver.scheduler = opening.scheduler
  pending : driver.pending = some ⟨opening.first, 0⟩
  sink : driver.sink = opening.record
  landed : driver.inFlight = none
  answered : driver.acknowledgements = []
  planned : (driver.restorePlan.map SchedulerRestorePlan.effects).getD [] = opening.rest

theorem Opening.Begins.running {opening : Opening σ} {driver : SchedulerDriver (Recording σ)}
    (begins : opening.Begins driver) : Chained.Running opening [] [] driver := by
  refine ⟨begins.scheduler ▸ .nil, ?_, ?_, by simpa using begins.planned⟩
  · simp [begins.sink, Opening.dispatch, unaccepted, begins.pending, begins.landed,
      SchedulerOutcome.dispatched]
  · simp [begins.sink, begins.answered]

end Inputs

/-- The calls that a driver takes only when it is idle. -/
def DriverInput.isExternal : DriverInput → Bool
  | executeCommand .. | handleEvent .. | admitNext .. | beginRestore ..
  | configureQueuePolicies .. =>
    true
  | failControlPublication | poll .. | allocateElsewhere => false

section Calls

variable {σ : Type} [SchedulerEffectSink σ] {self : DriverProcess (Recording σ)}
  {opening : Opening σ} {input : DriverInput} {output : DriverOutput}
  {later : SchedulerDriver (Recording σ)}

/-- What one call of a process answers and does to its driver. An input that
is accepted finds the driver idle, and begins the chain that it opens. -/
inductive DriverProcess.Applies (self : DriverProcess (Recording σ)) :
    DriverInput → DriverOutput → SchedulerDriver (Recording σ) → Prop
  | rejected {input : DriverInput} {error : SchedulerDriverInputError}
      (external : input.isExternal = true) :
      Applies self input (.answered (.error error)) self.driver
  | accepted {input : DriverInput} {later : SchedulerDriver (Recording σ)}
      (idle : self.driver.Idle) (sink : later.sink = self.driver.sink)
      (landed : later.inFlight = none) (unoffered : later.offered = none)
      (settled : later.pending = none → later.acknowledgements = [] ∧ later.restorePlan = none)
      (begins : ∀ opening, input.opening self.driver = some opening → opening.Begins later) :
      Applies self input (.answered (.ok ())) later
  | failed {fault : SchedulerDriverFault} :
      Applies self .failControlPublication .done { self.driver with fault := some fault }
  | polled {instant : MonotonicInstant} {result : SchedulerDriverPoll}
      {later : SchedulerDriver (Recording σ)} (polls : self.driver.Polls instant later) :
      Applies self (.poll instant) (.polled result) later
  | elsewhere : Applies self .allocateElsewhere .done self.driver

theorem DriverProcess.accept_applies {call : RequestScheduler → SchedulerResult}
    (external : input.isExternal = true)
    (opens : input.opening self.driver =
      DriverInput.opening.called self.driver (call self.driver.scheduler))
    (fails : ∀ error scheduler, call self.driver.scheduler = (.error error, scheduler) →
      scheduler = self.driver.scheduler) :
    self.Applies input (.answered (self.driver.accept call).1) (self.driver.accept call).2 := by
  unfold accept
  split
  · exact .rejected external
  · next ready =>
    have idle := idle_of_ensureInputReady ready
    split
    · next error scheduler called =>
      obtain rfl := fails error scheduler called
      exact .rejected external
    · next outcome scheduler called =>
      refine .accepted idle rfl idle.landed idle.offered (by rintro ⟨⟩) fun opening begun => ?_
      rw [opens, called] at begun
      obtain rfl := Option.some.inj begun
      exact ⟨rfl, rfl, rfl, idle.landed, idle.answered,
        by simp [beginChain, idle.restored]⟩

theorem DriverProcess.beginRestore_applies {plan : SchedulerRestorePlan} :
    self.Applies (.beginRestore plan) (.answered (self.driver.beginRestore plan).1)
      (self.driver.beginRestore plan).2 := by
  unfold beginRestore
  split
  · exact .rejected rfl
  · next driver opened =>
    simp only [openRestore, bind_eq_ok, mapError_eq_ok, pure_eq] at opened
    obtain ⟨_, ready, -, -, draft, -, first, checked, same⟩ := opened
    obtain rfl := ok.inj same
    have idle := idle_of_ensureInputReady ready
    obtain rfl := SchedulerOutcome.eq_of_checked checked
    refine .accepted idle rfl idle.landed idle.offered (by rintro ⟨⟩) fun opening begun => ?_
    obtain rfl := Option.some.inj begun
    exact ⟨rfl, rfl, rfl, idle.landed, idle.answered, rfl⟩

theorem DriverProcess.applies (self : DriverProcess (Recording σ)) (input : DriverInput) :
    self.Applies input (self.apply input).1 (self.apply input).2.driver := by
  cases input with
  | executeCommand command instant =>
    exact accept_applies rfl rfl fun _ _ => apply_of_error (.command command instant)
  | handleEvent event instant =>
    exact accept_applies rfl rfl fun _ _ => apply_of_error (.event event instant)
  | admitNext instant => exact accept_applies rfl rfl fun _ _ => apply_of_error (.admitNext instant)
  | beginRestore => exact beginRestore_applies
  | configureQueuePolicies =>
    simp only [apply, answer, configureQueuePolicies]
    split
    · exact .rejected rfl
    · next ready =>
      have idle := idle_of_ensureInputReady ready
      exact .accepted idle rfl idle.landed idle.offered (fun _ => ⟨idle.answered, idle.restored⟩)
        (by rintro _ ⟨⟩)
  | failControlPublication => exact .failed
  | poll => exact .polled (pollAt_polls self.counter)
  | allocateElsewhere => exact .elsewhere

theorem SchedulerDriver.Polls.eq_of_fault {driver : SchedulerDriver (Recording σ)}
    {instant : MonotonicInstant} (polls : driver.Polls instant later)
    (halted : driver.fault ≠ none) : later = driver := by
  cases polls with
  | halted | idle => rfl
  | waited running | completed running | uncompleted running | held running | taken running
  | refused running | staged running | stuck running => exact absurd running halted
  | finished exhausted | restored exhausted | acknowledged exhausted | broken exhausted
  | published exhausted | unpublished exhausted => exact absurd exhausted.running halted

end Calls

/-! ## Runs -/

section Runs

variable {σ : Type} [SchedulerEffectSink σ] {self : DriverProcess (Recording σ)}
  {opening : Opening σ} {links : List Link} {outcomes : List SchedulerOutcome}

/-- What every driver satisfies: at most one effect is with the sink, and an
unfaulted driver is in order. -/
structure DriverProcess.Sound (process : DriverProcess (Recording σ)) : Prop where
  single : process.driver.inFlight = none ∨ process.driver.offered = none
  driven : process.driver.fault = none → process.driver.Driven

variable {driver later : SchedulerDriver (Recording σ)} {input : DriverInput}

theorem SchedulerDriver.Polls.single {instant : MonotonicInstant}
    (driven : driver.fault = none → driver.Driven)
    (single : driver.inFlight = none ∨ driver.offered = none) (polls : driver.Polls instant later) :
    later.inFlight = none ∨ later.offered = none := by
  cases polls with
  | halted | idle | waited => exact single
  | completed => exact .inl rfl
  | uncompleted running flight => exact .inr ((driven running).flight _ flight).2.2
  | held _ landed | refused _ landed | stuck _ landed | staged _ landed => exact .inl landed
  | taken => exact .inr rfl
  | finished exhausted | restored exhausted | acknowledged exhausted | broken exhausted
  | published exhausted | unpublished exhausted => exact .inl exhausted.landed

theorem DriverProcess.Sound.apply (sound : self.Sound) (input : DriverInput) :
    (self.apply input).2.Sound := by
  suffices kept : ∀ output later, self.Applies input output later →
      (later.inFlight = none ∨ later.offered = none) ∧ (later.fault = none → later.Driven) from
    ⟨(kept _ _ (self.applies input)).1, (kept _ _ (self.applies input)).2⟩
  intro output later applies
  cases applies with
  | rejected | elsewhere => exact ⟨sound.single, sound.driven⟩
  | accepted idle sink landed unoffered settled =>
    exact ⟨.inl landed, fun _ =>
      (sound.driven idle.running).quiet idle.landed landed unoffered sink settled⟩
  | failed => exact ⟨sound.single, by rintro ⟨⟩⟩
  | polled polls =>
    refine ⟨polls.single sound.driven sound.single, fun running => ?_⟩
    refine (sound.driven ?_).polls polls running
    by_contra halted
    exact halted (polls.eq_of_fault halted ▸ running)

def Recording.start (sink : σ) : Recording σ := ⟨sink, [], []⟩

def DriverProcess.new (scheduler : RequestScheduler) (sink : σ) (counter : DispatchCounter) :
    DriverProcess (Recording σ) :=
  ⟨.new scheduler (.start sink), counter⟩

structure DriverProcess.InChain (opening : Opening σ) (process : DriverProcess (Recording σ)) :
    Prop where
  sound : process.Sound
  chained : opening.Chains process.driver

theorem DriverProcess.InChain.apply (inChain : self.InChain opening)
    (unopened : (self.apply input).1 ≠ .answered (.ok ())) :
    (self.apply input).2.InChain opening := by
  refine ⟨inChain.sound.apply input, ?_⟩
  obtain ⟨links, outcomes, chained, running⟩ := inChain.chained
  have applies := self.applies input
  generalize (self.apply input).2.driver = later at applies ⊢
  generalize (self.apply input).1 = output at applies unopened
  cases applies with
  | rejected | elsewhere => exact ⟨links, outcomes, chained, running⟩
  | accepted => exact absurd rfl unopened
  | failed => exact ⟨links, outcomes, chained.keep rfl rfl (prefix_refl _), by rintro ⟨⟩⟩
  | polled polls =>
    by_cases unfaulted : self.driver.fault = none
    · exact (running unfaulted).polls (inChain.sound.driven unfaulted) polls
    · rw [polls.eq_of_fault unfaulted]
      exact ⟨links, outcomes, chained, running⟩

theorem DriverProcess.Sound.opens (sound : self.Sound)
    (accepted : (self.apply input).1 = .answered (.ok ()))
    (opens : input.opening self.driver = some opening) : (self.apply input).2.InChain opening := by
  have applies := self.applies input
  rw [accepted] at applies
  have begins : opening.Begins (self.apply input).2.driver := by
    generalize (self.apply input).2.driver = later at applies
    cases applies with
    | accepted _ _ _ _ _ begins => exact begins opening opens
  exact ⟨sound.apply input, [], [], begins.running.chained, fun _ => begins.running⟩

end Runs

/-! ## The result -/

section Result

variable {σ : Type} [SchedulerEffectSink σ] {self : DriverProcess (Recording σ)}
  {opening : Opening σ} {links : List Link} {outcomes : List SchedulerOutcome}

theorem Follows.batches_ne_nil {opened scheduler : RequestScheduler}
    (follows : Follows opened links outcomes scheduler) :
    ∀ effects, Link.batch effects ∈ links → effects ≠ [] := by
  induction follows with
  | nil => simp
  | acknowledged _ _ ih => simpa using ih
  | restored _ remaining ih =>
    intro effects member
    rcases mem_snoc.mp member with member | last
    · exact ih effects member
    · cases last
      exact remaining

variable {driver later : SchedulerDriver (Recording σ)} {instant : MonotonicInstant}

omit [SchedulerEffectSink σ] in
theorem Chained.ordinary (chained : Chained opening links outcomes driver)
    (none : opening.rest = []) :
    ∃ acknowledgements : List TaskEventEnvelope, links = acknowledgements.map .acknowledgement := by
  have batches := chained.follows.batches_ne_nil
  have empty : links.flatMap Link.effects = [] := by
    have batches := chained.batches
    rwa [none, prefix_nil] at batches
  refine ⟨links.filterMap Link.acknowledgement?, ?_⟩
  clear chained
  induction links with
  | nil => rfl
  | cons link _ ih =>
    rw [flatMap_cons, append_eq_nil_iff] at empty
    have rest := ih (fun effects member => batches effects (mem_cons_of_mem _ member)) empty.2
    cases link with
    | acknowledgement =>
      rw [filterMap_cons, Link.acknowledgement?, map_cons, ← rest]
    | batch effects => exact absurd empty.1 (batches effects mem_cons_self)

theorem SchedulerDriver.Polls.exhausted (polls : driver.Polls instant later)
    (h : later.scheduler ≠ driver.scheduler ∨
      ¬driver.acknowledgements <+: later.acknowledgements) : driver.Exhausted := by
  have moved (scheduler : later.scheduler = driver.scheduler)
      (acknowledgements : driver.acknowledgements <+: later.acknowledgements) :
      driver.Exhausted := by
    rcases h with h | h
    · exact absurd scheduler h
    · exact absurd acknowledgements h
  cases polls with
  | acknowledged exhausted | broken exhausted => exact exhausted
  | completed => exact moved rfl (prefix_append _ _)
  | halted | waited | uncompleted | held | taken | refused | staged | stuck | finished | restored
  | published | unpublished | idle => exact moved rfl (prefix_refl _)

theorem SchedulerDriver.Polls.publishes (polls : driver.Polls instant later)
    (h : later.snapshots ≠ driver.snapshots) :
    driver.fault = none ∧ driver.pending = none ∧ driver.acknowledgements = [] := by
  cases polls with
  | published exhausted done answered => exact ⟨exhausted.running, done, answered⟩
  | halted | waited | completed | uncompleted | held | taken | refused | staged | stuck | finished
  | restored | acknowledged | broken | unpublished | idle => exact absurd rfl h

theorem DriverProcess.Applies.exhausted {input : DriverInput} {output : DriverOutput}
    (applies : self.Applies input output later)
    (h : later.scheduler ≠ self.driver.scheduler ∨
      ¬self.driver.acknowledgements <+: later.acknowledgements) : self.driver.Exhausted := by
  cases applies with
  | rejected | elsewhere | failed => simp at h
  | accepted idle => exact ⟨idle.running, idle.landed, idle.offered, by simp [idle.pending]⟩
  | polled polls => exact polls.exhausted h

theorem DriverProcess.Applies.publishes {input : DriverInput} {output : DriverOutput}
    (applies : self.Applies input output later) (h : later.snapshots ≠ self.driver.snapshots) :
    self.driver.fault = none ∧ self.driver.pending = none ∧
      self.driver.acknowledgements = [] := by
  cases applies with
  | rejected | elsewhere | failed => exact absurd rfl h
  | accepted idle => exact ⟨idle.running, idle.pending, idle.answered⟩
  | polled polls => exact polls.publishes h

end Result

/-! ## A scripted sink -/

structure ScriptedSink where
  accepted : List EffectDispatchId
  acknowledgements : List (Option TaskEventEnvelope)

instance : SchedulerEffectSink ScriptedSink where
  pollDispatch effect sink := (.ready (.ok ()), { sink with accepted := [effect.dispatchId] })
  pollCompletion sink :=
    match sink.accepted, sink.acknowledgements with
    | dispatchId :: _, acknowledgement :: acknowledgements =>
      (.ready (.completed dispatchId acknowledgement), ⟨[], acknowledgements⟩)
    | _, _ => (.pending, sink)

namespace Script

def admissionSink : ScriptedSink where
  accepted := []
  acknowledgements := [none, some ⟨taskId, gid, .initial, .generationPersisted⟩, none, none, none]

def drive (start : DriverProcess (Recording ScriptedSink)) (input : DriverInput) (polls : ℕ) :
    DriverProcess (Recording ScriptedSink) :=
  (driverMachine (Recording ScriptedSink)).final start
    (input :: replicate polls (.poll instant))

def waiting : DriverProcess (Recording ScriptedSink) :=
  drive (.new (.new (config true)) admissionSink 1)
    (.executeCommand (.addValidatedTask taskId gid false ⟨none, none⟩) instant) 6

end Script

end Ariax
