import Ariax.Scheduler.TaskRun

/-!
# Restart patches that wait for their application

A restart patch is staged while its worker runs. Once it is persisted the
worker is drained, and the patch waits in the record of its task until it is
applied: when the drain ends, or, if the task was paused meanwhile, when it
is next considered for admission. Nothing else may enter a generation of the
task. The record has room for one patch only, so a second patch that is
accepted while the first one waits takes its place.
-/

namespace Ariax

open List RequestScheduler ScheduledTask SchedulerStep Machine

open PendingBarrier (isDrain)

/-- A persisted restart patch that has yet to be applied. -/
structure ScheduledTask.AwaitsRestart (t : ScheduledTask) (patchId : OptionPatchId) : Prop where
  patch : t.pendingOptionPatch = some patchId
  mode : t.pendingOptionPatchMode = some .activeRestart
  barrier : t.pendingBarrier = none ∨ isDrain t.pendingBarrier = true

namespace ScheduledTask.AwaitsRestart

variable {t u : ScheduledTask} {patchId : OptionPatchId} (h : t.AwaitsRestart patchId)
include h

theorem states (inv : t.Inv) :
    t.pendingSourceReplacement = false ∧ (t.state = .paused ∨
      (t.pendingBarrier = none ∧ t.state = .waiting) ∨ t.state = .pausedRestarting) := by
  have staged := inv.staged
  rw [h.patch, h.mode] at staged
  rcases h.barrier with idle | drain
  · rw [idle] at staged
    obtain ⟨-, ⟨none, -⟩ | ⟨-, -, source, -, state⟩⟩ := staged
    · cases none
    · exact ⟨source, state.symm.imp_right fun state => .inl ⟨idle, state⟩⟩
  · cases hb : t.pendingBarrier with
    | none => simp [hb, isDrain] at drain
    | some barrier =>
      rw [hb] at staged drain
      cases barrier with
      | cancellationDrain =>
        obtain ⟨-, ⟨none, -⟩ | ⟨-, -, source, -, state⟩⟩ := staged
        · cases none
        · exact ⟨source, state.symm.imp_right .inr⟩
      | _ => cases drain

theorem live (inv : t.Inv) :
    t.state.isWorking = false ∧ t.state.isTerminal = false ∧ t.state ≠ .retryWait ∧
      t.state ≠ .waitingSlow ∧ t.state ≠ .pausedSlow ∧ t.state ≠ .pausedHostKey := by
  obtain ⟨-, state | ⟨-, state⟩ | state⟩ := h.states inv <;> rw [state] <;> decide

theorem kept (patch : u.pendingOptionPatch = t.pendingOptionPatch)
    (mode : u.pendingOptionPatchMode = t.pendingOptionPatchMode)
    (barrier : u.pendingBarrier = t.pendingBarrier ∨ u.pendingBarrier = none ∨
      isDrain u.pendingBarrier = true) : u.AwaitsRestart patchId := by
  refine ⟨patch.trans h.patch, mode.trans h.mode, ?_⟩
  rcases barrier with same | barrier
  · rw [same]
    exact h.barrier
  · exact barrier

end ScheduledTask.AwaitsRestart

section Step

variable {self : RequestScheduler} {gid : Gid} {t : ScheduledTask} {cause : StepCause}
  {action : SchedulerAction} {draft : Draft} {publish : Bool} {ids : IdCounters}
  {patchId : OptionPatchId} {effect : TransitionEffect}

theorem Reprobes.mem_effects {draft draft' : Draft} {ids ids' : IdCounters}
    (reprobes : Reprobes draft ids draft' ids')
    (member : effect ∈ draft.effects) (drives : effect.drives = true) :
    effect ∈ draft'.effects := by
  have kept : effect ∈ draft'.effects.filter TransitionEffect.drives :=
    reprobes.reprobed.drives ▸ mem_filter.mpr ⟨member, drives⟩
  exact (mem_filter.mp kept).1

theorem Draft.Commits.mem_effects {instant : MonotonicInstant} {plan : CommitPlan}
    (commits : draft.Commits self t action instant publish ids plan)
    (drives : effect.drives = true) : effect ∈ plan.outcome.effects ↔ effect ∈ draft.effects := by
  have same := commits.filter_effects TransitionEffect.drives
    fun _ => TransitionEffect.isCommitted_of_drives
  have member (effects : List TransitionEffect) :
      effect ∈ effects ↔ effect ∈ effects.filter TransitionEffect.drives := by
    simp [drives]
  rw [member, same, ← member]

/-- A step that accepts no other patch keeps the patch, applies it or ends the task. -/
theorem TaskStep.awaitsRestart (inv : t.Inv) (fresh : cause.Fresh t) (h : t.AwaitsRestart patchId)
    (spared : t.pendingBarrier = none → ∀ patchId kind satisfies,
      cause ≠ .command (.applyOptionPatch gid patchId kind satisfies))
    (step : TaskStep self gid t cause action draft publish ids) :
    draft.task.AwaitsRestart patchId ∨ draft.task.state.isTerminal = true ∨
      ∃ satisfies, .applyOptionPatch t.taskId t.gid patchId satisfies ∈ draft.effects := by
  obtain ⟨unworking, live, unretried, unslowed, unpausedSlow, unchallenged⟩ := h.live inv
  have unbarred {barrier : PendingBarrier} (hb : t.pendingBarrier = some barrier)
      (other : isDrain (some barrier) = false) : False := by
    rcases h.barrier with idle | drain
    · rw [hb] at idle
      cases idle
    · rw [hb, other] at drain
      cases drain
  have direct {barrier : PendingBarrier} (deferring : t.deferringBarrier = some barrier) :
      False := by
    obtain ⟨hb, defers⟩ := deferringBarrier_eq_some.mp deferring
    cases barrier <;> first | exact unbarred hb rfl | cases defers
  have unemployed {source : TaskState} (state : t.state = source)
      (working : source.isWorking = true) : False := by
    rw [state, working] at unworking
    cases unworking
  cases step with
  | pauseDeferred deferring | resumeDeferred deferring => exact (direct deferring).elim
  | removeDeferred deferring =>
    obtain ⟨barrier, deferring⟩ := Option.isSome_iff_exists.mp deferring
    exact (direct deferring).elim
  -- controls of an idle or draining task leave the patch where it is
  | pauseDraining => exact .inl (h.kept rfl rfl (.inr (.inr rfl)))
  | pauseIdle | resume | sourceCommitted => exact .inl (h.kept rfl rfl (.inl rfl))
  | pauseRetry _ _ state => exact absurd state unretried
  | resumeProbing idle source blocked retains probes =>
    refine .inl (h.kept ?_ ?_ (.inl ?_)) <;> cases probes.reprobed <;> split <;> rfl
  | removeDraining | removeIdle => exact .inr (.inl rfl)
  | approveHostKey _ state => exact absurd state unchallenged
  | sourceDraining _ _ unpatched | sourceIdle _ _ unpatched =>
    rw [h.patch] at unpatched
    cases unpatched
  | patchInPlace idle | patchRestart idle | patchHostKey idle =>
    exact absurd rfl (spared idle _ _ _)
  | removeStopped _ _ state => simp [state, TaskState.isTerminal] at live
  -- the scan applies the patch before it may start the task
  | applyRestartPatch _ _ _ staged =>
    obtain rfl := Option.some.inj (staged.symm.trans h.patch)
    exact .inr (.inr ⟨_, mem_singleton_self _⟩)
  | admitted state row unstaged =>
    cases row with
    | waiting => exact absurd ⟨state, h.mode⟩ unstaged
    | retryWait => exact absurd state unretried
    | waitingSlow => exact absurd state unslowed
  -- the barriers of acknowledgements are neither absent nor drains
  | generationPersisted barrier | patchPersistedControl barrier | patchPersisted barrier
  | patchPersistenceFailed barrier | patchAppliedControl barrier | restartApplied barrier
  | restartFailed barrier | patchApplied barrier | hostKeyRemoved barrier
  | hostKeyResolved barrier | hostKeyUnresolved barrier | terminalPersisted barrier
  | deletionFailed barrier => exact (unbarred barrier rfl).elim
  -- no worker runs
  | advance state row | retryRetained state row | retryReleased state row | challenge state row
  | endWork state row => exact (unemployed state row.reports.working).elim
  | verificationRecoverable state | representationRestart state | noSpace state
  | terminalFailure state => exact (unemployed state rfl).elim
  | retryAdmitted state | retryBlocked state => exact absurd state unretried
  | slowAdmitted state | slowBlocked state => exact absurd state unslowed
  | slowDemoted state =>
    rcases state with state | state
    · exact (unemployed state rfl).elim
    · exact absurd state unslowed
  | slowPaused state =>
    rcases state with state | state
    · exact (unemployed state rfl).elim
    · exact absurd state unpausedSlow
  | restartQuiesced _ _ settles reprobes =>
    refine .inr (.inr ?_)
    cases settles with
    | idle plain => rcases plain with plain | plain | plain <;> cases plain
    | source replacing => exact absurd ((h.states inv).1.symm.trans replacing) (by decide)
    | patch _ staged =>
      obtain rfl := Option.some.inj (staged.symm.trans h.patch)
      exact ⟨_, reprobes.mem_effects mem_concat_self rfl⟩
  | @drained target _ _ _ _ _ _ barrier state moving settles reprobes =>
    have paused : target = .paused := by
      obtain ⟨-, found | ⟨idle, -⟩ | found⟩ := h.states inv
      · rw [state] at found
        cases target <;> first | rfl | cases found
      · rw [barrier] at idle
        cases idle
      · rw [state] at found
        cases target <;> first | exact absurd rfl moving | cases found
    subst paused
    cases settles with
    | idle =>
      refine .inl (h.kept ?_ ?_ (.inr (.inl ?_))) <;> cases reprobes.reprobed <;> rfl
  | probed _ _ _ reprobes =>
    refine .inl (h.kept ?_ ?_ (.inl ?_)) <;> cases reprobes.reprobed <;> rfl

theorem Drives.unstarted {u : ScheduledTask} (inv : u.Inv)
    (drives : Drives self t u cause (draft.effects.filter TransitionEffect.drives))
    (h : u.AwaitsRestart patchId ∨ u.state.isTerminal = true ∨
      ∃ satisfies, .applyOptionPatch t.taskId t.gid patchId satisfies ∈ draft.effects)
    (owner : TaskId) (gid : Gid) (generation : Generation) :
    .persistGenerationStarted owner gid generation ∉ draft.effects := by
  intro member
  have filtered {effect : TransitionEffect} (member : effect ∈ draft.effects)
      (driving : effect.drives = true) : effect ∈ draft.effects.filter TransitionEffect.drives :=
    mem_filter.mpr ⟨member, driving⟩
  have started := filtered member rfl
  generalize hdriven : draft.effects.filter TransitionEffect.drives = driven at drives filtered
  rw [hdriven] at started
  cases drives with
  | enters _ barrier =>
    rcases h with awaits | ended | ⟨satisfies, applied⟩
    · rcases awaits.barrier with idle | drain
      · rw [barrier] at idle
        cases idle
      · rw [barrier] at drain
        cases drain
    · have placed := inv.placed
      simp [barrier, PendingBarrier.admits] at placed
      simp [placed.1, TaskState.isTerminal] at ended
    · have applied := filtered applied rfl
      simp at applied
  | releases | quiesces =>
    unfold releaseEffects at started
    split at started <;> simp at started
  | _ => simp at started

/-- The acknowledgement that a restart patch is persisted leaves it waiting,
unless its task was removed meanwhile. -/
theorem TaskStep.awaitsRestart_of_persisted (inv : t.Inv)
    (step : TaskStep self gid t (.event (.optionPatchPersisted patchId)) action draft publish ids) :
    draft.task.AwaitsRestart patchId ∨ draft.task.state.isTerminal = true := by
  have staged := inv.staged
  cases step with
  | patchPersistedControl barrier row controls =>
    rw [barrier] at staged
    obtain ⟨patch, mode, -⟩ := staged
    cases row
    cases controls with
    | pauseDraining => exact .inl ⟨patch, mode, .inr rfl⟩
    | pauseIdle | resume => exact .inl ⟨patch, mode, .inl rfl⟩
    | removeDraining | removeIdle => exact .inr rfl
  | patchPersisted barrier =>
    rw [barrier] at staged
    obtain ⟨patch, mode, -⟩ := staged
    exact .inl ⟨patch, mode, .inr rfl⟩
  | patchAppliedControl _ row | patchApplied _ _ _ row
  | hostKeyRemoved _ row | advance _ row | retryRetained _ row
  | retryReleased _ row | challenge _ row | endWork _ row => cases row

end Step

/-! ## Along a run -/

namespace TransitionEffect

section

variable (taskId : TaskId) (patchId : OptionPatchId)

def stagesPatch : TransitionEffect → Bool
  | stageOptionPatch owner _ patch _ => owner = taskId ∧ patch = patchId
  | _ => false

def appliesPatch : TransitionEffect → Bool
  | applyOptionPatch owner _ patch _ => owner = taskId ∧ patch = patchId
  | _ => false

end

def startsGeneration (taskId : TaskId) : TransitionEffect → Bool
  | persistGenerationStarted owner _ _ => owner = taskId
  | _ => false

end TransitionEffect

/-- An outcome that is not the reply to an ignored event. -/
def SchedulerOutcome.isFresh (outcome : SchedulerOutcome) : Bool :=
  outcome.transition.any fun transition =>
    transition.reason ≠ .duplicateEventIgnored ∧ transition.reason ≠ .staleEventIgnored

namespace SchedulerStep

def emits (p : TransitionEffect → Bool) (step : SchedulerStep) : Bool :=
  (effects step).any p

/-- The step handles an event of a task as fresh. -/
def accepts (taskId : TaskId) (body : TaskEventBody) (step : SchedulerStep) : Bool :=
  match step.input, step.output with
  | .event envelope _, .ok outcome =>
    envelope.taskId = taskId ∧ envelope.event.body = body ∧ outcome.isFresh
  | _, _ => false

end SchedulerStep

namespace RequestScheduler

def hasEnded (self : RequestScheduler) (taskId : TaskId) : Bool :=
  (self.taskById taskId).any fun task => task.state.isTerminal

/-- A patch is accepted for an idle task whose restart patch waits to be applied. -/
def replacesRestartPatch (self : RequestScheduler) (input : SchedulerInput) : Bool :=
  match input with
  | .command (.applyOptionPatch gid _ _ _) _ =>
    (self.apply input).1.isOk && self.tasks[gid]?.any fun task =>
      task.pendingBarrier = none ∧ task.pendingOptionPatchMode = some .activeRestart
  | _ => false

end RequestScheduler

open TransitionEffect (stagesPatch appliesPatch startsGeneration)

/-- Whenever a staged restart patch was persisted and its task later starts a
generation, the patch has been applied in between, or the task has ended. -/
def RestartPatchesApplied (history : List SchedulerStep) : Prop :=
  ∀ (taskId : TaskId) (patchId : OptionPatchId) (earlier between later : List SchedulerStep)
    (persisted started : SchedulerStep),
    history = earlier ++ persisted :: (between ++ started :: later) →
    (∃ staged ∈ earlier, emits (stagesPatch taskId patchId) staged = true) →
    accepts taskId (.optionPatchPersisted patchId) persisted = true →
    emits (startsGeneration taskId) started = true →
    ∃ step ∈ persisted :: between,
      emits (appliesPatch taskId patchId) step = true ∨
        step.after.hasEnded taskId = true

section Run

variable {self : RequestScheduler} {input : SchedulerInput} {taskId : TaskId}
  {patchId : OptionPatchId}

/-- A valid scheduler in which the restart patch of a task waits to be applied. -/
structure RequestScheduler.AwaitsRestart (scheduler : RequestScheduler) (taskId : TaskId)
    (patchId : OptionPatchId) : Prop where
  valid : scheduler.Valid
  task : ∃ t, scheduler.taskById taskId = some t ∧ t.AwaitsRestart patchId

theorem ScheduledTask.passed_state (ordinary : Bool) (t : ScheduledTask) :
    (t.passed ordinary).state = t.state := by
  obtain ⟨position, h⟩ := t.passed_eq ordinary
  rw [h]

theorem ScheduledTask.AwaitsRestart.passed {t : ScheduledTask} (h : t.AwaitsRestart patchId)
    (ordinary : Bool) : (t.passed ordinary).AwaitsRestart patchId := by
  obtain ⟨position, passed⟩ := t.passed_eq ordinary
  rw [passed]
  exact ⟨h.patch, h.mode, h.barrier⟩

theorem SchedulerStep.change_of_accepts {body : TaskEventBody}
    (h : accepts taskId body (schedulerMachine.step self input) = true) :
    ∃ envelope instant outcome, input = .event envelope instant ∧ envelope.taskId = taskId ∧
      envelope.event.body = body ∧ Change self input outcome (self.apply input).2 := by
  have ends := self.apply_ends input
  unfold accepts at h
  simp only [step_input, step_output, schedulerMachine] at h
  generalize self.apply input = result at ends h
  split at h
  · next envelope instant outcome ok =>
    simp only [Bool.decide_and, Bool.and_eq_true, decide_eq_true_eq] at h
    obtain ⟨owner, body, fresh⟩ := h
    refine ⟨envelope, instant, outcome, rfl, owner, body, ?_⟩
    cases ends with
    | error => cases ok
    | quiet quiet =>
      obtain rfl := Except.ok.inj ok
      cases quiet with
      | noop => cases fresh
      | ignored reason =>
        simp only [SchedulerOutcome.isFresh, Option.any_some, decide_eq_true_eq] at fresh
        exact absurd reason (not_or.mpr fresh)
    | change change =>
      obtain rfl := Except.ok.inj ok
      exact change
  · cases h

theorem RequestScheduler.Valid.awaitsRestart_of_accepts (valid : self.Valid)
    (h : accepts taskId (.optionPatchPersisted patchId)
      (schedulerMachine.step self input) = true) :
    (self.apply input).2.AwaitsRestart taskId patchId ∨
      (self.apply input).2.hasEnded taskId = true := by
  obtain ⟨envelope, instant, outcome, rfl, rfl, body, change⟩ := change_of_accepts h
  have later := valid.apply (.event envelope instant)
  generalize (self.apply (.event envelope instant)).2 = after at change later
  cases change with
  | @step _ _ _ gid t _ draft _ _ _ ordinary stored reaches step commits =>
    cases reaches with
    | event _ _ fresh =>
      have replaced : Replaced self _ gid t draft.task ordinary :=
        commits.replaced (valid.indexed.keyed stored) step.same
      have found : (passing _ ordinary).taskById envelope.taskId = _ :=
        valid.indexed.taskById_replaced stored step.same replaced
      rw [if_pos fresh.owner.symm] at found
      rw [body] at step
      rcases step.awaitsRestart_of_persisted (valid.tasks gid t stored) with awaits | ended
      · exact .inl ⟨later, _, found, awaits.passed ordinary⟩
      · refine .inr ?_
        rw [hasEnded, found, Option.any_some, passed_state]
        exact ended
  | delete _ _ deleted =>
    rw [body] at deleted
    cases deleted

/-- A step that accepts no other patch applies a waiting patch, ends its task
or leaves it waiting, and starts no generation of the task. -/
theorem RequestScheduler.AwaitsRestart.step (h : self.AwaitsRestart taskId patchId)
    (spared : self.replacesRestartPatch input = false) :
    (emits (appliesPatch taskId patchId) (schedulerMachine.step self input) = true ∨
      (self.apply input).2.hasEnded taskId = true ∨
      (self.apply input).2.AwaitsRestart taskId patchId) ∧
    emits (startsGeneration taskId) (schedulerMachine.step self input) = false := by
  obtain ⟨t, found, awaits⟩ := h.task
  have inv := h.valid.tasks _ t (h.valid.indexed.taskById_eq_some.mp found).1
  have evolves := h.valid.evolves input taskId
  have later := h.valid.apply input
  cases accepted : (self.apply input).1 with
  | error =>
    have same : (self.apply input).2 = self := apply_of_error input (Prod.ext accepted rfl)
    have silent : effects (schedulerMachine.step self input) = [] := by
      simp [effects, schedulerMachine, accepted]
    rw [emits, emits, silent, same]
    exact ⟨.inr (.inr h), rfl⟩
  | ok =>
  unfold emits
  generalize effects (schedulerMachine.step self input) = effects at evolves ⊢
  generalize hafter : (self.apply input).2.taskById taskId = after at evolves
  rw [found] at evolves
  cases evolves with
  | other ordinary silent =>
    refine ⟨.inr (.inr ⟨later, _, hafter, awaits.passed ordinary⟩), ?_⟩
    rw [any_eq_false]
    intro effect member starts
    cases effect <;> first | cases starts | exact silent _ member (of_decide_eq_true starts)
  | @step cause _ gid t _ draft _ _ plan ordinary owner stored reaches step commits =>
    subst owner
    have unpatched (idle : t.pendingBarrier = none) (other : OptionPatchId)
        (kind : ValidatedOptionPatchKind) (satisfies : Option CredentialRequirementKey) :
        cause ≠ .command (.applyOptionPatch gid other kind satisfies) := by
      rintro rfl
      cases reaches
      simp [replacesRestartPatch, accepted, Except.isOk, Except.toBool, stored, idle,
        awaits.mode] at spared
    have outcome := step.awaitsRestart inv reaches.fresh awaits unpatched
    refine ⟨?_, ?_⟩
    · rcases outcome with awaits | ended | ⟨satisfies, applied⟩
      · exact .inr (.inr ⟨later, _, hafter, awaits.passed ordinary⟩)
      · refine .inr (.inl ?_)
        rw [hasEnded, hafter, Option.any_some, passed_state]
        exact ended
      · refine .inl (any_eq_true.mpr ⟨_, (commits.mem_effects rfl).mpr applied, ?_⟩)
        simp [appliesPatch]
    · rw [any_eq_false]
      intro effect member starts
      have unstarted := (step.drives inv reaches.fresh).unstarted
        (inv.step reaches.fresh step commits) outcome
      cases effect <;>
        first | cases starts | exact unstarted _ _ _ ((commits.mem_effects rfl).mp member)
  | delete _ state =>
    obtain ⟨-, live, -⟩ := awaits.live inv
    simp [state, TaskState.isTerminal] at live
  | reorder => exact ⟨.inr (.inr ⟨later, _, hafter, awaits⟩), rfl⟩

theorem RequestScheduler.AwaitsRestart.run {after : RequestScheduler}
    {history : List SchedulerStep} (h : self.AwaitsRestart taskId patchId)
    (run : schedulerMachine.Run self history after)
    (guarded : Machine.Guarded (fun before input => before.replacesRestartPatch input = false)
      history)
    (waiting : ∀ step ∈ history, ¬(emits (appliesPatch taskId patchId) step = true ∨
      step.after.hasEnded taskId = true)) : after.AwaitsRestart taskId patchId := by
  induction run with
  | nil => exact h
  | snoc _ _ ih =>
    obtain ⟨earlier, spared⟩ := guarded_snoc.mp guarded
    have awaits := ih earlier fun step member => waiting step (mem_append_left _ member)
    obtain ⟨unapplied, live⟩ := not_or.mp (waiting _ mem_concat_self)
    obtain ⟨applied | ended | awaits, -⟩ := awaits.step spared
    · exact absurd applied unapplied
    · exact absurd ended live
    · exact awaits

/-- In every run from an empty or a restored scheduler in which no patch is
accepted for an idle task whose restart patch waits, a persisted restart
patch is applied before its task starts another generation, or the task ends. -/
theorem restartPatchesApplied_of_run {start : RequestScheduler} {history : List SchedulerStep}
    (starts : start.Starts) (run : schedulerMachine.Run start history self)
    (guarded : Machine.Guarded (fun before input => before.replacesRestartPatch input = false)
      history) : RestartPatchesApplied history := by
  rintro taskId patchId earlier between later persisted started rfl - accepts enters
  obtain ⟨before, earlierRun, rest⟩ := run.split
  obtain ⟨same, rest⟩ := rest.uncons
  obtain ⟨reached, betweenRun, rest⟩ := rest.split
  obtain ⟨last, -⟩ := rest.uncons
  by_contra missed
  have waiting (step : SchedulerStep) (member : step ∈ persisted :: between) :
      ¬(emits (appliesPatch taskId patchId) step = true ∨
        step.after.hasEnded taskId = true) := fun found => missed ⟨step, member, found⟩
  have persistedAfter : persisted.after = (before.apply persisted.input).2 := by rw [same]; rfl
  have awaits : persisted.after.AwaitsRestart taskId patchId := by
    rw [same] at accepts
    rw [persistedAfter]
    refine ((valid_of_run starts earlierRun).awaitsRestart_of_accepts accepts).resolve_right ?_
    rw [← persistedAfter]
    exact fun ended => waiting persisted mem_cons_self (.inr ended)
  have reaches : reached.AwaitsRestart taskId patchId := by
    refine awaits.run betweenRun (fun step member => guarded step ?_) fun step member =>
      waiting step (mem_cons_of_mem _ member)
    simp [member]
  have spared : reached.replacesRestartPatch started.input = false := by
    have spared := guarded started (by simp)
    rwa [last] at spared
  obtain ⟨-, unstarted⟩ := reaches.step spared
  rw [last, unstarted] at enters
  cases enters

end Run

/-- A restart patch is staged for an active task. -/
def stagedPatch : List SchedulerInput :=
  Script.activate ++
    [Script.execute (.applyOptionPatch Script.gid Script.patchId .activeRestart none)]

/-- The staged patch is persisted, the worker drained and the patch applied,
and the task admitted again. -/
def appliedPatch : List SchedulerInput :=
  stagedPatch ++ [Script.report (.optionPatchPersisted Script.patchId),
    Script.report .cancellationDrained, Script.report (.optionPatchApplied Script.patchId),
    Script.admitNext]

/-- The task that restarts with its patch has had it applied. -/
theorem restartPatchesApplied_of_restart :
    RestartPatchesApplied (schedulerMachine.trace (.new (Script.config true)) appliedPatch) ∧
      ((schedulerMachine.trace (.new (Script.config true)) appliedPatch).getLast?.map
        (emits (startsGeneration Script.taskId))) = some true :=
  ⟨restartPatchesApplied_of_run (.new _) (Machine.run_trace _ _)
    (by unfold Machine.Guarded; decide), by decide⟩

/-- The task is paused while it drains, a second patch is applied in place,
and the task is resumed. -/
def replacedPatch : List SchedulerInput :=
  [Script.execute (.pause Script.gid false), Script.report .cancellationDrained,
    Script.execute (.applyOptionPatch Script.gid Script.nextPatchId .inPlace none),
    Script.report (.optionPatchApplied Script.nextPatchId), Script.execute (.resume Script.gid)]

/-- The task then starts a generation for which the first patch was never applied. -/
theorem replacedPatch_is_lost : ∃ start history self,
    RequestScheduler.Starts start ∧ schedulerMachine.Run start history self ∧
      ¬RestartPatchesApplied history := by
  refine ⟨.new (Script.config true), _, _, .new _, run_trace _ (stagedPatch ++
    Script.report (.optionPatchPersisted Script.patchId) :: (replacedPatch ++ [Script.admitNext])),
    fun applied => ?_⟩
  have missed : ∀ step ∈ schedulerMachine.trace
      (schedulerMachine.final (.new (Script.config true)) stagedPatch)
      (Script.report (.optionPatchPersisted Script.patchId) :: replacedPatch),
      (emits (appliesPatch Script.taskId Script.patchId) step ||
        step.after.hasEnded Script.taskId) = false := by decide
  rw [trace_append, trace, trace_append] at applied
  obtain ⟨step, member, found⟩ := applied Script.taskId Script.patchId _ _ _ _ _ rfl
    (by decide) (by decide) (by decide)
  have unfound := missed step member
  rw [Bool.or_eq_false_iff] at unfound
  rcases found with found | found
  · exact Bool.false_ne_true (unfound.1.symm.trans found)
  · exact Bool.false_ne_true (unfound.2.symm.trans found)

end Ariax
