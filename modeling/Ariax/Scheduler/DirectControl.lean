import Ariax.Scheduler.Deferral

/-!
# Controls of tasks that rest

A pause or a resume of a live task that no barrier blocks is evaluated here.
The pause always commits. The resume probes the disk where it lacks space, and
it readmits the paused and the demoted; where neither applies it changes nothing.
-/

namespace Ariax

open ScheduledTask

open RequestScheduler (patchApplicationDraft)

variable {self : RequestScheduler} {t u : ScheduledTask} {patchId : OptionPatchId}
  {force : Bool} (instant : MonotonicInstant)

structure ScheduledTask.Rests (u : ScheduledTask) : Prop where
  barrier : u.pendingBarrier = none
  live : u.state.isTerminal = false
  accepted : u.state ≠ .accepted
  moving : u.state ≠ .pausedRestarting
  source : u.pendingSourceReplacement = false

theorem ScheduledTask.AppliesInPlace.rests (waits : t.AppliesInPlace patchId) (inv : t.Inv) :
    (patchApplicationDraft t patchId true).task.Rests :=
  have ⟨live, accepted, moving⟩ := waits.states inv
  ⟨rfl, live, accepted, moving, (waits.requirement inv).2.1⟩

theorem ScheduledTask.Rests.undeferred (rests : u.Rests) : u.deferringBarrier = none := by
  unfold deferringBarrier
  rw [rests.barrier]
  rfl

theorem ScheduledTask.Rests.unended (rests : u.Rests) (generation : Generation)
    (status : Aria2Status) : u.pendingBarrier ≠ some (.terminalPersistence generation status) := by
  rw [rests.barrier]
  rintro ⟨⟩

def RequestScheduler.controlView (self : RequestScheduler) (gid : Gid) : Option ControlView :=
  self.tasks[gid]?.map ScheduledTask.controlView

theorem Performs.controlView {input : SchedulerInput} {ids : IdCounters} {gid : Gid}
    (h : Performs self input u ids) (same : u.gid = gid) :
    (self.apply input).2.controlView gid = some u.controlView := by
  rw [RequestScheduler.controlView, ← same, h.stored]
  rfl

/-! ## Pause -/

def ScheduledTask.pausedView (u : ScheduledTask) : ControlView where
  state := u.state.afterPause
  desiredPaused := true
  conditions := u.conditions
  probing := u.noSpaceProbe.isSome
  retrying := false
  applying := false

/-- The draft of a pause: a worker is drained, and a retry gives up its slot. -/
def ScheduledTask.pauseDraft (u : ScheduledTask) (force : Bool) : Draft :=
  let draft := { u with desiredPaused := true }.draft.cancelTimers
  if u.needsDrain then
    draft.awaitDrain .paused force [.cancelGeneration u.taskId u.gid u.generation force]
  else if u.state = .retryWait then
    draft.releaseSlot
  else
    draft

theorem pause_row (live : u.state.isTerminal = false) :
    ContractAllows u.state .pause u.state.afterPause := by
  cases hs : u.state <;>
    first | exact ⟨.inl rfl, rfl⟩ | exact ⟨.inr rfl, rfl⟩ | simp_all [TaskState.isTerminal]

theorem pauseDraft_ready (inv : u.Inv) (rests : u.Rests) :
    Draft.Ready self u .pause ((u.pauseDraft force).setState u.state.afterPause) true := by
  have row := pause_row rests.live
  obtain ⟨live', shown, retains⟩ := afterPause_facts rests.live
  have timers := length_cancelTimers { u with desiredPaused := true }.draft
  have none : ({ u with desiredPaused := true }.draft).effects.length = 0 := rfl
  have release : u.releaseEffects.length ≤ 1 := by
    unfold releaseEffects
    split <;> simp
  have conditions (blocked : u.conditions.blocksAdmission = true) :
      u.state.afterPause.retainsConditions = true := by
    refine retains fun challenged => ?_
    have retained := inv.retains rests.live blocked
    rw [challenged] at retained
    cases retained
  unfold pauseDraft
  split_ifs
  · refine .of_live inv rests.live row live' ⟨rfl, rfl⟩ rfl shown conditions
      (fun _ _ => by rintro ⟨⟩) ?_
    simp only [Draft.setState, Draft.awaitDrain, List.length_append, List.length_singleton,
      maxSchedulerEffects]
    omega
  · refine .of_live inv rests.live row live' ⟨rfl, rfl⟩ rfl shown conditions rests.unended ?_
    have slot : ({ u with desiredPaused := true }.draft).cancelTimers.task.releaseEffects =
      u.releaseEffects := rfl
    simp only [Draft.setState, Draft.releaseSlot, List.length_append, maxSchedulerEffects, slot]
    omega
  · refine .of_live inv rests.live row live' ⟨rfl, rfl⟩ rfl shown conditions rests.unended ?_
    simp only [Draft.setState, maxSchedulerEffects]
    omega

theorem pause_performs (force : Bool) (valid : self.ValidTimed)
    (stored : self.tasks[u.gid]? = some u) (rests : u.Rests) :
    Performs self (.command (.pause u.gid force) instant)
      ((u.pauseDraft force).setState u.state.afterPause).task self.ids := by
  have inv := valid.valid.tasks _ u stored
  have row := pause_row rests.live
  refine (pauseDraft_ready inv rests).performs valid stored instant ?_
  change RequestScheduler.perform self (RequestScheduler.pause self u.gid force instant) = _
  simp only [RequestScheduler.pause, RequestScheduler.taskClone_eq_ok.mpr stored, Except.ok_bind,
    rests.undeferred, row.accepts.2, if_false, targetState_eq_ok.mpr row.target]
  unfold pauseDraft
  by_cases drains : u.needsDrain = true
  · rw [if_pos drains, if_pos drains, Draft.beginCancellation_of_none rests.barrier]
    rfl
  · rw [if_neg drains, if_neg drains]
    by_cases retries : u.state = .retryWait
    · rw [if_pos retries, if_pos retries]
      rfl
    · rw [if_neg retries, if_neg retries]
      split
      · next held => cases rests.barrier.symm.trans held
      · rfl

theorem pauseDraft_facts (rests : u.Rests) :
    ((u.pauseDraft force).setState u.state.afterPause).task.gid = u.gid ∧
      ((u.pauseDraft force).setState u.state.afterPause).task.controlView = u.pausedView := by
  have applied : (RequestScheduler.expectedPatchApplication u).isSome = false := by
    rw [RequestScheduler.expectedPatchApplication, rests.barrier]
    rfl
  unfold pauseDraft
  split_ifs
  · exact ⟨rfl, rfl⟩
  all_goals exact ⟨rfl, congrArg (ControlView.mk _ _ _ _ _) applied⟩

/-! ## Resume -/

section

variable (u : ScheduledTask)

/-- The state in which a task asks for disk space. -/
def ScheduledTask.probingState : TaskState :=
  if u.isSlow then .waiting else u.state

/-- What a resume leaves: without disk space it asks for a probe, and it
readmits the paused and the demoted. -/
def ScheduledTask.resumedView (ids : IdCounters) : ControlView :=
  if u.conditions.noSpace.isSome then
    if u.noSpaceProbe.isSome && !u.desiredPaused && !u.isSlow then
      u.controlView
    else if !u.noSpaceProbe.isSome && !ids.drawNoSpaceProbe.isOk then
      u.controlView
    else
      { u.controlView with
        state := u.probingState
        desiredPaused := false
        probing := true }
  else
    match u.state with
    | .waitingSlow | .paused | .pausedSlow =>
      { u.controlView with state := .waiting, desiredPaused := false }
    | _ => u.controlView

/-- The draft of a resume that asks for disk space, before the probe. -/
def ScheduledTask.probeDraft (target : TaskState) : Draft :=
  let draft := { u with desiredPaused := false, state := target }.draft
  if u.isSlow then
    let draft := draft.cancelSlowReadmission
    { draft with
      task := { draft.task with slowDemotionCount := 0, pendingSlowReadmission := none } }
  else
    draft

/-- The draft of a resume that readmits the task. -/
def ScheduledTask.resumeDraft : Draft :=
  { u with
    desiredPaused := false
    slowDemotionCount := if u.isSlow then 0 else u.slowDemotionCount
    state := .waiting }.draft.cancelSlowReadmission

end

theorem probe_row (retains : u.state.retainsConditions = true) :
    ContractAllows u.state .explicitNoSpaceProbeRequested u.probingState := by
  unfold probingState isSlow
  cases hs : u.state <;>
    first | exact ⟨.inl rfl, rfl⟩ | exact ⟨.inr rfl, rfl⟩ | simp_all [TaskState.retainsConditions]

theorem resume_row (live : u.state.isTerminal = false) (accepted : u.state ≠ .accepted)
    (moving : u.state ≠ .pausedRestarting) :
    (u.isSlow = true ∨ u.state = .paused) ∧ ContractAllows u.state .resume .waiting ∨
      (u.isSlow = false ∧ u.state ≠ .paused) ∧
        ((transitionContract u.state .resume).kind = .noOp ∨
          actionTarget u.state .resume = none) := by
  unfold isSlow
  cases hs : u.state <;> simp_all [TaskState.isTerminal] <;> first | exact ⟨.inl rfl, rfl⟩ | decide

theorem forResume_eq (inv : u.Inv) (live : u.state.isTerminal = false) :
    SchedulerAction.forResume u.state u.conditions.snapshot =
      if u.conditions.noSpace.isSome then .explicitNoSpaceProbeRequested else .resume := by
  unfold SchedulerAction.forResume
  by_cases short : u.conditions.noSpace.isSome = true
  · have blocked : u.conditions.blocksAdmission = true := by
      simp [TaskConditions.blocksAdmission, short]
    simp [TaskConditions.snapshot, short, inv.retains live blocked]
  · simp [TaskConditions.snapshot, short]

/-- A resume of a task that rests, once its source is known not to be replaced. -/
theorem planResume_of_rests (stored : self.tasks[u.gid]? = some u) (rests : u.Rests)
    (instant : MonotonicInstant) :
    self.resume u.gid instant = (do
      let action := SchedulerAction.forResume u.state u.conditions.snapshot
      if (transitionContract u.state action).kind = .noOp then
        return .reply .noop
      let target ← u.targetState action
      if action = .explicitNoSpaceProbeRequested then
        self.resumeWithProbe u target instant
      else
        let draft := { u with
          desiredPaused := false
          slowDemotionCount := if u.isSlow then 0 else u.slowDemotionCount
          state := target }.draft
        return draft.cancelSlowReadmission.finish u action instant true self.ids) := by
  have unblocked : u.rejectPending "resume" = .ok () := by
    unfold rejectPending
    rw [rests.barrier]
  simp only [RequestScheduler.resume, RequestScheduler.taskClone_eq_ok.mpr stored, Except.ok_bind,
    rests.undeferred, rests.source, rejectIf, unblocked]
  rfl

theorem controlView_stored (stored : self.tasks[u.gid]? = some u) :
    self.controlView u.gid = some u.controlView := by
  rw [RequestScheduler.controlView, stored]
  rfl

theorem resumeDraft_ready (inv : u.Inv) (rests : u.Rests)
    (readmits : u.isSlow = true ∨ u.state = .paused)
    (row : ContractAllows u.state .resume .waiting) :
    Draft.Ready self u .resume u.resumeDraft true := by
  refine .of_live inv rests.live row rfl ⟨rfl, rfl⟩ rfl ?_ (fun _ => rfl) rests.unended ?_
  · refine iff_of_false (by rintro ⟨⟩) fun shown => ?_
    rw [isSlow, shown] at readmits
    simp at readmits
  · have few := length_cancelSlowReadmission { u with
      desiredPaused := false
      slowDemotionCount := if u.isSlow then 0 else u.slowDemotionCount
      state := .waiting }.draft
    exact le_trans (Nat.add_le_add_right few 2) (show 0 + 1 + 2 ≤ 8 by decide)

theorem probeDraft_facts (target : TaskState) : (u.probeDraft target).task.gid = u.gid ∧
      (u.probeDraft target).task.noSpaceProbe = u.noSpaceProbe ∧
      (u.probeDraft target).task.conditions = u.conditions ∧
      (u.probeDraft target).task.controlView =
        { u.controlView with state := target, desiredPaused := false } := by
  unfold probeDraft
  split_ifs <;> exact ⟨rfl, rfl, rfl, rfl⟩

/-- The draft of a resume without disk space is ready, with or without a new probe. -/
theorem probeDraft_ready (inv : u.Inv) (rests : u.Rests) (retains : u.state.retainsConditions =
      true) (probe : Option (NoSpaceProbeId × NoSpaceProbeOrigin))
    (effects : List TransitionEffect) (few : effects.length ≤ 1) :
    Draft.Ready self u .explicitNoSpaceProbeRequested
      ⟨{ (u.probeDraft u.probingState).task with noSpaceProbe := probe },
        (u.probeDraft u.probingState).effects ++ effects⟩ true := by
  have row := probe_row retains
  have cancels := length_cancelSlowReadmissionEffects u
  unfold probingState at row
  unfold probeDraft probingState
  split_ifs with slow
  · rw [if_pos slow] at row
    refine .of_live inv rests.live row rfl ⟨rfl, rfl⟩ rfl (iff_of_false (by rintro ⟨⟩) ?_)
      (fun _ => rfl) rests.unended ?_
    · intro shown
      rw [shown] at retains
      cases retains
    · change ([] ++ u.cancelSlowReadmissionEffects ++ effects).length + 2 ≤ 8
      simp only [List.length_append, List.length_nil]
      omega
  · rw [if_neg slow] at row
    refine .of_live inv rests.live row rests.live ⟨rfl, rfl⟩ rfl .rfl (fun _ => retains)
      rests.unended ?_
    simp only [draft, List.nil_append, maxSchedulerEffects]
    omega

theorem planResume_of_noSpace (inv : u.Inv) (stored : self.tasks[u.gid]? = some u)
    (rests : u.Rests) (short : u.conditions.noSpace.isSome = true)
    (retains : u.state.retainsConditions = true) (instant : MonotonicInstant) :
    self.resume u.gid instant =
      if u.noSpaceProbe.isSome && !u.desiredPaused && !u.isSlow then
        .ok (.reply .noop)
      else do
        let (draft, ids) ← (u.probeDraft u.probingState).scheduleNoSpaceProbe .explicitResume
          instant self.ids
        return draft.finish u .explicitNoSpaceProbeRequested instant true ids := by
  have row := probe_row retains
  rw [planResume_of_rests stored rests instant, forResume_eq inv rests.live, if_pos short]
  simp only [row.accepts.2, if_false, if_true, targetState_eq_ok.mpr row.target,
    Except.ok_bind, RequestScheduler.resumeWithProbe]
  rfl

variable (valid : self.ValidTimed) (stored : self.tasks[u.gid]? = some u) (rests : u.Rests)
include valid stored rests

theorem resume_controlView (spacious : u.conditions.noSpace.isSome = false) :
    (self.apply (.command (.resume u.gid) instant)).2.controlView u.gid =
      some (u.resumedView self.ids) := by
  have inv := valid.valid.tasks _ u stored
  have plan := planResume_of_rests stored rests instant
  rw [forResume_eq inv rests.live, spacious] at plan
  simp only [Bool.false_eq_true, if_false] at plan
  unfold resumedView
  rcases resume_row rests.live rests.accepted rests.moving with
    ⟨readmits, row⟩ | ⟨⟨quick, unpaused⟩, rejected⟩
  · have performs : Performs self (.command (.resume u.gid) instant) u.resumeDraft.task
        self.ids := by
      refine (resumeDraft_ready inv rests readmits row).performs valid stored instant ?_
      change self.perform (self.resume u.gid instant) = _
      rw [plan]
      simp only [row.accepts.2, if_false, targetState_eq_ok.mpr row.target]
      rfl
    refine (performs.controlView rfl).trans ?_
    rw [isSlow] at readmits
    cases hs : u.state <;> simp_all <;> rfl
  · have unchanged : (self.perform (self.resume u.gid instant)).2 = self := by
      rw [plan]
      rcases rejected with kind | target
      · rw [if_pos kind]
        rfl
      · obtain ⟨error, target⟩ := targetState_eq_error target
        rw [target]
        split_ifs <;> rfl
    change (self.perform (self.resume u.gid instant)).2.controlView u.gid = _
    rw [unchanged, controlView_stored stored]
    rw [isSlow] at quick
    cases hs : u.state <;> simp_all

theorem resume_controlView_of_noSpace (short : u.conditions.noSpace.isSome = true) :
    (self.apply (.command (.resume u.gid) instant)).2.controlView u.gid =
      some (u.resumedView self.ids) := by
  have inv := valid.valid.tasks _ u stored
  have retains := inv.retains rests.live (by simp [TaskConditions.blocksAdmission, short])
  have plan := planResume_of_noSpace inv stored rests short retains instant
  have ready (probe : Option (NoSpaceProbeId × NoSpaceProbeOrigin))
      (effects : List TransitionEffect) (few : effects.length ≤ 1) :=
    @probeDraft_ready self u inv rests retains probe effects few
  obtain ⟨gid, probe, conditions, view⟩ := probeDraft_facts u.probingState (u := u)
  have unchanged (h : (self.perform (self.resume u.gid instant)).2 = self) :
      (self.apply (.command (.resume u.gid) instant)).2.controlView u.gid = some u.controlView := by
    change (self.perform (self.resume u.gid instant)).2.controlView u.gid = _
    rw [h, controlView_stored stored]
  unfold resumedView
  rw [if_pos short]
  by_cases asked : (u.noSpaceProbe.isSome && !u.desiredPaused && !u.isSlow) = true
  · rw [if_pos asked] at plan ⊢
    refine unchanged ?_
    rw [plan]
    rfl
  rw [if_neg asked] at plan ⊢
  unfold Draft.scheduleNoSpaceProbe at plan
  rw [probe, conditions] at plan
  cases held : u.noSpaceProbe with
  | some =>
    rw [held] at plan
    have performs : Performs self (.command (.resume u.gid) instant)
        (u.probeDraft u.probingState).task self.ids := by
      have ready := ready u.noSpaceProbe [] (by simp)
      rw [← probe, List.append_nil] at ready
      refine ready.performs valid stored instant ?_
      change self.perform (self.resume u.gid instant) = _
      rw [plan]
      rfl
    rw [performs.controlView gid, view]
    simp [controlView, held]
  | none =>
    rw [held] at plan
    simp only [Option.isSome_none, Bool.false_eq_true, if_false, Option.isNone_iff_eq_none,
      Option.isSome_iff_ne_none.mp short] at plan
    cases drawn : self.ids.drawNoSpaceProbe with
    | error =>
      refine unchanged ?_
      rw [plan, drawn]
      rfl
    | ok drawing =>
      obtain ⟨probeId, ids⟩ := drawing
      have performs : Performs self (.command (.resume u.gid) instant)
          ((u.probeDraft u.probingState).awaitProbe probeId .explicitResume instant).task ids := by
        refine (ready (some (probeId, .explicitResume)) [.probeNoSpace _ _ _ probeId
          .explicitResume instant] (by simp)).performs valid stored instant ?_
        change self.perform (self.resume u.gid instant) = _
        rw [plan, drawn]
        rfl
      have awaiting : ((u.probeDraft u.probingState).awaitProbe probeId .explicitResume
          instant).task.controlView =
          { (u.probeDraft u.probingState).task.controlView with probing := true } := rfl
      rw [performs.controlView gid, awaiting, view]
      rfl

theorem resume_of_rests : (self.apply (.command (.resume u.gid) instant)).2.controlView u.gid =
      some (u.resumedView self.ids) := by
  cases short : u.conditions.noSpace.isSome with
  | false => exact resume_controlView instant valid stored rests short
  | true => exact resume_controlView_of_noSpace instant valid stored rests short

end Ariax
