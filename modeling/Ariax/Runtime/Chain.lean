import Ariax.Runtime.Polls

/-!
# Chains of outcomes

An accepted input opens a chain: its own outcome, and after it the outcomes
of the acknowledgements that the sink returns on the way, in the order in
which it returns them. A restore chain also contains the batches of its plan.
The sink is observed through a record of what it has accepted and returned.
-/

namespace Ariax

open EffectCompletion List SchedulerDriver SchedulerEffectSink SchedulerRestorePlan

/-! ## The record of a sink -/

def EffectCompletion.acknowledgement : EffectCompletion → Option TaskEventEnvelope
  | completed _ acknowledgement => acknowledgement
  | unrepresentableFailure _ => none

def Poll.accepts : Poll (Except EffectSinkError Unit) → Bool
  | ready (.ok ()) => true
  | _ => false

/-- A sink together with a record of what it has accepted and returned. -/
structure Recording (σ : Type) where
  sink : σ
  accepted : List DispatchedEffect
  returned : List EffectCompletion

namespace Recording

variable {σ : Type} {record record' : Recording σ} {offered : DispatchedEffect}

def acknowledgements (record : Recording σ) : List TaskEventEnvelope :=
  record.returned.filterMap acknowledgement

variable [SchedulerEffectSink σ]

instance : SchedulerEffectSink (Recording σ) where
  pollDispatch effect record :=
    ((pollDispatch effect record.sink).1, { record with
      sink := (pollDispatch effect record.sink).2
      accepted := record.accepted ++
        if (pollDispatch effect record.sink).1.accepts then [effect] else [] })
  pollCompletion record :=
    ((pollCompletion record.sink).1, { record with
      sink := (pollCompletion record.sink).2
      returned := record.returned ++
        match (pollCompletion record.sink).1 with
        | .pending => []
        | .ready completion => [completion] })

theorem accepted_of_dispatch {result : Poll (Except EffectSinkError Unit)}
    (h : pollDispatch offered record = (result, record')) :
    record'.accepted = record.accepted ++ (if result.accepts then [offered] else []) ∧
      record'.returned = record.returned := by
  cases h
  exact ⟨rfl, rfl⟩

theorem returned_of_pending (h : pollCompletion record = (.pending, record')) :
    record'.accepted = record.accepted ∧ record'.returned = record.returned := by
  obtain ⟨pending, rfl⟩ := Prod.mk.inj h
  refine ⟨rfl, ?_⟩
  have none : (pollCompletion record.sink).1 = .pending := pending
  simp [none]

variable {completion : EffectCompletion} (h : pollCompletion record = (.ready completion, record'))
include h

theorem returned_of_ready :
    record'.accepted = record.accepted ∧ record'.returned = record.returned ++ [completion] := by
  obtain ⟨ready, rfl⟩ := Prod.mk.inj h
  refine ⟨rfl, ?_⟩
  have some : (pollCompletion record.sink).1 = .ready completion := ready
  simp [some]

theorem acknowledgements_of_ready :
    record'.acknowledgements = record.acknowledgements ++ completion.acknowledgement.toList := by
  rw [acknowledgements, (returned_of_ready h).2, filterMap_snoc]
  rfl

end Recording

/-! ## What a driver holds -/

namespace SchedulerOutcome

def dispatched (outcome : SchedulerOutcome) : List TransitionEffect :=
  outcome.effects.filter TransitionEffect.isDispatched

end SchedulerOutcome

namespace SchedulerDriver

variable {σ : Type}

def unaccepted (self : SchedulerDriver σ) : List TransitionEffect :=
  match self.pending with
  | none => []
  | some pending =>
    (pending.outcome.effects.drop
      (if self.inFlight.isSome then pending.nextEffect + 1 else pending.nextEffect)).filter
        TransitionEffect.isDispatched

/-- An unfaulted driver: an effect that is offered or in flight is the next of
the pending outcome, and every accepted effect but the one in flight has
completed, in order. -/
structure Driven (driver : SchedulerDriver (Recording σ)) : Prop where
  flight : ∀ effect, driver.inFlight = some effect →
    driver.Owes effect.effect ∧ effect.effect.isDispatched = true ∧ driver.offered = none
  offer : ∀ effect, driver.offered = some effect →
    driver.Owes effect.effect ∧ effect.effect.isDispatched = true
  settled : driver.pending = none → driver.acknowledgements = [] ∧ driver.restorePlan = none
  completed : driver.sink.returned.map dispatchId ++
    driver.inFlight.toList.map DispatchedEffect.dispatchId =
      driver.sink.accepted.map DispatchedEffect.dispatchId

variable {self after : SchedulerDriver (Recording σ)} {instant : MonotonicInstant}

theorem Owes.isSome {effect : TransitionEffect} (owes : self.Owes effect) :
    self.pending ≠ none := by
  obtain ⟨pending, last, -⟩ := owes
  simp [last]

theorem Driven.offers (driven : self.Driven) {offered : DispatchedEffect}
    (offers : self.Offers offered) :
    self.Owes offered.effect ∧ offered.effect.isDispatched = true := by
  rcases offers with held | ⟨-, fresh⟩
  · exact driven.offer offered held
  · exact fresh

/-- A driver with nothing at the sink stays in order as long as it hands
nothing to it. -/
theorem Driven.quiet (driven : self.Driven) (earlier : self.inFlight = none)
    {driver : SchedulerDriver (Recording σ)} (landed : driver.inFlight = none)
    (unoffered : driver.offered = none) (sink : driver.sink = self.sink)
    (settled : driver.pending = none →
      driver.acknowledgements = [] ∧ driver.restorePlan = none) : driver.Driven := by
  refine ⟨by simp [landed], by simp [unoffered], settled, ?_⟩
  have completed := driven.completed
  rw [earlier] at completed
  rw [sink, landed]
  exact completed

theorem Driven.polls [SchedulerEffectSink σ] (driven : self.Driven)
    (polls : self.Polls instant after) (running : after.fault = none) : after.Driven := by
  cases polls with
  | halted | idle => exact driven
  | waited _ _ polled =>
    obtain ⟨accepted, returned⟩ := Recording.returned_of_pending polled
    refine ⟨driven.flight, driven.offer, driven.settled, ?_⟩
    rw [accepted, returned]
    exact driven.completed
  | completed _ flight polled =>
    obtain ⟨accepted, returned⟩ := Recording.returned_of_ready polled
    obtain ⟨owes, -, unoffered⟩ := driven.flight _ flight
    refine ⟨by simp [advanceEffectCursor], by simp [advanceEffectCursor, unoffered],
      fun done => absurd (Option.map_eq_none_iff.mp done) owes.isSome, ?_⟩
    have completed := driven.completed
    simp only [advanceEffectCursor]
    rw [accepted, returned, ← completed, flight]
    simp [dispatchId]
  | uncompleted | refused | stuck | broken | unpublished => cases running
  | held _ landed offers polled =>
    obtain ⟨accepted, returned⟩ := Recording.accepted_of_dispatch polled
    obtain ⟨owes, dispatched⟩ := driven.offers offers
    refine ⟨by simp [landed], ?_, fun done => absurd done owes.isSome, ?_⟩
    · rintro effect ⟨⟩
      exact ⟨owes, dispatched⟩
    · rw [accepted, returned]
      simpa [Poll.accepts] using driven.completed
  | taken _ landed offers polled =>
    obtain ⟨accepted, returned⟩ := Recording.accepted_of_dispatch polled
    obtain ⟨owes, dispatched⟩ := driven.offers offers
    refine ⟨?_, by simp, fun done => absurd done owes.isSome, ?_⟩
    · rintro effect ⟨⟩
      exact ⟨owes, dispatched, rfl⟩
    · have completed := driven.completed
      rw [landed] at completed
      rw [accepted, returned]
      simpa [Poll.accepts] using completed
  | staged _ landed unoffered owes =>
    exact ⟨by simp [advanceEffectCursor, landed], by simp [advanceEffectCursor, unoffered],
      fun done => absurd (Option.map_eq_none_iff.mp done) owes.isSome, driven.completed⟩
  | finished exhausted _ answered =>
    exact driven.quiet exhausted.landed exhausted.landed exhausted.unoffered rfl
      fun _ => ⟨answered, rfl⟩
  | restored exhausted | acknowledged exhausted =>
    exact driven.quiet exhausted.landed exhausted.landed exhausted.unoffered rfl (by simp)
  | published exhausted =>
    exact driven.quiet exhausted.landed exhausted.landed exhausted.unoffered rfl driven.settled

end SchedulerDriver

/-! ## The chain -/

/-- What an outcome of a chain, other than the first, answers. -/
inductive Link where
  | acknowledgement (envelope : TaskEventEnvelope)
  | batch (effects : List TransitionEffect)

namespace Link

def acknowledgement? : Link → Option TaskEventEnvelope
  | acknowledgement envelope => some envelope
  | batch _ => none

def effects : Link → List TransitionEffect
  | acknowledgement _ => []
  | batch effects => effects

end Link

/-- The outcomes that the links of a chain have, one after the other, and the
scheduler that they leave. -/
inductive Follows (opened : RequestScheduler) :
    List Link → List SchedulerOutcome → RequestScheduler → Prop
  | nil : Follows opened [] [] opened
  | acknowledged {links : List Link} {outcomes : List SchedulerOutcome}
      {scheduler next : RequestScheduler} {acknowledgement : TaskEventEnvelope}
      {instant : MonotonicInstant} {outcome : SchedulerOutcome}
      (earlier : Follows opened links outcomes scheduler)
      (handled : scheduler.handleEventAt acknowledgement instant = (.ok outcome, next)) :
      Follows opened (links ++ [.acknowledgement acknowledgement]) (outcomes ++ [outcome]) next
  | restored {links : List Link} {outcomes : List SchedulerOutcome} {scheduler : RequestScheduler}
      {effects : List TransitionEffect} (earlier : Follows opened links outcomes scheduler)
      (remaining : effects ≠ []) :
      Follows opened (links ++ [.batch effects]) (outcomes ++ [⟨none, none, effects⟩]) scheduler

/-- Where a chain begins: with an outcome of the scheduler, with the effects
that a restore has yet to dispatch, and with what the sink has done before. -/
structure Opening (σ : Type) where
  scheduler : RequestScheduler
  first : SchedulerOutcome
  rest : List TransitionEffect
  record : Recording σ

namespace Opening

variable {σ : Type}

/-- What the sink accepts up to the end of the given outcomes. -/
def dispatch (opening : Opening σ) (outcomes : List SchedulerOutcome) : List TransitionEffect :=
  opening.record.accepted.map DispatchedEffect.effect ++
    (opening.first :: outcomes).flatMap SchedulerOutcome.dispatched

theorem dispatch_append (opening : Opening σ) (outcomes : List SchedulerOutcome)
    (outcome : SchedulerOutcome) :
    opening.dispatch (outcomes ++ [outcome]) = opening.dispatch outcomes ++ outcome.dispatched := by
  simp [dispatch]

end Opening

structure Chained {σ : Type} (opening : Opening σ) (links : List Link)
    (outcomes : List SchedulerOutcome) (driver : SchedulerDriver (Recording σ)) : Prop where
  follows : Follows opening.scheduler links outcomes driver.scheduler
  order : driver.sink.accepted.map DispatchedEffect.effect <+: opening.dispatch outcomes
  applied : opening.record.acknowledgements ++ links.filterMap Link.acknowledgement? <+:
    driver.sink.acknowledgements
  batches : links.flatMap Link.effects <+: opening.rest

/-- A driver in the middle of a chain that has not faulted. -/
structure Chained.Running {σ : Type} (opening : Opening σ) (links : List Link)
    (outcomes : List SchedulerOutcome) (driver : SchedulerDriver (Recording σ)) : Prop where
  follows : Follows opening.scheduler links outcomes driver.scheduler
  order : driver.sink.accepted.map DispatchedEffect.effect ++ driver.unaccepted =
    opening.dispatch outcomes
  applied : opening.record.acknowledgements ++ links.filterMap Link.acknowledgement? ++
    driver.acknowledgements = driver.sink.acknowledgements
  batches : links.flatMap Link.effects ++
    (driver.restorePlan.map effects).getD [] = opening.rest

theorem Chained.Running.chained {σ : Type} {opening : Opening σ} {links : List Link}
    {outcomes : List SchedulerOutcome} {driver : SchedulerDriver (Recording σ)}
    (running : Chained.Running opening links outcomes driver) :
    Chained opening links outcomes driver :=
  ⟨running.follows, ⟨_, running.order⟩, ⟨_, running.applied⟩, ⟨_, running.batches⟩⟩

namespace SchedulerDriver

variable {σ : Type} {self : SchedulerDriver (Recording σ)} {pending : PendingOutcome}

theorem Owes.unaccepted {effect : TransitionEffect} (owes : self.Owes effect)
    (landed : self.inFlight = none) :
    self.unaccepted = (if effect.isDispatched then [effect] else []) ++
      self.advanceEffectCursor.unaccepted := by
  obtain ⟨pending, last, next⟩ := owes
  have split : pending.outcome.effects.drop pending.nextEffect =
      effect :: pending.outcome.effects.drop (pending.nextEffect + 1) := by
    obtain ⟨bound, rfl⟩ := List.getElem?_eq_some_iff.mp next
    exact drop_eq_getElem_cons bound
  simp only [SchedulerDriver.unaccepted, last, landed, advanceEffectCursor, Option.map_some,
    Option.isSome_none, Bool.false_eq_true, if_false, split, filter_cons]
  split <;> rfl

theorem Exhausted.unaccepted (exhausted : self.Exhausted) : self.unaccepted = [] := by
  unfold SchedulerDriver.unaccepted
  cases last : self.pending with
  | none => rfl
  | some pending =>
    have spent := exhausted.spent pending last
    rw [getElem?_eq_none_iff] at spent
    simp [exhausted.landed, drop_eq_nil_of_le spent]

end SchedulerDriver

/-! ## The steps of a chain -/

variable {σ : Type} {opening : Opening σ} {links : List Link} {outcomes : List SchedulerOutcome}
  {self after : SchedulerDriver (Recording σ)} {instant : MonotonicInstant}

open SchedulerDriver

theorem Chained.Running.keep (chain : Chained.Running opening links outcomes self)
    (scheduler : after.scheduler = self.scheduler)
    (accepted : after.sink.accepted = self.sink.accepted)
    (returned : after.sink.returned = self.sink.returned)
    (unaccepted : after.unaccepted = self.unaccepted)
    (acknowledgements : after.acknowledgements = self.acknowledgements)
    (planned : (after.restorePlan.map effects).getD [] =
      (self.restorePlan.map effects).getD []) :
    Chained.Running opening links outcomes after := by
  have record : after.sink.acknowledgements = self.sink.acknowledgements := by
    rw [Recording.acknowledgements, returned, Recording.acknowledgements]
  refine ⟨scheduler ▸ chain.follows, ?_, ?_, ?_⟩
  · rw [accepted, unaccepted]
    exact chain.order
  · rw [acknowledgements, record]
    exact chain.applied
  · rw [planned]
    exact chain.batches

theorem Chained.keep (chain : Chained opening links outcomes self)
    (scheduler : after.scheduler = self.scheduler)
    (accepted : after.sink.accepted = self.sink.accepted)
    (returned : self.sink.returned <+: after.sink.returned) :
    Chained opening links outcomes after := by
  refine ⟨scheduler ▸ chain.follows, accepted ▸ chain.order, chain.applied.trans ?_, chain.batches⟩
  obtain ⟨later, returned⟩ := returned
  exact ⟨later.filterMap acknowledgement, by
    rw [Recording.acknowledgements, Recording.acknowledgements, ← returned, filterMap_append]⟩

theorem Chained.Running.extend (chain : Chained.Running opening links outcomes self)
    (exhausted : self.Exhausted) {link : Link} {outcome : SchedulerOutcome}
    (follows : Follows opening.scheduler (links ++ [link]) (outcomes ++ [outcome]) after.scheduler)
    (sink : after.sink = self.sink) (pending : after.pending = some ⟨outcome, 0⟩)
    (landed : after.inFlight = none)
    (acknowledgements : self.acknowledgements =
      link.acknowledgement?.toList ++ after.acknowledgements)
    (planned : (self.restorePlan.map effects).getD [] =
      link.effects ++ (after.restorePlan.map effects).getD []) :
    Chained.Running opening (links ++ [link]) (outcomes ++ [outcome]) after := by
  refine ⟨follows, ?_, ?_, ?_⟩
  · have order := chain.order
    rw [exhausted.unaccepted, append_nil] at order
    have left : after.unaccepted = outcome.dispatched := by
      simp [unaccepted, pending, landed, SchedulerOutcome.dispatched]
    rw [sink, order, opening.dispatch_append, left]
  · rw [sink, ← chain.applied, acknowledgements]
    cases link <;> simp [Link.acknowledgement?]
  · rw [← chain.batches, planned]
    simp

theorem unaccepted_of_flight {sink : Recording σ} {expected : DispatchedEffect}
    {draft : StatusSnapshotDraft} {acknowledgements : List TaskEventEnvelope}
    (flight : self.inFlight = some expected) :
    ({ self with
      sink, acknowledgements, inFlight := none
      draft := some draft }.advanceEffectCursor).unaccepted = self.unaccepted := by
  cases last : self.pending <;> simp [unaccepted, advanceEffectCursor, last, flight]

theorem unaccepted_of_taken {sink : Recording σ} {offered : DispatchedEffect}
    (landed : self.inFlight = none) :
    { self with sink, offered := none, inFlight := some offered }.unaccepted =
      self.advanceEffectCursor.unaccepted := by
  cases last : self.pending <;> simp [unaccepted, advanceEffectCursor, last, landed]

/-- The driver is in a chain of the opening, which it extends unless it has failed. -/
def Opening.Chains (opening : Opening σ) (driver : SchedulerDriver (Recording σ)) : Prop :=
  ∃ links outcomes, Chained opening links outcomes driver ∧
    (driver.fault = none → Chained.Running opening links outcomes driver)

theorem Chained.Running.polls [SchedulerEffectSink σ] (driven : self.Driven)
    (chain : Chained.Running opening links outcomes self) (polls : self.Polls instant after) :
    opening.Chains after := by
  have remain (running : Chained.Running opening links outcomes after) : opening.Chains after :=
    ⟨links, outcomes, running.chained, fun _ => running⟩
  have halt (chained : Chained opening links outcomes after) (fault : after.fault ≠ none) :
      opening.Chains after :=
    ⟨links, outcomes, chained, fun running => absurd running fault⟩
  cases polls with
  | halted | idle => exact remain chain
  | waited _ _ polled =>
    obtain ⟨accepted, returned⟩ := Recording.returned_of_pending polled
    exact remain (chain.keep rfl accepted returned rfl rfl rfl)
  | completed _ flight polled =>
    obtain ⟨accepted, returned⟩ := Recording.returned_of_ready polled
    refine remain ⟨chain.follows, ?_, ?_, chain.batches⟩
    · rw [unaccepted_of_flight flight]
      simp only [advanceEffectCursor]
      rw [accepted]
      exact chain.order
    · simp only [advanceEffectCursor]
      rw [Recording.acknowledgements_of_ready polled, ← chain.applied, append_assoc,
        append_assoc, append_assoc]
      rfl
  | uncompleted _ _ polled =>
    obtain ⟨accepted, returned⟩ := Recording.returned_of_ready polled
    exact halt (chain.chained.keep rfl accepted ⟨_, returned.symm⟩) (by simp)
  | held _ _ _ polled =>
    obtain ⟨accepted, returned⟩ := Recording.accepted_of_dispatch polled
    refine remain (chain.keep rfl ?_ returned rfl rfl rfl)
    simpa [Poll.accepts] using accepted
  | taken _ landed offers polled =>
    obtain ⟨accepted, returned⟩ := Recording.accepted_of_dispatch polled
    obtain ⟨owes, dispatched⟩ := driven.offers offers
    have order := chain.order
    rw [owes.unaccepted landed, if_pos dispatched] at order
    refine remain ⟨chain.follows, ?_, ?_, chain.batches⟩
    · rw [unaccepted_of_taken landed, accepted, ← order]
      simp [Poll.accepts]
    · exact chain.applied.trans (congrArg (filterMap acknowledgement) returned.symm)
  | refused _ _ _ polled =>
    obtain ⟨accepted, returned⟩ := Recording.accepted_of_dispatch polled
    refine halt (chain.chained.keep rfl ?_ (by rw [returned])) (by simp)
    simpa [Poll.accepts] using accepted
  | staged _ landed _ owes =>
    refine remain (chain.keep rfl rfl rfl ?_ rfl rfl)
    rw [owes.unaccepted landed]
    rfl
  | stuck | broken | unpublished =>
    exact halt (chain.chained.keep rfl rfl (prefix_refl _)) (by simp)
  | finished exhausted _ _ restored =>
    refine remain (chain.keep rfl rfl rfl ?_ rfl ?_)
    · rw [exhausted.unaccepted]
      rfl
    · cases planned : self.restorePlan with
      | none => rfl
      | some plan => simp [restored plan planned]
  | @restored pending draft plan exhausted last answered planned remaining =>
    have extended : Chained.Running opening (links ++ [.batch plan.nextBatch.1]) _ { self with
        pending := some ⟨⟨none, none, plan.nextBatch.1⟩, 0⟩
        draft
        restorePlan := some plan.nextBatch.2 } :=
      chain.extend exhausted (.restored chain.follows remaining) rfl rfl exhausted.landed
        (by simp [Link.acknowledgement?])
        (by simp [planned, Link.effects, nextBatch])
    exact ⟨_, _, extended.chained, fun _ => extended⟩
  | @acknowledged acknowledgement acknowledgements outcome scheduler draft exhausted oldest
      handled =>
    have extended : Chained.Running opening (links ++ [.acknowledgement acknowledgement]) _
        { self with scheduler, acknowledgements, draft, pending := some ⟨outcome, 0⟩ } :=
      chain.extend exhausted (.acknowledged chain.follows handled) rfl rfl exhausted.landed
        oldest rfl
    exact ⟨_, _, extended.chained, fun _ => extended⟩
  | published => exact remain (chain.keep rfl rfl rfl rfl rfl rfl)

end Ariax
