import Ariax.Rate.Conformance

/-!
# Refunds and limit changes

A reservation is charged only to the buckets that are finite when it is
made, and comes back to those that are finite when it ends. In a run with
any limit changes, no bucket gets back more than was taken from it, as long
as no bucket becomes finite while something is reserved through it.
-/

namespace Ariax

open RateArbiterState RateEvent RateSystem Option Machine

/-! ## What a step takes and gives back -/

/-- The tokens of a bucket, none if it is not there. -/
def RateArbiterState.tokensOf (state : RateArbiterState) (key : RateKey) : ℤ :=
  (state.bucket key).elim 0 Bucket.tokens

def deducted (key : RateKey) (step : RateStep) : ℤ :=
  match step.output with
  | some (.granted path _ _) =>
    ((step.before.arbiter.track path step.input.2).refillPath path step.input.2).tokensOf key -
      step.after.arbiter.tokensOf key
  | _ => 0

/-- The tokens a permit that is settled or dropped, or a grant that is cancelled, gives back to
a bucket. -/
def refunded (key : RateKey) (step : RateStep) : ℤ :=
  match step.output with
  | some (.refunded path _) =>
    step.after.arbiter.tokensOf key -
      (step.before.arbiter.refillPath path step.input.2).tokensOf key
  | _ => 0

/-- The call gives no finite limit to an unlimited bucket through which something is reserved. -/
def RateRequest.Spares (request : RateRequest) (system : RateSystem) : Prop :=
  ∀ key bucket limit, system.arbiter.bucket key = some bucket →
    bucket.limit.isUnlimited = true → request.newLimit system.arbiter key = some limit →
    limit.isUnlimited = false → ∀ path, system.flight.Covers path → key ∉ path.keys

/-! ## Refunds -/

variable {state : RateArbiterState} {key : RateKey} {events : List RateEvent}
  {request : RateRequest} {bucket : Bucket}

/-- What comes back with a refund is on the buckets at once: reading the debt at the same
instant adds nothing. -/
theorem Bucket.refill_refund (bucket : Bucket) (bytes : ℕ) (now : ClockInstant) :
    ((bucket.refill now).refund bytes).refill now = (bucket.refill now).refund bytes := by
  cases finite : bucket.limit.isUnlimited with
  | true => simp [Bucket.refund, Bucket.refill, finite]
  | false =>
    rw [Bucket.refund_of_finite _ bytes (by rwa [refill_limit])]
    refine refill_of_updatedAt _ (bucket.refill_updatedAt now) ?_ (min_le_right _ _)
      (bucket.refill_remainder_lt now finite)
    simp only [saturateI128]
    omega

/-- A refund adds at most its bytes to a finite bucket and nothing to an unlimited one. -/
theorem Bucket.refund_tokens_le (bucket : Bucket) (bytes : ℕ) (now : ClockInstant) :
    ((bucket.refill now).refund bytes).tokens ≤
      (bucket.refill now).tokens + (if bucket.limit.isUnlimited then 0 else bytes : ℕ) := by
  cases finite : bucket.limit.isUnlimited with
  | true => simp [Bucket.refund, Bucket.refill, finite]
  | false =>
    have floor_le : -(2 ^ 127) ≤ (bucket.refill now).tokens := by
      rw [bucket.refill_of_finite now finite]
      simp only [saturateI128]
      omega
    rw [Bucket.refund_of_finite _ bytes (by rwa [refill_limit])]
    simp only [saturateI128, Bool.false_eq_true, if_false]
    omega

variable {now : ClockInstant} {second first : RateSystem}

theorem RateSystem.refunded_of_next {system : RateSystem} {path : RatePath} {bytes : ℕ}
    (event : (system.next request now).1 = some (.refunded path bytes)) (key : RateKey) :
    (system.next request now).2.arbiter.bucket key =
      if key ∈ path.keys then
        (system.arbiter.bucket key).map fun bucket => (bucket.refill now).refund bytes
      else system.arbiter.bucket key := by
  cases request with
  | settle =>
    simp only [next, settle] at event ⊢
    split at event
    · cases event
    · split at event
      · rename_i below
        obtain ⟨rfl, rfl⟩ := event
        simp only [if_pos below, debtFor, bucket_refillPath, refund, bucket_refillPath_onPath]
        split
        · rw [map_map]
          congr 1
          funext bucket
          exact bucket.refill_refund _ now
        · rfl
      · split at event <;> cases event
  | drop =>
    simp only [next, drop] at event ⊢
    split at event
    · cases event
    · obtain ⟨rfl, rfl⟩ := event
      simp only [RateArbiterState.refund, RateArbiterState.bucket_refillPath_onPath]
  | removeWaiter =>
    simp only [next, removeWaiter, RateArbiterState.removeWaiter] at event ⊢
    split at event
    · obtain ⟨rfl, rfl⟩ := event
      simp only [refund, bucket_refillPath_onPath]
      split <;> cases key <;> rfl
    · cases event
  | tryAcquire =>
    simp only [next, tryAcquire] at event
    split at event
    · cases event
    · split at event
      · cases event
      · split at event <;> cases event
  | turn =>
    simp only [next, turn] at event
    split at event <;> cases event
  | _ => cases event

/-! ## The balance of a bucket -/

def RateArbiterState.limited (state : RateArbiterState) (key : RateKey) : Bool :=
  (state.bucket key).any fun bucket => !bucket.limit.isUnlimited

theorem RateArbiterState.limited_of_some (found : state.bucket key = some bucket) :
    state.limited key = !bucket.limit.isUnlimited := by
  rw [limited, found]
  rfl

theorem RateArbiterState.limited_of_none (missing : state.bucket key = none) :
    state.limited key = false := by
  rw [limited, missing]
  rfl

def RateEvent.given (key : RateKey) : RateEvent → ℕ
  | .granted path _ bytes => path.share key bytes
  | _ => 0

def RateEvent.back (key : RateKey) : RateEvent → ℕ
  | .refunded path bytes => path.share key bytes
  | _ => 0

theorem RateMove.bytes_le {event : Option RateEvent} (move : RateMove now first event second)
    (key : RateKey) :
    second.flight.bytes key + (event.toList.map (back key)).sum ≤
      first.flight.bytes key + (event.toList.map (given key)).sum := by
  cases move with
  | create | refill | stats | queue => exact le_rfl
  | grant path requested bytes flight known positive bounded offered gains =>
    simpa [back, given] using gains.bytes_le key
  | refund path bytes reserved _ unused sheds =>
    have left := sheds.bytes_eq key
    have less : path.share key bytes ≤ path.share key reserved := by
      unfold RatePath.share
      split
      · exact unused
      · exact le_rfl
    simp only [sum_toList_some, back, given, flight_fly]
    omega
  | charge path bytes reserved flight word sheds =>
    have left := sheds.bytes_eq key
    simp only [sum_toList_some, back, given, flight_fly]
    omega
  | pass _ bytes_le => exact bytes_le key

theorem RateMoves.limit_eq (moves : RateMoves now first events second)
    (found : first.arbiter.bucket key = some bucket) :
    ∃ next, second.arbiter.bucket key = some next ∧ next.limit = bucket.limit := by
  induction moves generalizing bucket with
  | nil => exact ⟨bucket, found, rfl⟩
  | cons move _ ih =>
    obtain ⟨next, there, same, -⟩ := move.bucket_of_some found
    obtain ⟨last, there, again⟩ := ih there
    exact ⟨last, there, again.trans same⟩

/-- What is in flight grows by no more than was granted and shrinks by what came back. -/
theorem RateMoves.bytes_le (moves : RateMoves now first events second) (key : RateKey) :
    second.flight.bytes key + (events.map (back key)).sum ≤
      first.flight.bytes key + (events.map (given key)).sum := by
  induction moves with
  | nil => exact le_rfl
  | cons move _ ih =>
    have step := move.bytes_le key
    simp only [List.map_append, List.sum_append] at ih ⊢
    omega

/-- What is left in flight under a finite limit and what came back is covered by what was in
flight under one and what was granted. -/
def Covers (first : RateSystem) (events : List RateEvent) (second : RateSystem) : Prop :=
  ∀ key, second.arbiter.limited key = true →
    second.flight.bytes key + (events.map (back key)).sum ≤
      (if first.arbiter.limited key then first.flight.bytes key else 0) +
        (events.map (given key)).sum

theorem RateMoves.covers (moves : RateMoves now first events second) (sound : first.Sound) :
    Covers first events second := by
  intro key finite
  -- a bucket the call created had nothing in flight, and another one keeps its limit
  have reserved : (if first.arbiter.limited key then first.flight.bytes key else 0) =
      first.flight.bytes key := by
    cases found : first.arbiter.bucket key with
    | none => rw [sound.bytes_eq_zero found, ite_self]
    | some =>
      obtain ⟨next, there, same⟩ := moves.limit_eq found
      rw [limited_of_some there, same] at finite
      rw [limited_of_some found, finite, if_pos rfl]
  rw [reserved]
  exact moves.bytes_le key

theorem Relimited.covers (relimited : Relimited first second request now)
    (spares : request.Spares first) : Covers first [] second := by
  intro key finite
  rw [relimited.flight]
  refine Nat.add_le_add_right ?_ _
  cases found : first.arbiter.bucket key with
  | none =>
    rw [limited_of_none (relimited.missing key found)] at finite
    cases finite
  | some bucket =>
    rw [limited_of_some found]
    cases unlimited : bucket.limit.isUnlimited with
    | false => exact le_rfl
    | true =>
      rcases relimited.buckets key bucket found with same | ⟨limit, sets, same⟩
      · simp [limited_of_some same, unlimited] at finite
      · rw [limited_of_some same, Bool.not_eq_true'] at finite
        exact (Flight.bytes_eq_zero (spares key bucket limit found unlimited sets finite)).le

/-- What is reserved through a finite bucket and what came back to it is no more than what was
taken from it. -/
structure Backed (system : RateSystem) (taken returned : RateKey → ℤ) : Prop
    extends system.Sound where
  backed : ∀ key, returned key +
    (if system.arbiter.limited key then system.flight.bytes key else 0 : ℕ) ≤ taken key

section Step

variable {system : RateSystem} (request : RateRequest) (now : ClockInstant)

theorem deducted_eq
    (queue : ∀ waiter ∈ system.arbiter.waiters, system.arbiter.Tracks waiter.path) (key : RateKey) :
    deducted key (rateMachine.step system (request, now)) =
      (if (system.next request now).2.arbiter.limited key then
        ((system.next request now).1.toList.map (given key)).sum else 0 : ℕ) := by
  have output : (rateMachine.step system (request, now)).output = (system.next request now).1 := rfl
  unfold deducted
  rw [output]
  cases event : (system.next request now).1 with
  | none => simp
  | some change =>
    cases change with
    | refunded | charged => simp [given]
    | granted path =>
      have granted := granted_of_next queue event
      simp only [sum_toList_some, given, step_before, step_input,
        step_after]
      change ((system.arbiter.track path now).refillPath path now).tokensOf key -
        (system.next request now).2.arbiter.tokensOf key = _
      simp only [tokensOf, bucket_refillPath]
      by_cases member : key ∈ path.keys
      · obtain ⟨bucket, found, -, after, exact⟩ := granted.charged key member
        rw [limited_of_some after, if_pos member, found, after,
          path.share_of_mem member, Bucket.reserve_limit, Bucket.refill_limit]
        cases finite : bucket.limit.isUnlimited with
        | true => simp [Bucket.reserve, finite]
        | false =>
          have lowered := (exact finite).2
          simp only [map_some, elim_some, Bool.not_false, if_true]
          omega
      · rw [if_neg member, granted.others key member, path.share_of_not_mem member]
        simp

theorem refunded_le (system : RateSystem) (key : RateKey) :
    refunded key (rateMachine.step system (request, now)) ≤
      (if (system.next request now).2.arbiter.limited key then
        ((system.next request now).1.toList.map (back key)).sum else 0 : ℕ) := by
  have output : (rateMachine.step system (request, now)).output = (system.next request now).1 := rfl
  unfold refunded
  rw [output]
  cases event : (system.next request now).1 with
  | none => simp
  | some change =>
    cases change with
    | granted | charged => simp [back]
    | refunded path bytes =>
      have after := refunded_of_next event key
      simp only [sum_toList_some, back, step_before, step_input,
        step_after]
      change (system.next request now).2.arbiter.tokensOf key -
        (system.arbiter.refillPath path now).tokensOf key ≤ _
      simp only [tokensOf, bucket_refillPath]
      by_cases member : key ∈ path.keys
      · rw [if_pos member] at after ⊢
        rw [path.share_of_mem member]
        cases found : system.arbiter.bucket key with
        | none =>
          rw [found] at after
          rw [limited_of_none after, after]
          exact le_rfl
        | some bucket =>
          rw [found] at after
          have added := bucket.refund_tokens_le bytes now
          rw [limited_of_some after, after, Bucket.refund_limit, Bucket.refill_limit]
          cases finite : bucket.limit.isUnlimited <;> simp only [finite] at added <;>
            simpa [add_comm] using added
      · rw [if_neg member] at after ⊢
        rw [after, path.share_of_not_mem member]
        simp

variable {request} {returned taken : RateKey → ℤ}

theorem Backed.next (backed : Backed system taken returned) (spares : request.Spares system) :
    Backed (system.next request now).2
      (fun key => taken key + deducted key (rateMachine.step system (request, now)))
      fun key => returned key + refunded key (rateMachine.step system (request, now)) := by
  have covers : Covers system (system.next request now).1.toList (system.next request now).2 := by
    by_cases keeps : request.KeepsLimits system
    · exact (system.moves_next now keeps).covers backed.toSound
    · obtain ⟨silent, relimited⟩ := relimited_next now keeps
      rw [silent]
      exact relimited.covers spares
  refine ⟨backed.toSound.next request now, fun key => ?_⟩
  have before := backed.backed key
  have gave := deducted_eq request now backed.waiters key
  have got := refunded_le request now system key
  cases finite : (system.next request now).2.arbiter.limited key with
  | false =>
    simp only [finite, Bool.false_eq_true, if_false] at gave got ⊢
    omega
  | true =>
    have covered := covers key finite
    simp only [finite, if_true] at gave got ⊢
    omega

end Step

/-! ## Runs -/

/-- In every run in which no call gives a finite limit to an unlimited bucket through which
something is reserved, no bucket gets back more than was taken from it. -/
theorem rateArbiter_refunds_le {config : RateArbiterConfig} {start : ClockInstant}
    {fresh system : RateSystem} {history : List RateStep}
    (new : RateSystem.new config start = .ok fresh)
    (run : rateMachine.Run fresh history system)
    (spares : Machine.Guarded (fun system input => input.1.Spares system) history)
    (key : RateKey) :
    (history.map (refunded key)).sum ≤ (history.map (deducted key)).sum := by
  have backed : Backed system (fun key => (history.map (deducted key)).sum)
      fun key => (history.map (refunded key)).sum := by
    induction run with
    | nil =>
      have sound := RateSystem.Sound.new new
      obtain ⟨rfl, -⟩ := RateSystem.eq_of_new new
      refine ⟨sound, ?_⟩
      intro key
      have empty : Flight.bytes ⟨∅, []⟩ key = 0 := by simp [Flight.bytes]
      change 0 + ((if _ then Flight.bytes ⟨∅, []⟩ key else 0 : ℕ) : ℤ) ≤ 0
      rw [empty, ite_self]
      exact le_rfl
    | @snoc history system run input ih =>
      obtain ⟨request, now⟩ := input
      obtain ⟨earlier, last⟩ := guarded_snoc.mp spares
      simp only [List.map_append, List.sum_append, List.map_cons, List.map_nil, List.sum_cons,
        List.sum_nil, add_zero]
      exact (ih earlier).next now last
  have whole := backed.backed key
  omega

open RateSample in
theorem rateArbiter_refunds_le_raised :
    let calls := [(.tryAcquire path 10, 1), (.setGlobalLimit (.perSecond 200), 2), (.drop 0, 3)]
    ((rateMachine.trace fresh calls).map (refunded none)).sum ≤
      ((rateMachine.trace fresh calls).map (deducted none)).sum := by
  intro calls
  have new : RateSystem.new config 0 = .ok fresh := rfl
  refine rateArbiter_refunds_le new (run_trace _ _) ?_ none
  intro step member key bucket limit found unlimited sets
  simp only [calls, trace, List.mem_cons, List.not_mem_nil, or_false] at member
  rcases member with rfl | rfl | rfl
  · cases sets
  · cases key with
    | none =>
      obtain rfl := some.inj found
      exact absurd unlimited (by decide +kernel)
    | some => cases sets
  · cases sets

/-- A permit that was reserved while nothing was limited mints tokens when it is dropped under
a limit. -/
theorem rateArbiter_refund_mints : let config := { RateSample.config with global := .unlimited }
    let fresh : RateSystem := ⟨new config 0, []⟩
    let history := rateMachine.trace fresh
      [(.tryAcquire RateSample.path 10, 0), (.setGlobalLimit (.perSecond 100), 0), (.drop 0, 0)]
    RateSystem.new config 0 = .ok fresh ∧
      (history.map (deducted none)).sum = 0 ∧ (history.map (refunded none)).sum = 10 :=
  ⟨rfl, by decide +kernel⟩

end Ariax
