import Ariax.Rate.Limits

/-!
# One pass over the queue

The dispatch loop gives each waiter one turn in the order of the queue. What
a path has to offer only shrinks during a pass, so a waiter that was passed
over has nothing to wait for at that instant, and it knows from its own turn
how long its buckets need. A grant that is made after its turn can take from
a finite bucket that the two paths share, and then the bucket needs longer.
-/

namespace Ariax

open List

variable {now later : ClockInstant}

/-! ## Buckets at one instant -/

namespace Bucket

variable (bucket : Bucket)

/-- A reservation gives an empty bucket nothing, as long as no time passes. -/
theorem available_reserve (bytes : ℕ) (spent : (bucket.refill now).available = 0) :
    (((bucket.refill now).reserve bytes).refill now).available = 0 := by
  cases finite : bucket.limit.isUnlimited with
  | true => simp [available, finite] at spent
  | false =>
    have small := bucket.refill_remainder_lt now finite
    have fresh := bucket.refill_updatedAt now
    rw [← bucket.refill_limit now] at finite
    generalize bucket.refill now = next at *
    have empty : next.tokens ≤ 0 := by
      rw [next.available_of_finite finite] at spent
      omega
    have nothing : (next.reserve bytes).numerator now / 1_000_000_000 = 0 := by
      simp only [next.reserve_of_finite _ finite, numerator, fresh, Nat.sub_self, Nat.mul_zero,
        saturateU128]
      omega
    rw [available_of_finite _ (by simpa), refill_of_finite _ now (by simpa), nothing,
      next.reserve_of_finite _ finite]
    simp only [saturateI128]
    omega

/-- The delay of a bucket without a token is long enough for what it lacks. -/
theorem needed_le_of_delay {delay : ℕ} (finite : bucket.limit.isUnlimited = false)
    (empty : bucket.tokens ≤ 0) (due : bucket.delayUntilOne ≤ delay) (short : delay < 2 ^ 64 - 1) :
    (-bucket.tokens + 1).toNat * 1_000_000_000 ≤ bucket.limit.bytesPerSecond.val * delay ∧
      (-bucket.tokens + 1).toNat * 1_000_000_000 < 2 ^ 128 := by
  have rate : 0 < bucket.limit.bytesPerSecond.val := by
    refine Nat.pos_of_ne_zero fun zero => ?_
    simp [RateLimit.isUnlimited, Fin.ext_iff, zero] at finite
  have word := bucket.limit.bytesPerSecond.isLt
  have lacks : ¬1 ≤ bucket.tokens := by omega
  simp only [delayUntilOne, finite, lacks, Bool.or_self, decide_false, Bool.false_eq_true,
    if_false, saturateU128] at due
  generalize (-bucket.tokens + 1).toNat * 1_000_000_000 = needed at due ⊢
  generalize bucket.limit.bytesPerSecond.val = speed at *
  have quotient : min (min needed (2 ^ 128 - 1) + (speed - 1)) (2 ^ 128 - 1) / speed ≤ delay := by
    omega
  have product := (Nat.div_lt_iff_lt_mul rate).mp (Nat.lt_succ_of_le quotient)
  have bound : (delay + 1) * speed ≤ (2 ^ 64 - 1) * (2 ^ 64 - 1) :=
    Nat.mul_le_mul (by omega) (by omega)
  rw [Nat.succ_mul, Nat.mul_comm delay] at product
  rw [Nat.add_mul, Nat.one_mul, Nat.mul_comm delay] at bound
  omega

/-- After its delay a bucket that can hold a byte has one. -/
theorem available_of_delay {delay : ℕ} (after : later.val = now.val + delay)
    (holds : bucket.limit.isUnlimited = false → 0 < bucket.limit.burstBytes.val)
    (due : (bucket.refill now).delayUntilOne ≤ delay) (short : delay < 2 ^ 64 - 1) :
    1 ≤ ((bucket.refill now).refill later).available := by
  cases finite : bucket.limit.isUnlimited with
  | true => simp [available, finite]
  | false =>
    have burst := holds finite
    generalize full : bucket.refill now = next at due
    have limit : next.limit = bucket.limit := by rw [← full, refill_limit]
    have fresh : next.updatedAt = now := by rw [← full, refill_updatedAt]
    have elapsed : later.val - next.updatedAt.val = delay := by
      rw [fresh]
      omega
    have enough :
        1 ≤ next.tokens + (min (next.numerator later / 1_000_000_000) (2 ^ 127 - 1) : ℕ) := by
      by_cases held : 1 ≤ next.tokens
      · omega
      · obtain ⟨needed, narrow⟩ := next.needed_le_of_delay (limit ▸ finite) (by omega) due short
        simp only [numerator, elapsed, saturateU128]
        omega
    rw [available_of_finite _ (by simpa [limit]), refill_of_finite _ later (limit ▸ finite)]
    simp only [limit, saturateI128]
    omega

end Bucket

/-! ## Turns -/

namespace RateArbiterState

variable {state : RateArbiterState} {waiter : Waiter} {rest : List Waiter} {key : RateKey}
  {bucket : Bucket} {path : RatePath} {first last : ℕ}

theorem delayUntilOne_le (member : key ∈ path.keys) (found : state.bucket key = some bucket)
    (live : state.globalSuspended = false) :
    (bucket.refill now).delayUntilOne ≤ (state.nextDelayFor path now).1 := by
  simp only [nextDelayFor, live, Bool.false_eq_true, if_false]
  exact le_max?_getD_of_mem ((state.refillPath path now).mem_readPath member
    (state.bucket_refillPath_of_mem member found) Bucket.delayUntilOne 0)

theorem offer_eq_zero (asks : 0 < waiter.requested) :
    state.offer now waiter = 0 ↔ (state.availableFor waiter.path now).1 = 0 := by
  have quantum := state.config.quantumBytes.pos
  unfold offer
  omega

section

variable (queue : state.waiters = waiter :: rest)
include queue

/-- A waiter that is passed over has the buckets of its path refilled, and the time that each of
them needs read. -/
theorem turn_of_live (nothing : state.offer now waiter = 0) (live : state.globalSuspended = false) :
    ∃ delay, (state.turn now).1 = some (.delayed delay) ∧
      (∀ key, (state.turn now).2.bucket key = (state.refillPath waiter.path now).bucket key) ∧
      ∀ key ∈ waiter.path.keys, ∀ bucket, state.bucket key = some bucket →
        (bucket.refill now).delayUntilOne ≤ delay := by
  have refilled : (state.availableFor waiter.path now).2 = state.refillPath waiter.path now := by
    simp [availableFor, live]
  have again : ((state.refillPath waiter.path now).nextDelayFor waiter.path now).2 =
      (state.refillPath waiter.path now).refillPath waiter.path now := by
    have live : (state.refillPath waiter.path now).globalSuspended = false := live
    simp [nextDelayFor, live]
  rw [turn_eq_delayed queue nothing, refilled]
  refine ⟨_, rfl, ?_, ?_⟩
  · intro key
    refine (bucket_withQueue _ _ _ key).trans ?_
    rw [again, bucket_refillPath, bucket_refillPath]
    split
    · rw [Option.map_map]
      congr 1
      funext bucket
      exact bucket.refill_idem now
    · rfl
  · intro key member bucket found
    have stored : (state.refillPath waiter.path now).bucket key = some (bucket.refill now) :=
      state.bucket_refillPath_of_mem member found
    rw [← bucket.refill_idem]
    exact delayUntilOne_le member stored live

end

theorem turn_suspended : (state.turn now).2.globalSuspended = state.globalSuspended := by
  cases queue : state.waiters with
  | nil => simp only [turn, queue]
  | cons waiter =>
    by_cases nothing : state.offer now waiter = 0
    · rw [turn_eq_delayed queue nothing]
      simp only [nextDelayFor, availableFor]
      split
      · rfl
      · split <;> rfl
    · rw [turn_eq_granted queue nothing]
      rfl

/-- What becomes of a bucket on a turn. -/
theorem bucket_turn (found : state.bucket key = some bucket) :
    (state.turn now).2.bucket key = some bucket ∨
      (state.turn now).2.bucket key = some (bucket.refill now) ∨
      ∃ waiter bytes, (state.turn now).1 = some (.granted waiter bytes) ∧
        key ∈ waiter.path.keys ∧
        (state.turn now).2.bucket key = some ((bucket.refill now).reserve bytes) := by
  cases queue : state.waiters with
  | nil => exact .inl (by simpa only [turn, queue] using found)
  | cons waiter =>
    by_cases nothing : state.offer now waiter = 0
    · by_cases live : state.globalSuspended = false
      · obtain ⟨delay, -, buckets, -⟩ := turn_of_live queue nothing live
        rw [buckets, bucket_refillPath, found]
        split
        · exact .inr (.inl rfl)
        · exact .inl rfl
      · rw [turn_eq_delayed queue nothing]
        refine .inl ((bucket_withQueue _ _ _ key).trans ?_)
        simpa [nextDelayFor, availableFor, live] using found
    · have same : (state.turn now).2.bucket key = ((state.refillPath waiter.path now).reserve
          waiter.path (state.offer now waiter) now).bucket key := by
        rw [turn_eq_granted queue nothing]
        cases key <;> rfl
      rw [same, reserve, bucket_refillPath_onPath, bucket_refillPath, found]
      split
      · rename_i member
        refine .inr (.inr ⟨waiter, state.offer now waiter, ?_, member, ?_⟩)
        · rw [turn_eq_granted queue nothing]
        · rw [Option.map_some, Option.map_some, bucket.refill_idem]
      · exact .inl rfl

/-! ## Passes -/

variable (now) in
/-- The state in which the waiter with a number in the queue has its turn. -/
def afterTurns (state : RateArbiterState) (turns : ℕ) : RateArbiterState :=
  (fun state => (turn state now).2)^[turns] state

variable (now) in
def outcome (state : RateArbiterState) (place : ℕ) : Option Turn :=
  ((state.afterTurns now place).turn now).1

variable (now) in
/-- The path of a waiter has nothing when it has its turn. -/
def passedOver (state : RateArbiterState) (visit : Waiter × ℕ) : Bool :=
  ((state.afterTurns now visit.2).availableFor visit.1.path now).1 = 0

variable (turns : ℕ)

theorem afterTurns_succ :
    state.afterTurns now (turns + 1) = ((state.afterTurns now turns).turn now).2 :=
  Function.iterate_succ_apply' _ _ _

theorem afterTurns_suspended :
    (state.afterTurns now turns).globalSuspended = state.globalSuspended := by
  induction turns with
  | zero => rfl
  | succ _ ih => rw [afterTurns_succ, turn_suspended, ih]

/-- What is left of the queue after some turns: the waiters that have not had one, and behind
them those that were passed over. -/
theorem afterTurns_waiters (asks : ∀ waiter ∈ state.waiters, 0 < waiter.requested) {turns : ℕ}
    (within : turns ≤ state.waiters.length) :
    (state.afterTurns now turns).waiters = state.waiters.drop turns ++
      ((state.waiters.take turns).zipIdx.filter (state.passedOver now)).map Prod.fst := by
  induction turns with
  | zero => simp [afterTurns]
  | succ turns ih =>
    have inside : turns < state.waiters.length := within
    have queue := ih inside.le
    rw [drop_eq_getElem_cons inside, cons_append] at queue
    have positive := asks _ (getElem_mem inside)
    rw [afterTurns_succ, take_succ_eq_append_getElem inside, zipIdx_append,
      filter_append, map_append, length_take_of_le inside.le]
    by_cases nothing : ((state.afterTurns now turns).availableFor
        state.waiters[turns].path now).1 = 0
    · rw [turn_eq_delayed queue ((offer_eq_zero positive).mpr nothing)]
      simp [passedOver, nothing]
    · rw [turn_eq_granted queue (mt (offer_eq_zero positive).mp nothing)]
      simp [passedOver, nothing]

/-- A property of a bucket that survives the turns between two places of the queue. -/
theorem afterTurns_keeps {P : Bucket → Prop} (ordered : first ≤ last)
    (refill : ∀ bucket, P bucket → P (bucket.refill now))
    (reserve : ∀ place, first ≤ place → place < last → ∀ waiter bytes,
      state.outcome now place = some (.granted waiter bytes) → key ∈ waiter.path.keys →
        ∀ bucket, P bucket → P ((bucket.refill now).reserve bytes))
    (found : ∃ bucket, (state.afterTurns now first).bucket key = some bucket ∧ P bucket) :
    ∃ bucket, (state.afterTurns now last).bucket key = some bucket ∧ P bucket := by
  induction last, ordered using Nat.le_induction with
  | base => exact found
  | succ last after ih =>
    obtain ⟨bucket, there, holds⟩ :=
      ih fun place after before => reserve place after (before.trans (Nat.lt_succ_self last))
    rw [afterTurns_succ]
    rcases @bucket_turn now _ key bucket there with
      same | same | ⟨waiter, bytes, granted, member, same⟩
    · exact ⟨bucket, same, holds⟩
    · exact ⟨_, same, refill bucket holds⟩
    · exact ⟨_, same,
        reserve last after (Nat.lt_succ_self last) waiter bytes granted member bucket holds⟩

/-- A path that has nothing on some turn has nothing for the rest of the pass. -/
theorem spent_afterTurns (ordered : first ≤ last)
    (nothing : ((state.afterTurns now first).availableFor path now).1 = 0) :
    ((state.afterTurns now last).availableFor path now).1 = 0 := by
  by_cases live : state.globalSuspended = false
  · have before : (state.afterTurns now first).globalSuspended = false :=
      (afterTurns_suspended first).trans live
    have after : (state.afterTurns now last).globalSuspended = false :=
      (afterTurns_suspended last).trans live
    have empty : ∃ key ∈ path.keys, ∃ bucket,
        (state.afterTurns now first).bucket key = some bucket ∧
          (bucket.refill now).available = 0 := by
      by_contra none
      have held := le_availableFor _ before (by decide : 1 < 2 ^ 64) fun key member bucket found =>
        Nat.pos_of_ne_zero fun spent => none ⟨key, member, bucket, found, spent⟩
      omega
    obtain ⟨key, member, bucket, found, spent⟩ := empty
    obtain ⟨next, there, spent⟩ := afterTurns_keeps (P := fun bucket =>
      (bucket.refill now).available = 0) ordered (fun bucket spent => by rwa [bucket.refill_idem])
      (fun _ _ _ _ bytes _ _ bucket spent => bucket.available_reserve bytes spent)
      ⟨bucket, found, spent⟩
    exact Nat.eq_zero_of_le_zero (spent ▸ availableFor_le _ member there after)
  · simp [availableFor, afterTurns_suspended, live]

/-- A waiter that was passed over has something when its delay is over, if the rest of the pass
grants nothing from a finite bucket of its path. -/
theorem woken_afterTurns {delay : ℕ} (ordered : first < last)
    (queue : (state.afterTurns now first).waiters = waiter :: rest)
    (delayed : state.outcome now first = some (.delayed delay))
    (live : state.globalSuspended = false) (tracks : state.Tracks waiter.path)
    (burst : ∀ key bucket, state.bucket key = some bucket →
      bucket.limit.isUnlimited = false → 0 < bucket.limit.burstBytes.val)
    (short : delay < 2 ^ 64 - 1)
    (quiet : ∀ place, first < place → place < last → ∀ served bytes,
      state.outcome now place = some (.granted served bytes) → ∀ key ∈ waiter.path.keys,
      key ∈ served.path.keys → ∀ bucket, state.bucket key = some bucket →
        bucket.limit.isUnlimited = true)
    (after : later.val = now.val + delay) :
    ((state.afterTurns now last).availableFor waiter.path later).1 ≠ 0 := by
  have before : (state.afterTurns now first).globalSuspended = false :=
    (afterTurns_suspended first).trans live
  have nothing : (state.afterTurns now first).offer now waiter = 0 := by
    by_contra offered
    rw [outcome, turn_eq_granted queue offered] at delayed
    cases delayed
  obtain ⟨same, delayed', buckets, due⟩ := turn_of_live queue nothing before
  obtain rfl : same = delay := by
    rw [outcome, delayed'] at delayed
    cases delayed
    rfl
  refine Nat.one_le_iff_ne_zero.mp
    (le_availableFor _ ((afterTurns_suspended last).trans live) (by decide) ?_)
  intro key member bucket found
  obtain ⟨start, tracked⟩ := Option.ne_none_iff_exists'.mp (tracks key member)
  obtain ⟨own, there, limit⟩ := afterTurns_keeps (P := fun bucket => bucket.limit = start.limit)
    (Nat.zero_le first) (fun bucket limit => (bucket.refill_limit now).trans limit)
    (fun _ _ _ _ bytes _ _ bucket limit => by rwa [Bucket.reserve_limit, Bucket.refill_limit])
    ⟨start, tracked, rfl⟩
  have refilled : (state.afterTurns now (first + 1)).bucket key = some (own.refill now) := by
    rw [afterTurns_succ, buckets]
    exact bucket_refillPath_of_mem _ member there
  obtain ⟨final, stored, rfl⟩ := afterTurns_keeps (P := fun bucket => bucket = own.refill now)
    ordered (fun bucket same => by rw [same, own.refill_idem])
    (fun place after before served bytes granted shared bucket same => by
      have unlimited :=
        quiet place after before served bytes granted key member shared start tracked
      rw [same, own.refill_idem, Bucket.reserve, own.refill_limit, limit, if_pos unlimited])
    ⟨_, refilled, rfl⟩
  obtain rfl := Option.some.inj (stored.symm.trans found)
  exact own.available_of_delay after (limit ▸ burst key start tracked) (due key member own there)
    short

def Turn.delay : Turn → Option ℕ
  | .granted _ _ => none
  | .delayed delay => some delay

theorem foldl_dispatchTurn :
    ((range turns).foldl (fun loop _ => dispatchTurn now loop) ((none, false), state)).1.1 =
      ((range turns).reverse.filterMap
        fun place => (state.outcome now place).bind Turn.delay).min? := by
  induction turns with
  | zero => rfl
  | succ turns reported =>
    have reached := state.foldl_dispatchTurn_snd now turns
    rw [range_succ, foldl_append, foldl_cons, foldl_nil, reverse_append,
      reverse_singleton, singleton_append, filterMap_cons]
    generalize (range turns).foldl (fun loop _ => dispatchTurn now loop)
      ((none, false), state) = loop at reached reported ⊢
    rw [outcome, afterTurns, ← reached, dispatchTurn]
    rcases loop.2.turn now with ⟨_ | ⟨waiter, bytes⟩ | delay, next⟩
    · exact reported
    · exact reported
    · rw [reported]
      exact min?_cons.symm

/-- The delay that is returned is the shortest of those that came up. -/
theorem dispatch_delay (delay : ℕ) : (state.dispatch now).1.1 = some delay ↔
      (∃ place < state.waiters.length, state.outcome now place = some (.delayed delay)) ∧
        ∀ place < state.waiters.length, ∀ other, state.outcome now place = some (.delayed other) →
          delay ≤ other := by
  have delayed : ∀ place other, (state.outcome now place).bind Turn.delay = some other ↔
      state.outcome now place = some (.delayed other) := by
    intro place other
    rcases state.outcome now place with _ | ⟨waiter, bytes⟩ | delay <;> simp [Turn.delay]
  rw [dispatch, foldl_dispatchTurn, min?_eq_some_iff]
  simp only [mem_filterMap, mem_reverse, mem_range, delayed]
  constructor
  · rintro ⟨found, least⟩
    exact ⟨found, fun place inside other same => least other ⟨place, inside, same⟩⟩
  · rintro ⟨found, least⟩
    refine ⟨found, ?_⟩
    rintro other ⟨place, inside, same⟩
    exact least place inside other same

/-- Every waiter has its buckets and asks for something, and a finite bucket can hold a byte. -/
structure WellFormed (state : RateArbiterState) : Prop where
  tracked : ∀ waiter ∈ state.waiters, state.Tracks waiter.path
  requested_pos : ∀ waiter ∈ state.waiters, 0 < waiter.requested
  burst_pos : ∀ key bucket, state.bucket key = some bucket →
    bucket.limit.isUnlimited = false → 0 < bucket.limit.burstBytes.val

theorem wellFormed_of_reachable {system : RateSystem} (reached : rateMachine.Reachable system) :
    system.arbiter.WellFormed := by
  have sound := RateSystem.sound_of_reachable reached
  exact ⟨sound.waiters, sound.asks, fun key bucket found finite =>
    RateLimit.burstBytes_pos (sound.limits key bucket found) finite⟩

/-- A pass over the queue: each waiter has its turn in the order of the queue, and is served
exactly when its path has something then. -/
structure FairPass (state : RateArbiterState) (now : ClockInstant) : Prop where
  ends : (state.dispatch now).2 = state.afterTurns now state.waiters.length
  visits : ∀ place waiter, state.waiters[place]? = some waiter →
    (state.afterTurns now place).waiters.head? = some waiter
  grants : ∀ place waiter, state.waiters[place]? = some waiter →
    ((∃ bytes, 0 < bytes ∧ state.outcome now place = some (.granted waiter bytes) ∧
        (state.afterTurns now (place + 1)).grants[waiter.id]? = some ⟨waiter.path, bytes⟩) ↔
      ((state.afterTurns now place).availableFor waiter.path now).1 ≠ 0)
  left : (state.dispatch now).2.waiters =
    (state.waiters.zipIdx.filter (state.passedOver now)).map Prod.fst
  spent : ∀ waiter ∈ (state.dispatch now).2.waiters,
    ((state.dispatch now).2.availableFor waiter.path now).1 = 0
  returns : ∀ delay, (state.dispatch now).1.1 = some delay ↔
    (∃ place < state.waiters.length, state.outcome now place = some (.delayed delay)) ∧
      ∀ place < state.waiters.length, ∀ other, state.outcome now place = some (.delayed other) →
        delay ≤ other
  wakes : ∀ place waiter delay, state.waiters[place]? = some waiter →
    state.outcome now place = some (.delayed delay) → state.globalSuspended = false →
    delay < 2 ^ 64 - 1 →
    (∀ other, place < other → other < state.waiters.length → ∀ served bytes,
      state.outcome now other = some (.granted served bytes) → ∀ key ∈ waiter.path.keys,
      key ∈ served.path.keys → ∀ bucket, state.bucket key = some bucket →
        bucket.limit.isUnlimited = true) →
    ∀ later : ClockInstant, later.val = now.val + delay →
      ((state.dispatch now).2.availableFor waiter.path later).1 ≠ 0

end RateArbiterState

open RateArbiterState in
/-- A pass over the queue is fair, and nothing is granted past a queue. -/
theorem dispatch_is_fair {state : RateArbiterState} (wellFormed : state.WellFormed)
    (now : ClockInstant) :
    state.FairPass now ∧ ∀ permits path requested, state.waiters ≠ [] →
      (RateSystem.tryAcquire ⟨state, permits⟩ path requested now).1 = none := by
  obtain ⟨tracked, asks, burst⟩ := wellFormed
  have ends : (state.dispatch now).2 = state.afterTurns now state.waiters.length :=
    state.foldl_dispatchTurn_snd now _
  have left : (state.dispatch now).2.waiters =
      (state.waiters.zipIdx.filter (state.passedOver now)).map Prod.fst := by
    simp [ends, afterTurns_waiters asks le_rfl]
  have queue : ∀ place waiter, state.waiters[place]? = some waiter →
      ∃ rest, (state.afterTurns now place).waiters = waiter :: rest := by
    intro place waiter found
    obtain ⟨inside, rfl⟩ := List.getElem?_eq_some_iff.mp found
    rw [afterTurns_waiters asks inside.le, drop_eq_getElem_cons inside]
    exact ⟨_, rfl⟩
  refine ⟨⟨ends, ?_, ?_, left, ?_, dispatch_delay, ?_⟩, ?_⟩
  · intro place waiter found
    obtain ⟨rest, same⟩ := queue place waiter found
    rw [same]
    rfl
  · intro place waiter found
    obtain ⟨rest, same⟩ := queue place waiter found
    have positive := asks waiter (mem_of_getElem? found)
    by_cases nothing : (state.afterTurns now place).offer now waiter = 0
    · have turn := turn_eq_delayed same nothing
      simp [outcome, turn, (offer_eq_zero positive).mp nothing]
    · have turn := turn_eq_granted same nothing
      have offered := mt (offer_eq_zero positive).mpr nothing
      simp only [outcome, afterTurns_succ, turn]
      simp [offered, Nat.pos_of_ne_zero nothing]
  · intro waiter member
    rw [left] at member
    obtain ⟨⟨waiter, place⟩, visited, rfl⟩ := mem_map.mp member
    obtain ⟨visited, nothing⟩ := mem_filter.mp visited
    obtain ⟨-, inside, -⟩ := mem_zipIdx visited
    rw [ends]
    refine spent_afterTurns ?_ (of_decide_eq_true nothing)
    omega
  · intro place waiter delay found delayed live short quiet later after
    obtain ⟨inside, -⟩ := List.getElem?_eq_some_iff.mp found
    obtain ⟨rest, same⟩ := queue place waiter found
    rw [ends]
    exact woken_afterTurns inside same delayed live (tracked waiter (mem_of_getElem? found))
      burst short quiet after
  · intro permits path requested waiting
    unfold RateSystem.tryAcquire
    split
    · rfl
    · rename_i arbiter ensured
      obtain rfl := eq_track_of_ensurePath ensured
      rw [if_pos (by simpa [track] using waiting)]

namespace DispatchSample

def slow : RatePath := ⟨1, 1, 1⟩

def quick : RatePath := ⟨2, 2, 2⟩

def config : RateArbiterConfig where
  global := ⟨1, 2⟩
  defaultHost := ⟨1000, 1⟩
  defaultTask := .unlimited
  defaultStream := .unlimited
  quantumBytes := Nat.succPNat 0
  maxWaiters := Nat.succPNat 1

def fresh : RateSystem := ⟨RateArbiterState.new config 0, []⟩

/-- The bucket of one host is empty, and the global one has a byte for the waiter behind. -/
def crowded : RateArbiterState :=
  let byte := Nat.succPNat 0
  (rateMachine.final fresh
    [(.tryAcquire slow byte, 0), (.enqueue slow byte, 0), (.enqueue quick byte, 0)]).arbiter

/-- A waiter is in the queue when the share of the process becomes zero. -/
def suspended : RateArbiterState :=
  (rateMachine.final fresh
    [(.enqueue slow (Nat.succPNat 0), 0), (.setGlobalAllocation (some 0), 0)]).arbiter

theorem crowded_wellFormed : crowded.WellFormed :=
  RateArbiterState.wellFormed_of_reachable ⟨fresh, ⟨config, 0, rfl⟩, _, Machine.run_trace _ _⟩

end DispatchSample

open DispatchSample in
theorem dispatch_is_fair_crowded :
    crowded.FairPass 0 ∧ (RateSystem.tryAcquire ⟨crowded, []⟩ quick 1 0).1 = none := by
  obtain ⟨fair, refused⟩ := dispatch_is_fair crowded_wellFormed 0
  exact ⟨fair, refused [] quick 1 (by decide +kernel)⟩

open DispatchSample in
/-- A waiter is woken before the grant that was made behind it is made up for, and what the
buckets of a path have is not granted while the arbiter is suspended. -/
theorem dispatch_wakes_early : (crowded.dispatch 0).1 = (some 1_000_000, true) ∧
      (crowded.dispatch 0).2.waiters = [⟨1, slow, 1⟩] ∧
      (crowded.dispatch 0).2.globalSuspended = false ∧
      ((crowded.dispatch 0).2.availableFor slow 1_000_000).1 = 0 ∧
      ((suspended.refillPath slow 0).readPath slow Bucket.available 0).min? = some 1 ∧
      (suspended.dispatch 0).2.waiters = [⟨1, slow, 1⟩] := by
  refine ⟨?_, ?_, ?_, ?_, ?_, ?_⟩ <;> decide +kernel

end Ariax
