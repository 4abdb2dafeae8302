import Ariax.Rate.Books

/-!
# Conformance

While the buckets keep their limits, every run of the arbiter conforms to
them: whenever bytes are granted, all that was taken through a finite bucket
of the path fits the burst of the bucket and the time since it was created, be
it with a default limit or with one of its own.
-/

namespace Ariax

open Bucket List Option RateArbiterState RateSystem Machine

abbrev RateStep := Step RateSystem (RateRequest × ClockInstant) (Option RateEvent)

/-- What was reserved through a bucket, less what came back and with what was charged beyond. -/
def taken (key : RateKey) (history : List RateStep) : ℤ :=
  (history.map fun step => (step.output.toList.map (RateEvent.balance key)).sum).sum

section

variable (start : ClockInstant)

def createdAt (key : RateKey) (history : List RateStep) : Option ClockInstant :=
  history.foldl (fun made step =>
    if (step.before.arbiter.bucket key).isNone && (step.after.arbiter.bucket key).isSome then
      some step.input.2
    else made) (key.elim (some start) fun _ => none)

def InOrder (history : List RateStep) : Prop :=
  (start :: history.map fun step => step.input.2).IsChain (· ≤ ·)

def lastInstant (history : List RateStep) : ClockInstant :=
  history.foldl (fun _ step => step.input.2) start

end

/-! ## Runs -/

theorem taken_snoc (key : RateKey) (history : List RateStep) (step : RateStep) :
    taken key (history ++ [step]) =
      taken key history + (step.output.toList.map (RateEvent.balance key)).sum := by
  simp [taken]

theorem createdAt_snoc (start : ClockInstant) (key : RateKey) (history : List RateStep)
    (step : RateStep) :
    createdAt start key (history ++ [step]) =
      if (step.before.arbiter.bucket key).isNone && (step.after.arbiter.bucket key).isSome then
        some step.input.2
      else createdAt start key history := by
  simp [createdAt]

theorem lastInstant_snoc (start : ClockInstant) (history : List RateStep) (step : RateStep) :
    lastInstant start (history ++ [step]) = step.input.2 := by
  simp [lastInstant]

variable {start : ClockInstant} {history : List RateStep}

theorem inOrder_snoc {step : RateStep} : InOrder start (history ++ [step]) ↔
      InOrder start history ∧ lastInstant start history ≤ step.input.2 := by
  induction history generalizing start with
  | nil => simp [InOrder, lastInstant]
  | cons first _ ih =>
    have tail := @ih first.input.2
    simp only [InOrder, cons_append, map_cons, isChain_cons_cons] at tail ⊢
    rw [tail, and_assoc]
    rfl

theorem Books.new {config : RateArbiterConfig} {fresh : RateSystem}
    (new : RateSystem.new config start = .ok fresh) :
    Books fresh start (fun key => taken key [])
      fun key instant => createdAt start key [] = some instant := by
  have sound := RateSystem.Sound.new new
  obtain ⟨rfl, global, -⟩ := RateSystem.eq_of_new new
  refine ⟨sound, ?_, ?_, ?_⟩
  · intro key bucket found
    cases key with
    | none =>
      obtain rfl := some.inj found
      exact le_rfl
    | some => simp [RateArbiterState.bucket, RateArbiterState.new] at found
  · intro key bucket found finite
    cases key with
    | none =>
      obtain rfl := some.inj found
      refine ⟨start, rfl, ?_⟩
      change Booked (Bucket.new config.global start) start 0 (Flight.bytes ⟨∅, []⟩ none : ℕ)
      exact Booked.new global start
    | some => simp [RateArbiterState.bucket, RateArbiterState.new] at found
  · exact fun _ _ => rfl

theorem Books.of_run {config : RateArbiterConfig} {fresh system : RateSystem}
    (new : RateSystem.new config start = .ok fresh) (run : rateMachine.Run fresh history system)
    (keeps : Guarded (fun system input => input.1.KeepsLimits system) history)
    (ordered : InOrder start history) :
    Books system (lastInstant start history) (fun key => taken key history)
      fun key instant => createdAt start key history = some instant := by
  induction run with
  | nil => exact .new new
  | @snoc history system run input ih =>
    obtain ⟨request, now⟩ := input
    obtain ⟨earlier, later⟩ := inOrder_snoc.mp ordered
    obtain ⟨kept, last⟩ := guarded_snoc.mp keeps
    have books := ih kept earlier
    let step : RateStep := rateMachine.step system (request, now)
    have here : Books system now (fun key => taken key history)
        fun key instant => createdAt start key (history ++ [step]) = some instant := by
      refine books.mono later ?_
      intro key instant there made
      rw [createdAt_snoc, if_neg, made]
      simp [step, there]
    simp only [taken_snoc, lastInstant_snoc]
    refine here.moves (fun key missing there => ?_) le_rfl (system.moves_next now last)
    rw [createdAt_snoc, if_pos]
    · rfl
    · have made : ((system.next request now).2.arbiter.bucket key).isSome = true :=
        isSome_iff_ne_none.mpr there
      simp [step, missing, rateMachine, made]

/-- While the buckets keep their limits, for every run with instants in order and every further
call: a finite bucket never holds more than its burst; a grant is no more than was requested and
no more than a quantum, is taken from all four buckets of its path, and leaves what was taken
through each finite one within its burst and the time since it was created; a call without an
event charges nothing; and refilling in steps is refilling once, as long as neither the burst nor
the width of the counters cuts what accrues. -/
theorem rateArbiter_conforms {config : RateArbiterConfig} {start : ClockInstant}
    {fresh system : RateSystem} {history : List RateStep} {request : RateRequest}
    {now : ClockInstant} (new : RateSystem.new config start = .ok fresh)
    (run : rateMachine.Run fresh history system)
    (keeps : Guarded (fun system input => input.1.KeepsLimits system)
      (history ++ [rateMachine.step system (request, now)]))
    (ordered : InOrder start (history ++ [rateMachine.step system (request, now)])) :
    (∀ key bucket, (system.next request now).2.arbiter.bucket key = some bucket →
      bucket.limit.isUnlimited = false → bucket.tokens ≤ bucket.limit.burstBytes.val) ∧
    (∀ path requested bytes, (system.next request now).1 = some (.granted path requested bytes) →
      Granted (system.arbiter.track path now) (system.next request now).2.arbiter path requested
        bytes now ∧
      ∀ key ∈ path.keys, ∀ bucket,
        (system.next request now).2.arbiter.bucket key = some bucket →
        bucket.limit.isUnlimited = false →
        ∃ created, createdAt start key
            (history ++ [rateMachine.step system (request, now)]) = some created ∧
          taken key (history ++ [rateMachine.step system (request, now)]) ≤
            bucket.limit.burstBytes.val +
              (bucket.limit.bytesPerSecond.val * (now.val - created.val) / 1_000_000_000 : ℕ)) ∧
    ((system.next request now).1 = none →
      Uncharged system.arbiter (system.next request now).2.arbiter now) ∧
    ∀ key bucket, system.arbiter.bucket key = some bucket →
      bucket.limit.isUnlimited = false → ∀ (instants : List ClockInstant) (last : ClockInstant),
        (bucket.updatedAt :: instants ++ [last]).IsChain (· ≤ ·) →
        bucket.accrual last < 2 ^ 128 →
        bucket.tokens + (bucket.accrual last / 1_000_000_000 : ℕ) ≤ bucket.limit.burstBytes.val →
        (instants.foldl refill bucket).refill last = bucket.refill last := by
  have last : request.KeepsLimits system := (guarded_snoc.mp keeps).2
  have books := Books.of_run new run (guarded_snoc.mp keeps).1 (inOrder_snoc.mp ordered).1
  have next := Books.of_run new (run.snoc (request, now)) keeps ordered
  refine ⟨?_, ?_, ?_, ?_⟩
  · intro key bucket found finite
    obtain ⟨_, _, booked⟩ := next.booked key bucket found finite
    exact booked.tokens_le
  · intro path requested bytes event
    have granted := RateSystem.granted_of_next books.waiters event
    refine ⟨granted, ?_⟩
    intro key member bucket found finite
    obtain ⟨created, made, booked⟩ := next.booked key bucket found finite
    obtain ⟨old, -, -, new, exact⟩ := granted.charged key member
    obtain rfl := some.inj (found.symm.trans new)
    have held := (exact (by simpa using finite)).1
    have within := booked.within held (Int.natCast_nonneg _)
    rw [reserve_updatedAt, refill_updatedAt] at within
    exact ⟨created, made, within⟩
  · intro none
    exact (system.moves_next now last).uncharged (by rw [none]; rfl)
  · intro key bucket found finite instants last ordered narrow uncapped
    obtain ⟨_, _, booked⟩ := books.booked key bucket found finite
    have sorted := pairwise_append.mp ordered.pairwise
    exact foldl_refill sorted.1.isChain
      (fun instant member => sorted.2.2 instant member last (mem_singleton_self last))
      ⟨finite, booked.floor_le, narrow, uncapped⟩

namespace RateSample

def path : RatePath := ⟨1, 2, 3⟩

def config : RateArbiterConfig where
  global := .perSecond 100
  defaultHost := .unlimited
  defaultTask := .unlimited
  defaultStream := .unlimited
  quantumBytes := 16
  maxWaiters := 1

def fresh : RateSystem := ⟨new config 0, []⟩

/-- The host is given a limit of its own, and a permit is settled beyond what it had reserved. -/
def calls : List (RateRequest × ClockInstant) :=
  [(.setScopedLimit (.host 1) (.perSecond 50), 1), (.tryAcquire path 16, 2), (.settle 0 18, 3)]

end RateSample

open RateSample in
theorem rateArbiter_conforms_scoped :
    let system := rateMachine.final fresh calls
    let history := rateMachine.trace fresh calls ++
      [rateMachine.step system (.tryAcquire path 20, 4)]
    (system.next (.tryAcquire path 20) 4).1 = some (.granted path 20 16) ∧
      createdAt 0 (some (.host 1)) history = some 1 ∧
      taken (some (.host 1)) history ≤ 50 + (50 * 3 / 1_000_000_000 : ℕ) := by
  intro system history
  have new : RateSystem.new config 0 = .ok fresh := rfl
  have keeps : Guarded (fun system input => input.1.KeepsLimits system) history := by
    simp only [Guarded, history, calls, trace, cons_append, nil_append, mem_cons, not_mem_nil,
      or_false]
    rintro step (rfl | rfl | rfl | rfl)
    exacts [rfl, trivial, trivial, trivial]
  have ordered : InOrder 0 history := by
    simp only [InOrder, history, calls, trace]
    decide
  have granted : (system.next (.tryAcquire path 20) 4).1 = some (.granted path 20 16) := by
    decide +kernel
  have limit : ((system.next (.tryAcquire path 20) 4).2.arbiter.bucket (some (.host 1))).map
      Bucket.limit = some (.perSecond 50) := by
    decide +kernel
  have first : createdAt 0 (some (.host 1)) history = some 1 := by
    decide +kernel
  obtain ⟨bucket, found, limit⟩ := map_eq_some_iff.mp limit
  have conforms := (@rateArbiter_conforms config 0 fresh system (rateMachine.trace fresh calls)
    (.tryAcquire path 20) 4 new (run_trace fresh calls) keeps ordered).2.1
  have member : some (.host 1) ∈ path.keys := by decide
  have finite : bucket.limit.isUnlimited = false := by
    rw [limit]
    rfl
  obtain ⟨created, made, within⟩ := (conforms path 20 16 granted).2 _ member bucket found finite
  obtain rfl := some.inj (first.symm.trans made)
  rw [limit] at within
  exact ⟨granted, first, within⟩

/-! ## Refills that overflow

A bucket so deep in debt that even the widest refill leaves it there still
loses what a single refill over a long time cannot count. -/

namespace Overdraft

open RateSample (path)

def limit : RateLimit := ⟨18_446_744_073_000_000_000, 4_194_304⟩

def config : RateArbiterConfig where
  global := limit
  defaultHost := .unlimited
  defaultTask := .unlimited
  defaultStream := .unlimited
  quantumBytes := 1
  maxWaiters := 1

def fresh : RateSystem := ⟨new config 0, []⟩

/-- The buckets below the global one belong to the path and are not limited. -/
def Free (state : RateArbiterState) : Prop :=
  ∀ scope bucket, state.bucket (some scope) = some bucket →
    scope ∈ path.scopes ∧ bucket.limit = .unlimited

/-- The arbiter with a number of permits of one byte and the tokens that are left. -/
structure Holds (system : RateSystem) (count : ℕ) (tokens : ℤ) (now : ClockInstant) : Prop where
  config_eq : system.arbiter.config = config
  live : system.arbiter.globalSuspended = false
  idle : system.arbiter.waiters = []
  global : system.arbiter.global = ⟨limit, tokens, 0, now⟩
  scopes : Free system.arbiter
  permits : system.permits = replicate count ⟨path, 1⟩

theorem holds_fresh : Holds fresh 0 4_194_304 0 where
  config_eq := rfl
  live := rfl
  idle := rfl
  global := rfl
  scopes := by
    intro scope bucket found
    simp [fresh, RateArbiterState.bucket, RateArbiterState.new] at found
  permits := rfl

variable {system : RateSystem} {count : ℕ} {tokens : ℤ} {now : ClockInstant}

theorem rate_val : limit.bytesPerSecond.val = 18_446_744_073_000_000_000 := rfl

theorem burst_val : limit.burstBytes.val = 4_194_304 := rfl

theorem finite : limit.isUnlimited = false := by decide

theorem Holds.ensurePath (holds : Holds system count tokens now) (next : ClockInstant) :
    system.arbiter.ensurePath path next = .ok (system.arbiter.track path next) := by
  have few : system.arbiter.scopes.size ≤ path.scopes.length := by
    refine OrderedMap.size_le_length ?_
    intro scope there
    obtain ⟨entry, stored⟩ := isSome_iff_exists.mp there
    refine (holds.scopes scope entry.bucket ?_).1
    rw [bucket, stored]
    rfl
  have missing := @List.countP_le_length _ (fun scope => !system.arbiter.scopes.contains scope)
    path.scopes
  have three : path.scopes.length = 3 := rfl
  simp only [RateArbiterState.ensurePath]
  rw [if_neg]
  simp only [trackedScopes, maxRateTrackedScopes]
  omega

variable {state : RateArbiterState} {next : ClockInstant}

/-- A nanosecond fills the bucket, and leaves no fraction. -/
theorem refill_full (held : 0 ≤ tokens) (later : next.val = now.val + 1) :
    (Bucket.mk limit tokens 0 now).refill next = ⟨limit, 4_194_304, 0, next⟩ := by
  have accrued : (Bucket.mk limit tokens 0 now).numerator next = 18_446_744_073_000_000_000 := by
    simp only [numerator, saturateU128, rate_val]
    omega
  rw [refill_of_finite _ next finite, accrued]
  simp only [saturateI128, burst_val]
  congr 1
  omega

theorem reserve_exact {bytes : ℕ} (capped : tokens ≤ 4_194_304) (deep : -(2 ^ 126) ≤ tokens)
    (small : bytes < 2 ^ 64) :
    (Bucket.mk limit tokens 0 now).reserve bytes = ⟨limit, tokens - bytes, 0, now⟩ := by
  rw [reserve_of_finite _ bytes finite]
  simp only [saturateI128]
  congr 1
  omega

theorem Free.onPath (free : Free state) {change : Bucket → Bucket}
    (limit : ∀ bucket, (change bucket).limit = bucket.limit) : Free (state.onPath path change) := by
  intro scope bucket found
  rw [bucket_onPath] at found
  split at found
  · obtain ⟨old, was, rfl⟩ := map_eq_some_iff.mp found
    rw [limit]
    exact free scope old was
  · exact free scope bucket found

theorem Free.track (free : Free state) (same : state.config = config) (next : ClockInstant) :
    Free (state.track path next) := by
  intro scope bucket found
  cases was : state.bucket (some scope) with
  | some old =>
    rw [state.bucket_track_of_some was] at found
    obtain rfl := some.inj found
    exact free scope old was
  | none =>
    rw [bucket_track, was] at found
    split at found
    · rename_i member
      obtain rfl := some.inj found
      refine ⟨member, ?_⟩
      rw [same]
      cases scope <;> rfl
    · cases found

theorem Free.refillPath (free : Free state) (next : ClockInstant) :
    Free (state.refillPath path next) :=
  free.onPath fun bucket => bucket.refill_limit next

theorem Holds.draw (holds : Holds system count tokens now) (held : 0 ≤ tokens)
    (later : next.val = now.val + 1) :
    Holds (system.next (.tryAcquire path 1) next).2 (count + 1) 4_194_303 next := by
  have full : system.arbiter.global.refill next = ⟨limit, 4_194_304, 0, next⟩ := by
    rw [holds.global, refill_full held later]
  have tracked : Free (system.arbiter.track path next) :=
    Free.track holds.scopes holds.config_eq next
  have offered : 1 ≤ ((system.arbiter.track path next).availableFor path next).1 := by
    refine le_availableFor _ holds.live (by decide) ?_
    intro key member bucket found
    cases key with
    | none =>
      obtain rfl := some.inj found
      change 1 ≤ (system.arbiter.global.refill next).available
      rw [full, available_of_finite _ finite]
      exact (by decide : 1 ≤ min (max (4_194_304 : ℤ) 0).toNat (2 ^ 64 - 1))
    | some scope =>
      have free := (tracked scope bucket found).2
      rw [available, refill_limit, free, if_pos (by decide)]
      decide
  have bytes : min (min ((1 : ℕ+) : ℕ) (system.arbiter.track path next).config.quantumBytes)
      ((system.arbiter.track path next).availableFor path next).1 = 1 := by
    have quantum : ((system.arbiter.track path next).config.quantumBytes : ℕ) = 1 := by
      change (system.arbiter.config.quantumBytes : ℕ) = 1
      rw [holds.config_eq]
      rfl
    rw [quantum]
    simpa using offered
  obtain ⟨refilled, -⟩ := offered_of_le next one_ne_zero offered
  have result : (system.next (.tryAcquire path 1) next).2 =
      ⟨((system.arbiter.track path next).refillPath path next).reserve path 1 next,
        system.permits ++ [⟨path, 1⟩]⟩ := by
    have waiting : (system.arbiter.track path next).waiters = [] := holds.idle
    simp only [RateSystem.next, RateSystem.tryAcquire, holds.ensurePath, waiting, bytes, refilled]
    rfl
  rw [result]
  refine ⟨holds.config_eq, holds.live, holds.idle, ?_, ?_, ?_⟩
  · change ((system.arbiter.global.refill next).refill next).reserve 1 = _
    rw [refill_idem, full, reserve_exact le_rfl (by decide) (by decide)]
    rfl
  · exact ((tracked.refillPath next).refillPath next).onPath fun bucket => bucket.reserve_limit 1
  · rw [holds.permits, replicate_succ']

theorem Holds.settle (holds : Holds system (count + 1) tokens now) (capped : tokens ≤ 4_194_304)
    (deep : -(2 ^ 125) ≤ tokens) :
    Holds (system.next (.settle 0 18_446_744_073_709_551_615) now).2 count
      (tokens - 18_446_744_073_709_551_614) now := by
  have result : (system.next (.settle 0 18_446_744_073_709_551_615) now).2 =
      ⟨(system.arbiter.chargeExtra path 18_446_744_073_709_551_614 now).refillPath path now,
        replicate count ⟨path, 1⟩⟩ := by
    have first : system.permits[0]? = some ⟨path, 1⟩ := by
      rw [holds.permits]
      rfl
    simp only [RateSystem.next, RateSystem.settle, first]
    rw [holds.permits]
    rfl
  have same {left : ℤ} (capped : left ≤ 4_194_304) (deep : -(2 ^ 126) ≤ left) :
      (Bucket.mk limit left 0 now).refill now = ⟨limit, left, 0, now⟩ :=
    refill_of_updatedAt _ rfl (by simp only; omega) (by simp only [burst_val]; omega)
      (Nat.zero_lt_succ _)
  rw [result]
  refine ⟨holds.config_eq, holds.live, holds.idle, ?_, ?_, rfl⟩
  · change ((system.arbiter.global.refill now).reserve 18_446_744_073_709_551_614).refill now = _
    rw [holds.global, same capped (by omega), reserve_exact capped (by omega) (by decide)]
    exact same (by omega) (by omega)
  · exact (Free.onPath (Free.refillPath holds.scopes now) fun bucket =>
      bucket.reserve_limit _).refillPath now

/-- A run that leaves the limits alone and whose instants are in order. -/
structure Reaches (history : List RateStep) (system : RateSystem) (now : ClockInstant) : Prop where
  run : rateMachine.Run fresh history system
  keeps : Guarded (fun system input => input.1.KeepsLimits system) history
  ordered : InOrder 0 history
  last : lastInstant 0 history = now

theorem Reaches.snoc {history : List RateStep} {request : RateRequest}
    (reaches : Reaches history system now) (keeps : request.KeepsLimits system)
    (later : now ≤ next) :
    Reaches (history ++ [rateMachine.step system (request, next)]) (system.next request next).2
      next where
  run := reaches.run.snoc (request, next)
  keeps := guarded_snoc.mpr ⟨reaches.keeps, keeps⟩
  ordered := inOrder_snoc.mpr ⟨reaches.ordered, reaches.last ▸ later⟩
  last := lastInstant_snoc 0 history _

theorem exists_drawn (count : ℕ) (now : ClockInstant) (last : now.val = count + 1) :
    ∃ history system, Reaches history system now ∧ Holds system (count + 1) 4_194_303 now := by
  have keeps (system : RateSystem) : RateRequest.KeepsLimits system (.tryAcquire path 1) := trivial
  induction count generalizing now with
  | zero =>
    have start : Reaches [] fresh 0 := ⟨.nil, by rintro _ ⟨⟩, by simp [InOrder], rfl⟩
    exact ⟨_, _, start.snoc (keeps _) (Fin.zero_le now), holds_fresh.draw (by decide) last⟩
  | succ count ih =>
    obtain ⟨history, system, reaches, holds⟩ := ih ⟨count + 1, by omega⟩ rfl
    exact ⟨_, _, reaches.snoc (keeps _) (Fin.le_def.mpr (by simp only; omega)),
      holds.draw (by decide) last⟩

/-- The permits are settled one after the other, far beyond what they had reserved. -/
theorem exists_settled (settled left : ℕ) (all : settled + left = 1_099_511_627_776) :
    ∃ history system, Reaches history system 1_099_511_627_776 ∧
      Holds system left (4_194_303 - settled * 18_446_744_073_709_551_614)
        1_099_511_627_776 := by
  induction settled generalizing left with
  | zero =>
    obtain rfl : left = 1_099_511_627_776 := by omega
    simpa using exists_drawn 1_099_511_627_775 1_099_511_627_776 rfl
  | succ settled ih =>
    obtain ⟨history, system, reaches, holds⟩ := ih (left + 1) (by omega)
    have keeps : RateRequest.KeepsLimits system (.settle 0 18_446_744_073_709_551_615) := trivial
    refine ⟨_, _, reaches.snoc keeps le_rfl, ?_⟩
    convert holds.settle (by omega) (by omega) using 1
    omega

end Overdraft

open Overdraft in
/-- Without a bound on what accrues the last part fails: a bucket that permits settled far
beyond their reservations have driven into debt counts less in one long refill than in two
shorter ones, although the burst is not reached by far. -/
theorem rateArbiter_refill_saturates : ∃ history system, rateMachine.Run fresh history system ∧
      Guarded (fun system input => input.1.KeepsLimits system) history ∧ InOrder 0 history ∧
      ∃ bucket, system.arbiter.bucket none = some bucket ∧ bucket.limit.isUnlimited = false ∧
        ∃ first last : ClockInstant, bucket.updatedAt ≤ first ∧ first ≤ last ∧
          bucket.tokens + (bucket.accrual last / 1_000_000_000 : ℕ) ≤
            bucket.limit.burstBytes.val ∧
          (bucket.refill first).refill last ≠ bucket.refill last := by
  obtain ⟨history, system, reaches, holds⟩ := exists_settled 1_099_511_627_776 0 rfl
  exact ⟨history, system, reaches.run, reaches.keeps, reaches.ordered, _,
    congrArg some holds.global, finite, 36_893_489_246_930_731_008, 73_786_977_394_349_834_240,
    by decide, by decide, by decide +kernel, by decide +kernel⟩

end Ariax
