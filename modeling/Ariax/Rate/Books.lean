import Ariax.Rate.Limits

/-!
# The books of the arbiter

For every finite bucket, what was granted through it, less what came back
and with what was charged beyond the grants, is covered by its burst and by
the time since it was created. Every move keeps the books.
-/

namespace Ariax

open List Option RateEvent

/-- What an event adds to the bytes taken through a bucket. -/
def RateEvent.balance (key : RateKey) : RateEvent → ℤ
  | .granted path _ bytes => path.share key bytes
  | .refunded path bytes => -path.share key bytes
  | .charged path bytes => path.share key bytes

theorem sum_toList_some {α M : Type} [AddMonoid M] (f : α → M) (a : α) :
    ((some a).toList.map f).sum = f a := by
  simp

/-- The books of an arbiter and of its permits. -/
structure Books (system : RateSystem) (clock : ClockInstant) (net : RateKey → ℤ)
    (created : RateKey → ClockInstant → Prop) : Prop extends system.Sound where
  clock_le : ∀ key bucket, system.arbiter.bucket key = some bucket → bucket.updatedAt ≤ clock
  booked : ∀ key bucket, system.arbiter.bucket key = some bucket →
    bucket.limit.isUnlimited = false → ∃ instant, created key instant ∧
      Booked bucket instant (net key) (system.flight.bytes key)
  untracked : ∀ key, system.arbiter.bucket key = none → net key = 0

/-! ## Moves keep the books -/

namespace Books

variable {system : RateSystem} {clock now : ClockInstant} {net net' : RateKey → ℤ}
  {created created' : RateKey → ClockInstant → Prop}

theorem mono (books : Books system clock net created) (later : clock ≤ now)
    (more : ∀ key instant, system.arbiter.bucket key ≠ none → created key instant →
      created' key instant) :
    Books system now net created' :=
  { books with
    clock_le := fun key bucket found => (books.clock_le key bucket found).trans later
    booked := by
      intro key bucket found finite
      obtain ⟨instant, made, booked⟩ := books.booked key bucket found finite
      refine ⟨instant, more key instant ?_ made, booked⟩
      rw [found]
      exact some_ne_none _ }

variable {after : RateSystem} {event : Option RateEvent} (books : Books system clock net created)
  (fresh : ∀ key, system.arbiter.bucket key = none → after.arbiter.bucket key ≠ none →
    created key now)
include books fresh

/-- It is enough to say what becomes of each bucket that is there: a new one has its books by
itself. -/
theorem rework (move : RateMove now system event after)
    (buckets : ∀ key old bucket, system.arbiter.bucket key = some old →
      after.arbiter.bucket key = some bucket → bucket.updatedAt ≤ now ∧
      (old.limit.isUnlimited = false → ∀ instant,
      Booked old instant (net key) (system.flight.bytes key) →
      Booked bucket instant (net' key) (after.flight.bytes key)))
    (untracked : ∀ key, system.arbiter.bucket key = none →
      net' key = 0 ∧ after.flight.bytes key ≤ system.flight.bytes key) :
    Books after now net' created where
  toSound := move.sound books.toSound
  clock_le := by
    intro key bucket found
    cases was : system.arbiter.bucket key with
    | none =>
      obtain ⟨limit, -, rfl⟩ := move.bucket_of_none was found books.defaults
      exact le_rfl
    | some old => exact (buckets key old bucket was found).1
  booked := by
    intro key bucket found finite
    cases was : system.arbiter.bucket key with
    | none =>
      obtain ⟨limit, valid, rfl⟩ := move.bucket_of_none was found books.defaults
      obtain ⟨unbooked, fewer⟩ := untracked key was
      rw [books.bytes_eq_zero was, Nat.le_zero] at fewer
      rw [unbooked, fewer]
      exact ⟨now, fresh key was (by simp [found]), .new valid now⟩
    | some old =>
      obtain ⟨next, there, limit, -⟩ := move.bucket_of_some was
      obtain rfl := some.inj (there.symm.trans found)
      rw [limit] at finite
      obtain ⟨instant, made, booked⟩ := books.booked key old was finite
      exact ⟨instant, made, (buckets key old next was found).2 finite instant booked⟩
  untracked := by
    intro key missing
    refine (untracked key ?_).1
    by_contra there
    exact move.bucket_ne_none there missing

variable (later : clock ≤ now)
include later

theorem quiet (move : RateMove now system none after)
    (bytes_le : ∀ key, after.flight.bytes key ≤ system.flight.bytes key) :
    Books after now (fun key => net key + (none.toList.map (balance key)).sum) created := by
  simp only [toList_none, map_nil, sum_nil, add_zero]
  refine books.rework fresh move (fun key old bucket was found => ?_) fun key missing =>
    ⟨books.untracked key missing, bytes_le key⟩
  obtain ⟨next, there, -, kept⟩ := move.bucket_of_some was
  obtain rfl := some.inj (there.symm.trans found)
  have sooner := (books.clock_le key old was).trans later
  rcases kept rfl with rfl | rfl
  · exact ⟨sooner, fun _ _ booked => booked.lose (Int.ofNat_le.mpr (bytes_le key))⟩
  · refine ⟨(old.refill_updatedAt now).le, fun finite instant booked => ?_⟩
    exact (booked.refill finite sooner).lose (Int.ofNat_le.mpr (bytes_le key))

omit fresh in
theorem onPath {path : RatePath} {change : Bucket → Bucket} {flight : Flight}
    (fresh : ∀ key, system.arbiter.bucket key = none →
      (RateSystem.fly ((system.arbiter.refillPath path now).onPath path change)
        flight).arbiter.bucket key ≠ none → created key now)
    (move : RateMove now system event (.fly ((system.arbiter.refillPath path now).onPath path
      change) flight)) (tracks : system.arbiter.Tracks path)
    (updated : ∀ bucket, (change bucket).updatedAt = bucket.updatedAt)
    (mine : ∀ key ∈ path.keys, ∀ bucket : Bucket, system.arbiter.bucket key = some bucket →
      (bucket.refill now).limit.isUnlimited = false → ∀ instant,
      Booked (bucket.refill now) instant (net key) (system.flight.bytes key) →
      Booked (change (bucket.refill now)) instant (net' key) (flight.bytes key))
    (others : ∀ key, key ∉ path.keys → net' key = net key ∧
      flight.bytes key ≤ system.flight.bytes key) :
    Books (.fly ((system.arbiter.refillPath path now).onPath path change) flight) now net'
      created := by
  have buckets (key : RateKey) := RateArbiterState.bucket_refillPath_onPath system.arbiter path
    change now key
  refine books.rework fresh move (fun key old bucket was found => ?_) fun key missing => ?_
  · have found := (buckets key).symm.trans found
    rw [was] at found
    split at found
    · rename_i member
      obtain rfl := some.inj found
      refine ⟨by rw [updated, old.refill_updatedAt], fun finite instant booked => ?_⟩
      exact mine key member old was (by rwa [old.refill_limit]) instant
        (booked.refill finite ((books.clock_le key old was).trans later))
    · rename_i outside
      obtain rfl := some.inj found
      obtain ⟨same, fewer⟩ := others key outside
      rw [same]
      exact ⟨(books.clock_le key old was).trans later, fun _ _ booked =>
        booked.lose (Int.ofNat_le.mpr fewer)⟩
  · obtain ⟨same, fewer⟩ := others key fun member => tracks key member missing
    exact ⟨same.trans (books.untracked key missing), fewer⟩

theorem move (move : RateMove now system event after) :
    Books after now (fun key => net key + (event.toList.map (balance key)).sum)
      created := by
  have whole := move
  cases move with
  | create | refill | stats | queue => exact books.quiet fresh later whole fun _ => le_rfl
  | grant path _ bytes _ known positive _ offered gains =>
    have tracks : system.arbiter.Tracks path := by
      rcases known with tracks | ⟨waiter, queued, rfl⟩
      · exact tracks
      · exact books.waiters waiter queued
    refine books.onPath later fresh whole tracks (fun bucket => bucket.reserve_updatedAt bytes)
      ?_ ?_
    · intro key member bucket found finite instant booked
      have more := gains.bytes_le key
      simp only [sum_toList_some, balance, path.share_of_mem member] at more ⊢
      have granted := booked.reserve finite positive (offered key member bucket found)
        (Int.natCast_nonneg _)
      exact granted.lose (by exact_mod_cast more)
    · intro key outside
      have more := gains.bytes_le key
      simpa [balance, path.share_of_not_mem outside] using more
  | refund path bytes _ _ unused sheds =>
    refine books.onPath later fresh whole (books.flying path sheds.covered)
      (fun bucket => bucket.refund_updatedAt bytes) ?_ ?_
    · intro key member bucket found finite instant booked
      have less := sheds.bytes_eq key
      simp only [sum_toList_some, balance, path.share_of_mem member] at less ⊢
      refine (booked.refund finite unused).lose ?_
      omega
    · intro key outside
      have less := sheds.bytes_eq key
      simpa [balance, path.share_of_not_mem outside] using less.le
  | charge path bytes reserved _ word sheds =>
    refine books.onPath later fresh whole (books.flying path sheds.covered)
      (fun bucket => bucket.reserve_updatedAt bytes) ?_ ?_
    · intro key member bucket found finite instant booked
      have less := sheds.bytes_eq key
      simp only [sum_toList_some, balance, path.share_of_mem member] at less ⊢
      refine (booked.chargeExtra finite reserved word).lose ?_
      omega
    · intro key outside
      have less := sheds.bytes_eq key
      simpa [balance, path.share_of_not_mem outside] using less.le
  | pass _ bytes_le => exact books.quiet fresh later whole bytes_le

theorem moves {events : List RateEvent} (moves : RateMoves now system events after) :
    Books after now (fun key => net key + (events.map (balance key)).sum) created := by
  induction moves generalizing clock net with
  | nil => simpa using books.mono later fun _ _ _ => id
  | cons move rest ih =>
    have first := books.move
      (fun key missing there => fresh key missing (rest.bucket_ne_none there)) later move
    have whole := ih first (fun key missing => fresh key (by
      by_contra there
      exact move.bucket_ne_none there missing)) le_rfl
    simpa only [map_append, sum_append, add_assoc] using whole

end Books

/-! ## What one call charges

Bytes are granted only when all four buckets of a path have them, and are
then taken from all of them. A call that neither grants nor settles anything
leaves every bucket as it was or refills it.
-/

open RateArbiterState

/-- A grant: within what was requested and within one quantum, had by all four buckets of the
path, taken from all of them and from no other. -/
structure Granted (before after : RateArbiterState) (path : RatePath) (requested bytes : ℕ)
    (now : ClockInstant) : Prop where
  positive : 0 < bytes
  bounded : bytes ≤ min requested before.config.quantumBytes
  charged : ∀ key ∈ path.keys, ∃ bucket, before.bucket key = some bucket ∧
    bytes ≤ (bucket.refill now).available ∧
    after.bucket key = some ((bucket.refill now).reserve bytes) ∧
    (bucket.limit.isUnlimited = false →
      0 ≤ ((bucket.refill now).reserve bytes).tokens ∧
        ((bucket.refill now).reserve bytes).tokens = (bucket.refill now).tokens - bytes)
  others : ∀ key, key ∉ path.keys → after.bucket key = before.bucket key

/-- No bucket is charged: each is left as it was or refilled. -/
def Uncharged (before after : RateArbiterState) (now : ClockInstant) : Prop :=
  ∀ key bucket, before.bucket key = some bucket →
    after.bucket key = some bucket ∨ after.bucket key = some (bucket.refill now)

/-! ## What one call charges -/

namespace Granted

variable {state after : RateArbiterState} {path : RatePath} {requested bytes : ℕ}
  {now : ClockInstant}

theorem reserve (tracks : state.Tracks path) (positive : bytes ≠ 0)
    (bounded : bytes ≤ min requested state.config.quantumBytes)
    (offered : bytes ≤ (state.availableFor path now).1) :
    Granted state ((state.availableFor path now).2.reserve path bytes now) path requested bytes
      now := by
  obtain ⟨same, held⟩ := RateSystem.offered_of_le now positive offered
  rw [same, RateArbiterState.reserve]
  refine ⟨Nat.pos_of_ne_zero positive, bounded, ?_, ?_⟩
  · intro key member
    obtain ⟨bucket, found⟩ := Option.ne_none_iff_exists'.mp (tracks key member)
    have refilled : (state.refillPath path now).bucket key = some (bucket.refill now) :=
      state.bucket_refillPath_of_mem member found
    have enough := held key member _ refilled
    rw [bucket.refill_idem] at enough
    refine ⟨bucket, found, enough, ?_, ?_⟩
    · rw [bucket_refillPath_onPath, if_pos member, refilled, Option.map_some, bucket.refill_idem]
    · intro finite
      exact Bucket.reserve_tokens _ (by simpa using finite) (Nat.pos_of_ne_zero positive) enough
        (bucket.refill_tokens_lt now finite)
  · intro key outside
    rw [bucket_refillPath_onPath, if_neg outside, bucket_refillPath, if_neg outside]

theorem congr {state' after' : RateArbiterState}
    (granted : Granted state after path requested bytes now)
    (config : state'.config = state.config)
    (before : ∀ key, state'.bucket key = state.bucket key)
    (same : ∀ key, after'.bucket key = after.bucket key) :
    Granted state' after' path requested bytes now := by
  obtain ⟨positive, bounded, charged, others⟩ := granted
  refine ⟨positive, by rwa [config], ?_, ?_⟩
  · intro key member
    rw [before, same]
    exact charged key member
  · intro key outside
    rw [before, same]
    exact others key outside

end Granted

variable {now : ClockInstant} {second first : RateSystem} {path : RatePath}

theorem RateArbiterState.Tracks.bucket_track {state : RateArbiterState} (tracks : state.Tracks path)
    (now : ClockInstant) (key : RateKey) :
    (state.track path now).bucket key = state.bucket key := by
  cases key with
  | none => rfl
  | some =>
    rw [RateArbiterState.bucket_track]
    split
    · rename_i member
      obtain ⟨bucket, found⟩ :=
        Option.ne_none_iff_exists'.mp (tracks _ (RatePath.some_mem_keys.mpr member))
      rw [found]
      rfl
    · rfl

/-- What a call grants is a grant, on the buckets with those of the path that were missing. -/
theorem RateSystem.granted_of_next {system : RateSystem} {request : RateRequest}
    {requested bytes : ℕ}
    (queue : ∀ waiter ∈ system.arbiter.waiters, system.arbiter.Tracks waiter.path)
    (event : (system.next request now).1 = some (.granted path requested bytes)) :
    Granted (system.arbiter.track path now) (system.next request now).2.arbiter path requested
      bytes now := by
  cases request with
  | tryAcquire path' =>
    simp only [next, tryAcquire] at event ⊢
    split at event
    · cases event
    · rename_i arbiter ensured
      obtain rfl := RateArbiterState.eq_track_of_ensurePath ensured
      split at event
      · cases event
      · rename_i idle
        split at event
        · cases event
        · rename_i positive
          simp only [Option.some.injEq, RateEvent.granted.injEq] at event
          obtain ⟨rfl, rfl, rfl⟩ := event
          simp only [idle, positive]
          exact .reserve (system.arbiter.tracks_track path' now) positive (min_le_left _ _)
            (min_le_right _ _)
  | turn =>
    simp only [next, turn] at event ⊢
    cases waiting : system.arbiter.waiters with
    | nil =>
      rw [RateArbiterState.turn, waiting] at event
      cases event
    | cons waiter =>
      by_cases positive : system.arbiter.offer now waiter = 0
      · rw [turn_eq_delayed waiting positive] at event
        cases event
      · rw [turn_eq_granted waiting positive] at event ⊢
        obtain ⟨rfl, rfl, rfl⟩ := event
        have tracks := queue waiter (by simp [waiting])
        have granted := Granted.reserve tracks positive (min_le_left _ _) (min_le_right _ _)
        rw [(offered_of_le now positive (min_le_right _ _)).1] at granted
        refine granted.congr rfl (tracks.bucket_track now) fun key => ?_
        cases key <;> rfl
  | settle =>
    simp only [next, settle] at event
    split at event
    · cases event
    · split at event
      · cases event
      · split at event <;> cases event
  | drop =>
    simp only [next, drop] at event
    split at event <;> cases event
  | removeWaiter =>
    simp only [next, removeWaiter, Option.map_eq_some_iff] at event
    obtain ⟨grant, -, other⟩ := event
    cases other
  | _ => cases event

namespace Uncharged

variable {first second third : RateArbiterState} {now : ClockInstant}

theorem refl (state : RateArbiterState) (now : ClockInstant) : Uncharged state state now :=
  fun _ _ found => .inl found

theorem trans (one : Uncharged first second now) (two : Uncharged second third now) :
    Uncharged first third now := by
  intro key bucket found
  rcases one key bucket found with same | refilled
  · exact two key bucket same
  · rcases two key _ refilled with same | again
    · exact .inr same
    · rw [bucket.refill_idem] at again
      exact .inr again

end Uncharged

theorem RateMove.uncharged (move : RateMove now first none second) :
    Uncharged first.arbiter second.arbiter now := by
  intro key bucket found
  obtain ⟨next, there, -, quiet⟩ := move.bucket_of_some found
  rcases quiet rfl with rfl | rfl
  · exact .inl there
  · exact .inr there

theorem RateMoves.uncharged {events : List RateEvent} (moves : RateMoves now first events second)
    (none : events = []) : Uncharged first.arbiter second.arbiter now := by
  induction moves with
  | nil => exact .refl _ now
  | @cons first second third event events move rest ih =>
    obtain ⟨quiet, later⟩ := List.append_eq_nil_iff.mp none
    cases event with
    | none => exact move.uncharged.trans (ih later)
    | some => cases quiet

end Ariax
