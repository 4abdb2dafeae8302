import Ariax.Rate.Paths

/-!
# What a call does, move by move

A call that leaves the limits alone is a short sequence of moves: the
buckets of a path are created or refilled, the queue changes, bytes are
granted, come back or are charged, and a grant changes hands. Every law of
the arbiter is proved for the moves. The work in flight is what permits and
the grants that wait to be collected have reserved.
-/

namespace Ariax

open RateArbiterState List OrderedMap

/-- The part of some bytes on a path that concerns a bucket. -/
def RatePath.share (path : RatePath) (key : RateKey) (bytes : ℕ) : ℕ :=
  if key ∈ path.keys then bytes else 0

variable {now : ClockInstant} {second first : RateSystem} {event : Option RateEvent} {key : RateKey}
  {events : List RateEvent} {path : RatePath}

theorem RatePath.share_of_mem (member : key ∈ path.keys) (bytes : ℕ) :
    path.share key bytes = bytes :=
  if_pos member

theorem RatePath.share_of_not_mem (outside : key ∉ path.keys) (bytes : ℕ) :
    path.share key bytes = 0 :=
  if_neg outside

/-! ## Work in flight -/

/-- The reservations that are not settled yet. -/
structure Flight where
  grants : OrderedMap U64 Grant
  permits : List RatePermit

namespace Flight

def bytes (flight : Flight) (key : RateKey) : ℕ :=
  (flight.permits.map fun permit => permit.path.share key permit.reserved).sum +
    OrderedMap.sumOf (fun grant => grant.path.share key grant.bytes) flight.grants

def Covers (flight : Flight) (path : RatePath) : Prop :=
  (∃ permit ∈ flight.permits, permit.path = path) ∨
    ∃ (id : U64) (grant : Grant), flight.grants[id]? = some grant ∧ grant.path = path

/-- A reservation joins the flight; it may take the place of another. -/
structure Gains (flight next : Flight) (path : RatePath) (reserved : ℕ) : Prop where
  bytes_le : ∀ key, next.bytes key ≤ flight.bytes key + path.share key reserved
  covers : ∀ other, next.Covers other → flight.Covers other ∨ other = path

structure Sheds (flight next : Flight) (path : RatePath) (reserved : ℕ) : Prop where
  covered : flight.Covers path
  bytes_eq : ∀ key, next.bytes key + path.share key reserved = flight.bytes key
  covers : ∀ other, next.Covers other → flight.Covers other

variable (grants : OrderedMap U64 Grant) (permits : List RatePermit)

theorem gains_permit (path : RatePath) (reserved : ℕ) :
    Gains ⟨grants, permits⟩ ⟨grants, permits ++ [⟨path, reserved⟩]⟩ path reserved where
  bytes_le key := by
    simp only [bytes, map_append, sum_append, map_cons, map_nil, sum_cons, sum_nil]
    omega
  covers := by
    rintro other (⟨permit, held, rfl⟩ | stored)
    · rcases mem_snoc.mp held with held | rfl
      · exact .inl (.inl ⟨permit, held, rfl⟩)
      · exact .inr rfl
    · exact .inl (.inr stored)

theorem gains_grant (id : U64) (path : RatePath) (reserved : ℕ) :
    Gains ⟨grants, permits⟩ ⟨grants.insert id ⟨path, reserved⟩, permits⟩ path reserved where
  bytes_le key := by
    have sum := sumOf_insert (fun grant : Grant => grant.path.share key grant.bytes)
      grants id ⟨path, reserved⟩
    simp only [bytes] at sum ⊢
    omega
  covers := by
    rintro other (held | ⟨id', grant, stored, rfl⟩)
    · exact .inl (.inl held)
    · obtain ⟨-, rfl⟩ | ⟨-, stored⟩ := getElem?_insert_eq_some.mp stored
      · exact .inr rfl
      · exact .inl (.inr ⟨id', grant, stored, rfl⟩)

variable {permits} in
theorem sheds_permit {index : ℕ} {permit : RatePermit} (held : permits[index]? = some permit) :
    Sheds ⟨grants, permits⟩ ⟨grants, permits.eraseIdx index⟩ permit.path permit.reserved where
  covered := .inl ⟨permit, mem_of_getElem? held, rfl⟩
  bytes_eq key := by
    obtain ⟨inside, rfl⟩ := List.getElem?_eq_some_iff.mp held
    have split := take_append_drop index permits
    rw [drop_eq_getElem_cons inside] at split
    simp only [bytes, eraseIdx_eq_take_drop_succ]
    conv_rhs => rw [← split]
    simp only [map_append, sum_append, map_cons, sum_cons]
    omega
  covers := by
    rintro other (⟨kept, member, rfl⟩ | stored)
    · exact .inl ⟨kept, mem_of_mem_eraseIdx member, rfl⟩
    · exact .inr stored

variable {grants} in
theorem sheds_grant {id : U64} {grant : Grant} (stored : grants[id]? = some grant) :
    Sheds ⟨grants, permits⟩ ⟨grants.erase id, permits⟩ grant.path grant.bytes where
  covered := .inr ⟨id, grant, stored, rfl⟩
  bytes_eq key := by
    have sum := sumOf_erase (fun grant : Grant => grant.path.share key grant.bytes)
      grants id
    rw [stored] at sum
    simp only [Option.elim_some] at sum
    simp only [bytes]
    omega
  covers := by
    rintro other (held | ⟨id', kept, found, rfl⟩)
    · exact .inl held
    · exact .inr ⟨id', kept, getElem?_of_erase _ _ found, rfl⟩

/-- Nothing is in flight through a bucket that no path of the flight contains. -/
theorem bytes_eq_zero {flight : Flight} {key : RateKey}
    (free : ∀ path, flight.Covers path → key ∉ path.keys) : flight.bytes key = 0 := by
  have held : (flight.permits.map fun permit => permit.path.share key permit.reserved).sum = 0 := by
    refine sum_eq_zero ?_
    intro share member
    obtain ⟨permit, held, rfl⟩ := mem_map.mp member
    exact RatePath.share_of_not_mem (free _ (.inl ⟨permit, held, rfl⟩)) _
  have stored : sumOf (fun grant : Grant => grant.path.share key grant.bytes)
      flight.grants = 0 := by
    refine sum_eq_zero ?_
    intro share member
    obtain ⟨grant, stored, rfl⟩ := mem_map.mp member
    obtain ⟨id, stored⟩ := mem_valuesInOrder.mp stored
    exact RatePath.share_of_not_mem (free _ (.inr ⟨id, grant, stored, rfl⟩)) _
  rw [bytes, held, stored]

end Flight

/-! ## Moves -/

def RateArbiterState.Tracks (state : RateArbiterState) (path : RatePath) : Prop :=
  ∀ key ∈ path.keys, state.bucket key ≠ none

/-- The buckets that were there stay, and those that are new have a valid limit of their own or
a default one. -/
structure RateArbiterState.Creates (state after : RateArbiterState) (now : ClockInstant) :
    Prop where
  kept : ∀ key bucket, state.bucket key = some bucket → after.bucket key = some bucket
  made : ∀ key bucket, state.bucket key = none → after.bucket key = some bucket →
    (∀ scope, (state.config.defaultLimit scope).validate = true) →
    ∃ limit : RateLimit, limit.validate = true ∧ bucket = Bucket.new limit now

namespace RateSystem

def flight (system : RateSystem) : Flight := ⟨system.arbiter.grants, system.permits⟩

def fly (arbiter : RateArbiterState) (flight : Flight) : RateSystem :=
  ⟨{ arbiter with grants := flight.grants }, flight.permits⟩

@[simp] theorem flight_fly (arbiter : RateArbiterState) (flight : Flight) :
    (fly arbiter flight).flight = flight := rfl

end RateSystem

inductive RateMove (now : ClockInstant) : RateSystem → Option RateEvent → RateSystem → Prop
  | create (system : RateSystem) (scopes : OrderedMap RateScope BucketEntry)
      (creates : system.arbiter.Creates { system.arbiter with scopes := scopes } now) :
      RateMove now system none
        { system with arbiter := { system.arbiter with scopes := scopes } }
  | refill (system : RateSystem) (path : RatePath) :
      RateMove now system none { system with arbiter := system.arbiter.refillPath path now }
  | stats (system : RateSystem) : RateMove now system none (system.stats now)
  | queue (system : RateSystem) (waiters : List Waiter) (nextWaiterId : U64)
      (known : ∀ waiter ∈ waiters, waiter ∈ system.arbiter.waiters ∨
        system.arbiter.Tracks waiter.path ∧ 0 < waiter.requested) :
      RateMove now system none
        { system with
          arbiter := { system.arbiter with waiters := waiters, nextWaiterId := nextWaiterId } }
  | grant (system : RateSystem) (path : RatePath) (requested bytes : ℕ) (flight : Flight)
      (known : system.arbiter.Tracks path ∨ ∃ waiter ∈ system.arbiter.waiters, waiter.path = path)
      (positive : 0 < bytes) (bounded : bytes ≤ min requested system.arbiter.config.quantumBytes)
      (offered : ∀ key ∈ path.keys, ∀ bucket, system.arbiter.bucket key = some bucket →
        bytes ≤ (bucket.refill now).available)
      (gains : system.flight.Gains flight path bytes) :
      RateMove now system (some (.granted path requested bytes))
        (.fly (system.arbiter.reserve path bytes now) flight)
  | refund (system : RateSystem) (path : RatePath) (bytes reserved : ℕ) (flight : Flight)
      (unused : bytes ≤ reserved) (sheds : system.flight.Sheds flight path reserved) :
      RateMove now system (some (.refunded path bytes))
        (.fly (system.arbiter.refund path bytes now) flight)
  | charge (system : RateSystem) (path : RatePath) (bytes reserved : ℕ) (flight : Flight)
      (word : bytes < 2 ^ 64) (sheds : system.flight.Sheds flight path reserved) :
      RateMove now system (some (.charged path bytes))
        (.fly (system.arbiter.chargeExtra path bytes now) flight)
  | pass (system : RateSystem) (flight : Flight)
      (bytes_le : ∀ key, flight.bytes key ≤ system.flight.bytes key)
      (covers : ∀ other, flight.Covers other → system.flight.Covers other) :
      RateMove now system none (.fly system.arbiter flight)

/-- Moves one after the other, with the events among them. -/
inductive RateMoves (now : ClockInstant) : RateSystem → List RateEvent → RateSystem → Prop
  | nil (system : RateSystem) : RateMoves now system [] system
  | cons {first second third : RateSystem} {event : Option RateEvent} {events : List RateEvent}
      (move : RateMove now first event second) (rest : RateMoves now second events third) :
      RateMoves now first (event.toList ++ events) third

theorem RateMove.single (move : RateMove now first event second) :
    RateMoves now first event.toList second := by
  simpa using RateMoves.cons move (.nil second)

theorem RateMoves.trans {third : RateSystem} {events' : List RateEvent}
    (before : RateMoves now first events second) (after : RateMoves now second events' third) :
    RateMoves now first (events ++ events') third := by
  induction before with
  | nil => exact after
  | cons move _ ih =>
    rw [append_assoc]
    exact .cons move (ih after)

theorem RateMoves.last {third : RateSystem} (before : RateMoves now first [] second)
    (move : RateMove now second event third) : RateMoves now first event.toList third :=
  before.trans move.single

/-! ## Buckets after a move -/

namespace RateArbiterState

variable (state : RateArbiterState)

theorem bucket_withGrants (grants : OrderedMap U64 Grant) (key : RateKey) :
    { state with grants := grants }.bucket key = state.bucket key := by
  cases key <;> rfl

theorem bucket_withQueue (waiters : List Waiter) (nextWaiterId : U64) (key : RateKey) :
    { state with waiters := waiters, nextWaiterId := nextWaiterId }.bucket key =
      state.bucket key := by
  cases key <;> rfl

theorem bucket_refillPath_onPath (path : RatePath) (change : Bucket → Bucket)
    (now : ClockInstant) (key : RateKey) :
    ((state.refillPath path now).onPath path change).bucket key =
      if key ∈ path.keys then (state.bucket key).map fun bucket => change (bucket.refill now)
      else state.bucket key := by
  rw [bucket_onPath, bucket_refillPath]
  split
  · rw [Option.map_map]
    rfl
  · rfl

end RateArbiterState

section

variable (move : RateMove now first event second)
include move

/-- What becomes of a bucket: it keeps its limit, and without an event it is at most refilled. -/
theorem RateMove.bucket_of_some {bucket : Bucket}
    (found : first.arbiter.bucket key = some bucket) :
    ∃ next, second.arbiter.bucket key = some next ∧ next.limit = bucket.limit ∧
      (event = none → next = bucket ∨ next = bucket.refill now) := by
  cases move with
  | create _ creates => exact ⟨bucket, creates.kept key bucket found, rfl, fun _ => .inl rfl⟩
  | refill =>
    simp only [bucket_refillPath, found]
    split
    · exact ⟨_, rfl, bucket.refill_limit now, fun _ => .inr rfl⟩
    · exact ⟨bucket, rfl, rfl, fun _ => .inl rfl⟩
  | stats =>
    cases key with
    | none =>
      obtain rfl := Option.some.inj found
      exact ⟨_, rfl, Bucket.refill_limit _ now, fun _ => .inr rfl⟩
    | some => exact ⟨bucket, found, rfl, fun _ => .inl rfl⟩
  | queue =>
    exact ⟨bucket, (bucket_withQueue _ _ _ key).trans found, rfl, fun _ => .inl rfl⟩
  | grant | refund | charge =>
    simp only [RateSystem.fly, RateArbiterState.bucket_withGrants, RateArbiterState.chargeExtra,
      RateArbiterState.reserve, RateArbiterState.refund,
      RateArbiterState.bucket_refillPath_onPath, found]
    split
    · exact ⟨_, rfl, by simp, by simp⟩
    · exact ⟨bucket, rfl, rfl, by simp⟩
  | pass =>
    exact ⟨bucket, (bucket_withGrants _ _ key).trans found, rfl, fun _ => .inl rfl⟩

/-- A bucket that appears is a new one with a valid limit. -/
theorem RateMove.bucket_of_none {bucket : Bucket} (missing : first.arbiter.bucket key = none)
    (found : second.arbiter.bucket key = some bucket)
    (defaults : ∀ scope, (first.arbiter.config.defaultLimit scope).validate = true) :
    ∃ limit : RateLimit, limit.validate = true ∧ bucket = Bucket.new limit now := by
  cases move with
  | create _ creates => exact creates.made key bucket missing found defaults
  | refill => simp [bucket_refillPath, missing] at found
  | stats =>
    cases key with
    | none => cases missing
    | some => cases missing.symm.trans found
  | queue => cases missing.symm.trans ((bucket_withQueue _ _ _ key).symm.trans found)
  | grant | refund | charge =>
    simp [RateSystem.fly, RateArbiterState.bucket_withGrants, RateArbiterState.chargeExtra,
      RateArbiterState.reserve, RateArbiterState.refund,
      RateArbiterState.bucket_refillPath_onPath, missing] at found
  | pass => cases missing.symm.trans ((bucket_withGrants _ _ key).symm.trans found)

theorem RateMove.bucket_ne_none (found : first.arbiter.bucket key ≠ none) :
    second.arbiter.bucket key ≠ none := by
  obtain ⟨bucket, found⟩ := Option.ne_none_iff_exists'.mp found
  obtain ⟨next, there, -⟩ := move.bucket_of_some found
  exact Option.ne_none_iff_exists'.mpr ⟨next, there⟩

theorem RateMove.tracks (tracks : first.arbiter.Tracks path) : second.arbiter.Tracks path :=
  fun key member => move.bucket_ne_none (tracks key member)

end

theorem RateMoves.bucket_ne_none (moves : RateMoves now first events second)
    (found : first.arbiter.bucket key ≠ none) : second.arbiter.bucket key ≠ none := by
  induction moves with
  | nil => exact found
  | cons move _ ih => exact ih (move.bucket_ne_none found)

/-- Every path that waits or has something reserved has its buckets, every waiter asks for
something, and the limits are valid. -/
structure RateSystem.Sound (system : RateSystem) : Prop where
  waiters : ∀ waiter ∈ system.arbiter.waiters, system.arbiter.Tracks waiter.path
  asks : ∀ waiter ∈ system.arbiter.waiters, 0 < waiter.requested
  flying : ∀ path, system.flight.Covers path → system.arbiter.Tracks path
  limits : ∀ key bucket, system.arbiter.bucket key = some bucket → bucket.limit.validate = true
  defaults : ∀ scope, (system.arbiter.config.defaultLimit scope).validate = true

theorem RateSystem.Sound.bytes_eq_zero {system : RateSystem} (sound : system.Sound)
    (missing : system.arbiter.bucket key = none) : system.flight.bytes key = 0 :=
  Flight.bytes_eq_zero fun path covered member => sound.flying path covered key member missing

theorem RateMove.sound (move : RateMove now first event second) (sound : first.Sound) :
    second.Sound where
  waiters := by
    intro waiter queued
    refine move.tracks ?_
    cases move with
    | queue _ _ known => exact (known waiter queued).elim (sound.waiters waiter) And.left
    | create | refill | stats | grant | refund | charge | pass =>
      exact sound.waiters waiter queued
  asks := by
    intro waiter queued
    cases move with
    | queue _ _ known => exact (known waiter queued).elim (sound.asks waiter) And.right
    | create | refill | stats | grant | refund | charge | pass => exact sound.asks waiter queued
  flying := by
    intro path covered
    refine move.tracks ?_
    cases move with
    | create | refill | stats | queue => exact sound.flying path covered
    | grant path' requested bytes flight known positive bounded offered gains =>
      rcases gains.covers path covered with before | rfl
      · exact sound.flying path before
      · rcases known with tracks | ⟨waiter, queued, rfl⟩
        · exact tracks
        · exact sound.waiters waiter queued
    | refund path' bytes reserved flight unused sheds
    | charge path' bytes reserved flight word sheds =>
      exact sound.flying path (sheds.covers path covered)
    | pass _ _ covers => exact sound.flying path (covers path covered)
  limits := by
    intro key bucket found
    cases was : first.arbiter.bucket key with
    | none =>
      obtain ⟨limit, valid, rfl⟩ := move.bucket_of_none was found sound.defaults
      exact valid
    | some old =>
      obtain ⟨next, there, same, -⟩ := move.bucket_of_some was
      obtain rfl := Option.some.inj (there.symm.trans found)
      rw [same]
      exact sound.limits key old was
  defaults := by
    cases move <;> exact sound.defaults

theorem RateMoves.sound (moves : RateMoves now first events second) (sound : first.Sound) :
    second.Sound := by
  induction moves with
  | nil => exact sound
  | cons move _ ih => exact ih (move.sound sound)

/-! ## Calls -/

theorem RateArbiterState.eq_track_of_ensurePath {state arbiter : RateArbiterState}
    (ensured : state.ensurePath path now = .ok arbiter) : arbiter = state.track path now := by
  simp only [ensurePath] at ensured
  split at ensured
  · cases ensured
  · exact (Except.ok.inj ensured).symm

section

variable (state : RateArbiterState) (path : RatePath) (now : ClockInstant)

theorem RateArbiterState.tracks_track :
    (state.track path now).Tracks path :=
  fun _ member => state.bucket_track_ne_none member

variable (waiters : List Waiter)

theorem RateArbiterState.availableFor_withWaiters :
    { state with waiters := waiters }.availableFor path now = ((state.availableFor path now).1,
        { (state.availableFor path now).2 with waiters := waiters }) := by
  simp only [availableFor]
  split <;> rfl

theorem RateArbiterState.nextDelayFor_withWaiters :
    { state with waiters := waiters }.nextDelayFor path now = ((state.nextDelayFor path now).1,
        { (state.nextDelayFor path now).2 with waiters := waiters }) := by
  simp only [nextDelayFor]
  split <;> rfl

theorem RateArbiterState.availableFor_waiters :
    (state.availableFor path now).2.waiters = state.waiters := by
  simp only [availableFor]
  split <;> rfl

theorem RateArbiterState.nextDelayFor_waiters :
    (state.nextDelayFor path now).2.waiters = state.waiters := by
  simp only [nextDelayFor]
  split <;> rfl

end

/-- A path whose buckets have something to offer is not suspended, and each of its buckets has
it. -/
theorem RateSystem.offered_of_le (now : ClockInstant) {arbiter : RateArbiterState} {bytes : ℕ}
    (positive : bytes ≠ 0) (offered : bytes ≤ (arbiter.availableFor path now).1) :
    (arbiter.availableFor path now).2 = arbiter.refillPath path now ∧
      ∀ key ∈ path.keys, ∀ bucket, (arbiter.refillPath path now).bucket key = some bucket →
        bytes ≤ (bucket.refill now).available := by
  have live : arbiter.globalSuspended = false := by
    by_contra suspended
    simp only [availableFor, Bool.not_eq_false] at offered suspended
    simp only [suspended, if_true] at offered
    omega
  constructor
  · simp [availableFor, live]
  · intro key member bucket found
    rw [bucket_refillPath, if_pos member] at found
    obtain ⟨old, was, rfl⟩ := Option.map_eq_some_iff.mp found
    rw [old.refill_idem]
    exact offered.trans (arbiter.availableFor_le member was live)

namespace RateArbiterState

variable {state : RateArbiterState} {waiter : Waiter} {rest : List Waiter}

variable (now) in
/-- What a waiter is granted on its turn. -/
def offer (state : RateArbiterState) (waiter : Waiter) : ℕ :=
  min (min waiter.requested state.config.quantumBytes) (state.availableFor waiter.path now).1

variable (queue : state.waiters = waiter :: rest)
include queue

theorem turn_eq_granted (offered : state.offer now waiter ≠ 0) :
    state.turn now = (some (.granted waiter (state.offer now waiter)),
      { (state.refillPath waiter.path now).reserve waiter.path (state.offer now waiter) now with
        waiters := rest
        grants := state.grants.insert waiter.id ⟨waiter.path, state.offer now waiter⟩ }) := by
  have same := (RateSystem.offered_of_le now offered (min_le_right _ _)).1
  unfold offer at offered
  simp only [turn, queue, availableFor_withWaiters, if_pos offered, same]
  rfl

theorem turn_eq_delayed (nothing : state.offer now waiter = 0) : state.turn now =
      (some (.delayed ((state.availableFor waiter.path now).2.nextDelayFor waiter.path now).1),
        { ((state.availableFor waiter.path now).2.nextDelayFor waiter.path now).2 with
          waiters := rest ++ [waiter] }) := by
  unfold offer at nothing
  simp only [turn, queue, availableFor_withWaiters, nothing, ne_eq, not_true_eq_false, if_false,
    nextDelayFor_withWaiters]

end RateArbiterState

namespace RateSystem

variable (system : RateSystem) (now : ClockInstant) (path : RatePath)

theorem moves_availableFor : RateMoves now system []
      { system with arbiter := (system.arbiter.availableFor path now).2 } := by
  unfold availableFor
  split
  · exact .nil system
  · exact (RateMove.refill system path).single

theorem moves_nextDelayFor : RateMoves now system []
      { system with arbiter := (system.arbiter.nextDelayFor path now).2 } := by
  unfold nextDelayFor
  split
  · exact .nil system
  · exact (RateMove.refill system path).single

theorem moves_track :
    RateMoves now system [] { system with arbiter := system.arbiter.track path now } := by
  refine (RateMove.create system _ ⟨?_, ?_⟩).single
  · exact fun key bucket found => system.arbiter.bucket_track_of_some found
  · intro key bucket missing found defaults
    obtain ⟨scope, made⟩ := system.arbiter.bucket_track_of_none missing found
    exact ⟨_, defaults scope, made⟩

theorem moves_ensure : RateMoves now system [] (system.ensure path now) := by
  unfold ensure
  split
  · exact .nil system
  · rename_i arbiter ensured
    rw [eq_track_of_ensurePath ensured]
    exact moves_track system now path

theorem moves_tryAcquire (requested : ℕ+) :
    RateMoves now system (system.tryAcquire path requested now).1.toList
      (system.tryAcquire path requested now).2 := by
  unfold tryAcquire
  split
  · exact .nil system
  · rename_i arbiter ensured
    obtain rfl := eq_track_of_ensurePath ensured
    have first := moves_track system now path
    have second := first.trans (moves_availableFor _ now path)
    split
    · exact first
    dsimp only
    split
    · exact second
    · rename_i positive
      obtain ⟨refilled, offered⟩ := offered_of_le now positive (min_le_right _ _)
      rw [refilled] at second
      simp only [refilled]
      have tracks : ((system.arbiter.track path now).refillPath path now).Tracks path := by
        intro key member
        rw [bucket_refillPath, if_pos member]
        simpa using system.arbiter.tracks_track path now key member
      have whole := second.last (RateMove.grant _ path requested _ ⟨_, _⟩ (.inl tracks)
        (Nat.pos_of_ne_zero positive) (min_le_left _ _) offered (Flight.gains_permit _ _ path _))
      exact whole

theorem moves_enqueue (requested : ℕ+) :
    RateMoves now system [] (system.enqueue path requested now) := by
  unfold enqueue
  split
  · exact .nil system
  · rename_i arbiter ensured
    obtain rfl := eq_track_of_ensurePath ensured
    have first := moves_track system now path
    split
    · exact first
    · rename_i id queued joined
      unfold RateArbiterState.enqueue at joined
      split at joined
      · cases joined
      · cases joined
        refine first.trans (RateMove.queue _ _ _ ?_).single
        intro waiter member
        rcases mem_snoc.mp member with member | rfl
        · exact .inl member
        · exact .inr ⟨system.arbiter.tracks_track path now, requested.pos⟩

theorem moves_turn : RateMoves now system (system.turn now).1.toList (system.turn now).2 := by
  cases queue : system.arbiter.waiters with
  | nil =>
    have idle : system.turn now = (none, system) := by
      simp only [turn, RateArbiterState.turn, queue]
    rw [idle]
    exact .nil system
  | cons waiter rest =>
    have member : waiter ∈ system.arbiter.waiters := by simp [queue]
    have refilled := system.moves_availableFor now waiter.path
    unfold turn
    by_cases none : system.arbiter.offer now waiter = 0
    · have delayed := refilled.trans (moves_nextDelayFor _ now waiter.path)
      rw [turn_eq_delayed queue none]
      refine delayed.trans (RateMove.queue _ (rest ++ [waiter]) _ ?_).single
      intro other queued
      left
      rw [nextDelayFor_waiters, availableFor_waiters, queue]
      exact mem_cons.mpr (mem_snoc.mp queued).symm
    · obtain ⟨same, offered⟩ := offered_of_le now none (min_le_right _ _)
      rw [same] at refilled
      rw [turn_eq_granted queue none]
      have granted := refilled.last (RateMove.grant _ waiter.path waiter.requested _ ⟨_, _⟩
        (.inr ⟨waiter, member, rfl⟩) (Nat.pos_of_ne_zero none) (min_le_left _ _) offered
        (Flight.gains_grant _ _ waiter.id waiter.path _))
      have whole := granted.trans (RateMove.queue _ rest system.arbiter.nextWaiterId
        fun other queued => .inl (queue ▸ mem_cons_of_mem waiter queued)).single
      exact whole

theorem moves_collect (id : U64) : RateMoves now system [] (system.collect id) := by
  unfold collect
  split
  · rename_i grant stored
    have sheds := Flight.sheds_grant system.permits stored
    have gains := Flight.gains_permit (system.arbiter.grants.erase id) system.permits grant.path
      grant.bytes
    refine (RateMove.pass system ⟨system.arbiter.grants.erase id,
      system.permits ++ [⟨grant.path, grant.bytes⟩]⟩ ?_ ?_).single
    · exact fun key => (gains.bytes_le key).trans (sheds.bytes_eq key).le
    · intro other covered
      rcases gains.covers other covered with before | rfl
      · exact sheds.covers other before
      · exact sheds.covered
  · exact .nil system

theorem moves_settle (index : ℕ) (acceptedBytes : U64) :
    RateMoves now system (system.settle index acceptedBytes now).1.toList
      (system.settle index acceptedBytes now).2 := by
  unfold settle
  split
  · exact .nil system
  · rename_i permit held
    have sheds := Flight.sheds_permit system.arbiter.grants held
    dsimp only
    split
    · exact (RateMove.refund system permit.path _ permit.reserved ⟨_, _⟩ (by omega)
        sheds).single.trans
        (RateMove.refill _ permit.path).single
    · split
      · exact (RateMove.charge system permit.path _ permit.reserved ⟨_, _⟩ (by omega)
          sheds).single.trans
          (RateMove.refill _ permit.path).single
      · refine (RateMove.pass system ⟨_, _⟩ ?_ sheds.covers).single.trans
          (RateMove.refill _ permit.path).single
        exact fun key => (Nat.le_add_right _ _).trans (sheds.bytes_eq key).le

theorem moves_drop (index : ℕ) :
    RateMoves now system (system.drop index now).1.toList (system.drop index now).2 := by
  unfold drop
  split
  · exact .nil system
  · rename_i permit held
    exact (RateMove.refund system permit.path _ permit.reserved ⟨_, _⟩ le_rfl
      (Flight.sheds_permit _ held)).single

theorem moves_removeWaiter (id : U64) :
    RateMoves now system (system.removeWaiter id now).1.toList (system.removeWaiter id now).2 := by
  have left := @RateMove.queue now system
    (system.arbiter.waiters.eraseP fun waiter => waiter.id = id) system.arbiter.nextWaiterId
    fun waiter member => .inl (mem_of_mem_eraseP member)
  unfold removeWaiter RateArbiterState.removeWaiter
  dsimp only
  split
  · rename_i grant stored
    have whole := left.single.last (RateMove.refund _ grant.path _ grant.bytes ⟨_, _⟩ le_rfl
      (Flight.sheds_grant _ stored))
    exact whole
  · exact left.single

theorem moves_setScopedLimit {scope : RateScope} (limit : RateLimit)
    (missing : system.arbiter.bucket (some scope) = none) :
    RateMoves now system [] (system.setScopedLimit scope limit now) := by
  have absent : system.arbiter.scopes[scope]? = none := Option.map_eq_none_iff.mp missing
  unfold setScopedLimit RateArbiterState.setScopedLimit
  split
  · exact .nil system
  · rename_i arbiter accepted
    split at accepted
    · cases accepted
    · rename_i valid
      simp only [setLimitEntry, absent] at accepted
      split at accepted
      · cases accepted
      · obtain rfl := Except.ok.inj accepted
        refine (RateMove.create system _ ⟨?_, ?_⟩).single
        · intro key bucket found
          rw [bucket_insert, if_neg]
          · exact found
          · rintro rfl
            cases missing.symm.trans found
        · intro key bucket unfound found _
          rw [bucket_insert] at found
          split at found
          · exact ⟨limit, by simpa using valid, (Option.some.inj found).symm⟩
          · cases unfound.symm.trans found

/-- A call that leaves the limits alone is a sequence of moves with at most one event. -/
theorem moves_next {request : RateRequest} (keeps : request.KeepsLimits system) :
    RateMoves now system (system.next request now).1.toList (system.next request now).2 := by
  cases request with
  | tryAcquire path requested => exact system.moves_tryAcquire now path requested
  | enqueue path requested => exact system.moves_enqueue now path requested
  | ensure path => exact system.moves_ensure now path
  | turn => exact system.moves_turn now
  | collect id => exact system.moves_collect now id
  | settle index acceptedBytes => exact system.moves_settle now index acceptedBytes
  | drop index => exact system.moves_drop now index
  | removeWaiter id => exact system.moves_removeWaiter now id
  | stats => exact (RateMove.stats system).single
  | setScopedLimit _ limit => exact system.moves_setScopedLimit now limit keeps
  | reconfigure | setGlobalAllocation | setGlobalLimit | applyPrepared => exact keeps.elim

end RateSystem

end Ariax
