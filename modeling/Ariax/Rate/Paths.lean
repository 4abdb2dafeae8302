import Ariax.Rate.Arbiter

/-!
# The buckets of a path

What the operations of the arbiter do to each bucket: a change on a path
changes exactly the global bucket and the three scoped buckets of the path,
and tracking a path adds the buckets it lacks. The dispatch loop is a
sequence of turns, and the lock section of each poll of `acquire` a sequence of
calls at one instant.
-/

namespace Ariax

open List

/-- A bucket of the hierarchy: the global one or that of a scope. -/
abbrev RateKey := Option RateScope

def RatePath.keys (path : RatePath) : List RateKey := none :: path.scopes.map some

variable (path : RatePath)

@[simp] theorem RatePath.none_mem_keys : none ∈ path.keys := by simp [keys]

@[simp] theorem RatePath.some_mem_keys {path : RatePath} {scope : RateScope} :
    some scope ∈ path.keys ↔ scope ∈ path.scopes := by
  simp [keys]

namespace RateArbiterState

variable {key : RateKey} {bucket : Bucket} (scopes : OrderedMap RateScope BucketEntry)
  (scope other : RateScope) (change : Bucket → Bucket)

theorem getElem?_changeScope : (changeScope change scopes scope)[other]? = if scope = other then
        scopes[other]?.map fun entry => { entry with bucket := change entry.bucket }
      else scopes[other]? := by
  unfold changeScope
  by_cases same : scope = other
  · subst same
    cases found : scopes[scope]? <;> simp [found]
  · cases scopes[scope]? <;> simp [OrderedMap.getElem?_insert, same]

theorem getElem?_insertNew (entry : RateScope → BucketEntry) :
    (if scopes.contains scope then scopes else scopes.insert scope (entry scope))[other]? =
      if scope = other then some (scopes[other]?.getD (entry other)) else scopes[other]? := by
  rw [OrderedMap.contains_eq_isSome]
  by_cases same : scope = other
  · subst same
    cases found : scopes[scope]? <;> simp [found]
  · cases scopes[scope]? <;> simp [OrderedMap.getElem?_insert, same]

variable (state : RateArbiterState)

theorem bucket_onPath (key : RateKey) : (state.onPath path change).bucket key =
      if key ∈ path.keys then (state.bucket key).map change else state.bucket key := by
  cases key with
  | none => simp [bucket, onPath]
  | some =>
    have each scopes scope other := getElem?_changeScope scopes scope other change
    simp only [bucket, onPath, OrderedMap.getElem?_foldl each path.nodup_scopes,
      RatePath.some_mem_keys]
    split <;> simp [Option.map_map, Function.comp_def]

theorem bucket_insert (entry : BucketEntry) (key : RateKey) :
    { state with scopes := state.scopes.insert scope entry }.bucket key =
      if key = some scope then some entry.bucket else state.bucket key := by
  cases key with
  | none => rfl
  | some other =>
    simp only [bucket, OrderedMap.getElem?_insert, Option.some.injEq, eq_comm]
    split <;> rfl

variable (now : ClockInstant)

theorem bucket_refillPath (key : RateKey) : (state.refillPath path now).bucket key =
      if key ∈ path.keys then (state.bucket key).map fun bucket => bucket.refill now
      else state.bucket key :=
  state.bucket_onPath path _ key

theorem bucket_track (scope : RateScope) : (state.track path now).bucket (some scope) =
      if scope ∈ path.scopes then
        some ((state.bucket (some scope)).getD (Bucket.new (state.config.defaultLimit scope) now))
      else state.bucket (some scope) := by
  have added := OrderedMap.getElem?_foldl
    (f := fun scope old =>
      some (old.getD ⟨Bucket.new (state.config.defaultLimit scope) now, false⟩))
    (fun scopes scope other => getElem?_insertNew scopes scope other _) path.nodup_scopes
  simp only [bucket, track, added]
  split
  · cases state.scopes[scope]? <;> rfl
  · rfl

variable {now : ClockInstant} {path : RatePath}

theorem bucket_track_ne_none (member : key ∈ path.keys) :
    (state.track path now).bucket key ≠ none := by
  cases key with
  | none => simp [bucket]
  | some => simp [bucket_track, RatePath.some_mem_keys.mp member]

theorem bucket_track_of_some (found : state.bucket key = some bucket) :
    (state.track path now).bucket key = some bucket := by
  cases key with
  | none => exact found
  | some =>
    rw [bucket_track, found]
    split <;> rfl

/-- A bucket that appears when a path is tracked is a new one with a default limit. -/
theorem bucket_track_of_none (missing : state.bucket key = none)
    (found : (state.track path now).bucket key = some bucket) :
    ∃ scope, bucket = Bucket.new (state.config.defaultLimit scope) now := by
  cases key with
  | none => cases missing
  | some scope =>
    refine ⟨scope, ?_⟩
    rw [bucket_track, missing, Option.getD_none] at found
    split at found
    · exact (Option.some.inj found).symm
    · cases found

section

variable (member : key ∈ path.keys) (found : state.bucket key = some bucket)
include member found

theorem mem_readPath {α : Type} (read : Bucket → α) (absent : α) :
    read bucket ∈ state.readPath path read absent := by
  cases key with
  | none =>
    obtain rfl := Option.some.inj found
    exact mem_cons_self
  | some scope =>
    obtain ⟨entry, stored, rfl⟩ := Option.map_eq_some_iff.mp found
    refine mem_cons_of_mem _ (mem_map.mpr ⟨scope, RatePath.some_mem_keys.mp member, ?_⟩)
    rw [stored]
    rfl

theorem bucket_refillPath_of_mem :
    (state.refillPath path now).bucket key = some (bucket.refill now) := by
  rw [bucket_refillPath, if_pos member, found]
  rfl

theorem availableFor_le (live : state.globalSuspended = false) :
    (state.availableFor path now).1 ≤ (bucket.refill now).available := by
  simp only [availableFor, live, Bool.false_eq_true, if_false]
  exact min?_getD_le_of_mem ((state.refillPath path now).mem_readPath member
    (state.bucket_refillPath_of_mem member found) Bucket.available _)

end

theorem le_availableFor {bytes : ℕ} (live : state.globalSuspended = false) (word : bytes < 2 ^ 64)
    (held : ∀ key ∈ path.keys, ∀ bucket, state.bucket key = some bucket →
      bytes ≤ (bucket.refill now).available) : bytes ≤ (state.availableFor path now).1 := by
  have each : ∀ value ∈ (state.refillPath path now).readPath path Bucket.available (2 ^ 64 - 1),
      bytes ≤ value := by
    intro value listed
    rcases mem_cons.mp listed with rfl | listed
    · exact held none path.none_mem_keys state.global rfl
    · obtain ⟨scope, member, rfl⟩ := mem_map.mp listed
      have key := RatePath.some_mem_keys.mpr member
      cases stored : (state.refillPath path now).scopes[scope]? with
      | none =>
        change bytes ≤ 2 ^ 64 - 1
        omega
      | some entry =>
        have refilled : (state.refillPath path now).bucket (some scope) = some entry.bucket := by
          rw [bucket, stored]
          rfl
        rw [bucket_refillPath, if_pos key] at refilled
        obtain ⟨old, was, same⟩ := Option.map_eq_some_iff.mp refilled
        change bytes ≤ entry.bucket.available
        rw [← same]
        exact held (some scope) key old was
  simp only [availableFor, live]
  cases least : ((state.refillPath path now).readPath path Bucket.available (2 ^ 64 - 1)).min? with
  | none =>
    simp only [Bool.false_eq_true, if_false, Option.getD_none]
    omega
  | some value =>
    simpa [least] using each value (min?_eq_some_iff.mp least).1

variable (now)

theorem dispatchTurn_snd (loop : (Option ℕ × Bool) × RateArbiterState) :
    (dispatchTurn now loop).2 = (loop.2.turn now).2 := by
  unfold dispatchTurn
  split <;> rename_i outcome <;> rw [outcome]

theorem foldl_dispatchTurn_snd (turns : ℕ) :
    ((range turns).foldl (fun loop _ => dispatchTurn now loop) ((none, false), state)).2 =
      (fun state => (turn state now).2)^[turns] state := by
  induction turns with
  | zero => rfl
  | succ _ ih =>
    rw [range_succ, foldl_append, foldl_cons, foldl_nil,
      Function.iterate_succ_apply', ← ih, dispatchTurn_snd]

end RateArbiterState

namespace RateSystem

variable (system : RateSystem)

/-- The lock section of the first poll of `acquire`: the waiter joins the queue, the queue is
served, and the waiter takes its grant if it got one. -/
def acquire (path : RatePath) (requested : ℕ+) (now : ClockInstant) : RateSystem :=
  match system.arbiter.ensurePath path now with
  | .error _ => system
  | .ok arbiter =>
    match arbiter.enqueue path requested with
    | .error _ => { system with arbiter := arbiter }
    | .ok (id, queued) => { system with arbiter := (queued.dispatch now).2 }.collect id

def pollWaiter (path : RatePath) (id : U64) (now : ClockInstant) : RateSystem :=
  match system.arbiter.ensurePath path now with
  | .error _ => system
  | .ok arbiter => { system with arbiter := (arbiter.dispatch now).2 }.collect id

theorem turn_arbiter (now : ClockInstant) :
    (system.turn now).2 = { system with arbiter := (system.arbiter.turn now).2 } := by
  unfold turn
  split <;> rename_i outcome <;> rw [outcome]

theorem final_turns (arbiter : RateArbiterState) (now : ClockInstant) (turns : ℕ)
    (rest : List (RateRequest × ClockInstant)) :
    rateMachine.final { system with arbiter := arbiter } (replicate turns (.turn, now) ++ rest) =
      rateMachine.final
        { system with arbiter := (fun state => (state.turn now).2)^[turns] arbiter } rest := by
  induction turns generalizing arbiter with
  | zero => rfl
  | succ _ ih =>
    rw [replicate_succ, cons_append, Machine.final, Function.iterate_succ_apply, ← ih]
    exact congrArg (rateMachine.final · _) (turn_arbiter _ now)

/-- The calls of a poll once its waiter is in the queue: every waiter has its turn, and this one
takes its grant if it got one. -/
def servingCalls (arbiter : RateArbiterState) (id : U64) (now : ClockInstant) :
    List (RateRequest × ClockInstant) :=
  replicate arbiter.waiters.length (.turn, now) ++ [(.collect id, now)]

theorem final_servingCalls (arbiter : RateArbiterState) (id : U64) (now : ClockInstant) :
    rateMachine.final { system with arbiter := arbiter } (servingCalls arbiter id now) =
      { system with arbiter := (arbiter.dispatch now).2 }.collect id := by
  rw [servingCalls, final_turns, RateArbiterState.dispatch,
    RateArbiterState.foldl_dispatchTurn_snd]
  rfl

def acquireCalls (path : RatePath) (requested : ℕ+) (now : ClockInstant) :
    List (RateRequest × ClockInstant) :=
  (.enqueue path requested, now) ::
    match system.arbiter.ensurePath path now with
    | .error _ => []
    | .ok arbiter =>
      match arbiter.enqueue path requested with
      | .error _ => []
      | .ok (id, queued) => servingCalls queued id now

/-- The first poll of `acquire` is an `enqueue`, a turn for every waiter and a collection, all at
its instant; when it fails it is the `enqueue` alone. -/
theorem final_acquireCalls (requested : ℕ+) (now : ClockInstant) :
    rateMachine.final system (system.acquireCalls path requested now) =
      system.acquire path requested now := by
  change rateMachine.final (system.enqueue path requested now) _ = _
  unfold enqueue acquire
  cases system.arbiter.ensurePath path now with
  | error => rfl
  | ok arbiter =>
    dsimp only
    cases arbiter.enqueue path requested with
    | error => rfl
    | ok => exact system.final_servingCalls _ _ now

def pollWaiterCalls (path : RatePath) (id : U64) (now : ClockInstant) :
    List (RateRequest × ClockInstant) :=
  (.ensure path, now) ::
    match system.arbiter.ensurePath path now with
    | .error _ => []
    | .ok arbiter => servingCalls arbiter id now

/-- A later poll of `acquire` is an `ensure`, a turn for every waiter and a collection, all at its
instant; when it fails it is the `ensure` alone. -/
theorem final_pollWaiterCalls (id : U64) (now : ClockInstant) :
    rateMachine.final system (system.pollWaiterCalls path id now) =
      system.pollWaiter path id now := by
  change rateMachine.final (system.ensure path now) _ = _
  unfold ensure pollWaiter
  cases system.arbiter.ensurePath path now with
  | error => rfl
  | ok => exact system.final_servingCalls _ _ now

end RateSystem

end Ariax
