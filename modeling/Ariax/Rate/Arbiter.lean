import Ariax.Lib.Machine
import Ariax.Lib.OrderedMap
import Ariax.Rate.Bucket
import Mathlib.Data.PNat.Basic
import Mathlib.Data.Prod.Lex

/-!
# The rate arbiter

The hierarchical admission of payload bytes of `rate.rs`: a reservation is
made in the global bucket and in the buckets of a host, a task and a stream,
at once. The three maps of scoped buckets are one map over the scopes, which
are tagged with their kind. A permit belongs to its caller until it is
settled or dropped; the callers' permits are part of the state here, and so
a run is any sequence of calls with any lifetimes of the permits they
return.
-/

namespace Ariax

/-- The path of a stream below the global bucket. -/
structure RatePath where
  host : U64
  task : U64
  stream : U64
  deriving DecidableEq

inductive RateScope where
  | host (key : U64)
  | task (key : U64)
  | stream (task stream : U64)
  deriving DecidableEq

namespace RateScope

/-- The map a scope is kept in and its key there. -/
def key : RateScope → ℕ ×ₗ U64 ×ₗ U64
  | .host id => toLex (0, toLex (id, 0))
  | .task id => toLex (1, toLex (id, 0))
  | .stream owner id => toLex (2, toLex (owner, id))

theorem key_injective : Function.Injective key := by
  rintro (a | a | ⟨a, b⟩) (c | c | ⟨c, d⟩) same <;> simp_all [key, Prod.ext_iff]

instance : LinearOrder RateScope := LinearOrder.lift' key key_injective

instance transCmp : Std.TransCmp (compare : RateScope → RateScope → Ordering) := inferInstance

end RateScope

def RatePath.scopes (path : RatePath) : List RateScope :=
  [.host path.host, .task path.task, .stream path.task path.stream]

theorem RatePath.nodup_scopes (path : RatePath) : path.scopes.Nodup := by
  simp [scopes]

structure RateArbiterConfig where
  global : RateLimit
  defaultHost : RateLimit
  defaultTask : RateLimit
  defaultStream : RateLimit
  quantumBytes : ℕ+
  maxWaiters : ℕ+
  deriving DecidableEq

inductive RateArbiterError where
  | invalidConfig
  | zeroReservation
  | waiterLimit
  | trackedScopeLimit
  deriving DecidableEq

namespace RateArbiterConfig

def validate (config : RateArbiterConfig) : Except RateArbiterError RateArbiterConfig :=
  if !config.global.validate || !config.defaultHost.validate || !config.defaultTask.validate ||
      !config.defaultStream.validate || maxRateQuantumBytes < (config.quantumBytes : ℕ) ||
      maxRateWaiters < (config.maxWaiters : ℕ) then
    .error .invalidConfig
  else
    .ok config

/-- The limit of a bucket that was not given one of its own. -/
def defaultLimit (config : RateArbiterConfig) : RateScope → RateLimit
  | .host _ => config.defaultHost
  | .task _ => config.defaultTask
  | .stream _ _ => config.defaultStream

end RateArbiterConfig

structure BucketEntry where
  bucket : Bucket
  explicit : Bool

structure Waiter where
  id : U64
  path : RatePath
  requested : ℕ
  deriving DecidableEq

structure Grant where
  path : RatePath
  bytes : ℕ

structure RateArbiterState where
  globalSuspended : Bool
  config : RateArbiterConfig
  global : Bucket
  scopes : OrderedMap RateScope BucketEntry
  waiters : List Waiter
  grants : OrderedMap U64 Grant
  nextWaiterId : U64

namespace RateArbiterState

def new (config : RateArbiterConfig) (now : ClockInstant) : RateArbiterState where
  globalSuspended := false
  config := config
  global := Bucket.new config.global now
  scopes := ∅
  waiters := []
  grants := ∅
  nextWaiterId := 1

variable (state : RateArbiterState)

def bucket : Option RateScope → Option Bucket
  | none => some state.global
  | some scope => state.scopes[scope]?.map BucketEntry.bucket

def trackedScopes : ℕ := state.scopes.size

/-- A bucket with the default limit for each scope that has none. -/
def track (path : RatePath) (now : ClockInstant) : RateArbiterState :=
  { state with
    scopes := path.scopes.foldl (fun scopes scope =>
      if scopes.contains scope then scopes
      else scopes.insert scope ⟨Bucket.new (state.config.defaultLimit scope) now, false⟩)
      state.scopes }

def ensurePath (path : RatePath) (now : ClockInstant) : Except RateArbiterError RateArbiterState :=
  let missing := path.scopes.countP fun scope => !state.scopes.contains scope
  if maxRateTrackedScopes < state.trackedScopes + missing then .error .trackedScopeLimit
  else .ok (state.track path now)

/-- A change of the bucket of one tracked scope. -/
def changeScope (change : Bucket → Bucket) (scopes : OrderedMap RateScope BucketEntry)
    (scope : RateScope) : OrderedMap RateScope BucketEntry :=
  match scopes[scope]? with
  | some entry => scopes.insert scope { entry with bucket := change entry.bucket }
  | none => scopes

section

variable {α : Type} (path : RatePath)

/-- A change of the global bucket and of the tracked buckets of a path. -/
def onPath (change : Bucket → Bucket) : RateArbiterState :=
  { state with
    global := change state.global
    scopes := path.scopes.foldl (changeScope change) state.scopes }

def refillPath (now : ClockInstant) : RateArbiterState :=
  state.onPath path fun bucket => bucket.refill now

/-- What one read of the buckets of a path gives, from the global one down. -/
def readPath (read : Bucket → α) (absent : α) : List α :=
  read state.global :: path.scopes.map fun scope =>
    state.scopes[scope]?.elim absent fun entry => read entry.bucket

def availableFor (now : ClockInstant) : ℕ × RateArbiterState :=
  if state.globalSuspended then (0, state)
  else
    let refilled := state.refillPath path now
    (((refilled.readPath path Bucket.available (2 ^ 64 - 1)).min?).getD (2 ^ 64 - 1), refilled)

section

variable (bytes : ℕ) (now : ClockInstant)

def reserve : RateArbiterState :=
  (state.refillPath path now).onPath path fun bucket => bucket.reserve bytes

def refund : RateArbiterState :=
  (state.refillPath path now).onPath path fun bucket => bucket.refund bytes

def chargeExtra : RateArbiterState :=
  state.reserve path bytes now

end

def debtFor (now : ClockInstant) : ℕ × RateArbiterState :=
  let refilled := state.refillPath path now
  (((refilled.readPath path Bucket.debt 0).max?).getD 0, refilled)

def nextDelayFor (now : ClockInstant) : ℕ × RateArbiterState :=
  if state.globalSuspended then (3600 * 1_000_000_000, state)
  else
    let refilled := state.refillPath path now
    (((refilled.readPath path Bucket.delayUntilOne 0).max?).getD 0, refilled)

def enqueue (requested : ℕ) : Except RateArbiterError (U64 × RateArbiterState) :=
  if state.config.maxWaiters ≤ state.waiters.length then .error .waiterLimit
  else .ok (state.nextWaiterId, { state with
    nextWaiterId := (checkedSucc state.nextWaiterId).getD 1
    waiters := state.waiters ++ [⟨state.nextWaiterId, path, requested⟩] })

end

inductive Turn where
  | granted (waiter : Waiter) (bytes : ℕ)
  | delayed (delay : ℕ)

/-- One turn of the dispatch loop: the first waiter is served or goes to the back. -/
def turn (now : ClockInstant) : Option Turn × RateArbiterState :=
  match state.waiters with
  | [] => (none, state)
  | waiter :: rest =>
    let (available, refilled) := { state with waiters := rest }.availableFor waiter.path now
    let requested := min waiter.requested state.config.quantumBytes
    let grant := min requested available
    if grant ≠ 0 then
      let reserved := refilled.reserve waiter.path grant now
      (some (.granted waiter grant),
        { reserved with grants := reserved.grants.insert waiter.id ⟨waiter.path, grant⟩ })
    else
      let (delay, checked) := refilled.nextDelayFor waiter.path now
      (some (.delayed delay), { checked with waiters := checked.waiters ++ [waiter] })

/-- One iteration of the dispatch loop, with the shortest delay so far and whether something
was granted. -/
def dispatchTurn (now : ClockInstant) (loop : (Option ℕ × Bool) × RateArbiterState) :
    (Option ℕ × Bool) × RateArbiterState :=
  match loop.2.turn now with
  | (none, next) => (loop.1, next)
  | (some (.granted _ _), next) => ((loop.1.1, true), next)
  | (some (.delayed delay), next) => ((some (loop.1.1.elim delay (min delay)), loop.1.2), next)

/-- The dispatch loop gives every waiter one turn. -/
def dispatch (now : ClockInstant) : (Option ℕ × Bool) × RateArbiterState :=
  (List.range state.waiters.length).foldl (fun loop _ => dispatchTurn now loop)
    ((none, false), state)

def removeWaiter (id : U64) (now : ClockInstant) : Option Grant × RateArbiterState :=
  let removed := { state with waiters := state.waiters.eraseP fun waiter => waiter.id = id }
  match removed.grants[id]? with
  | some grant =>
    (some grant,
      { removed with grants := removed.grants.erase id }.refund grant.path grant.bytes now)
  | none => (none, removed)

def limitGlobal (suspended : Bool) (limit : RateLimit) (now : ClockInstant) : RateArbiterState :=
  { state with
    globalSuspended := suspended
    global := state.global.reconfigure limit now
    config := { state.config with global := limit } }

def reconfigure (config : RateArbiterConfig) (now : ClockInstant) : RateArbiterState :=
  { state with
    globalSuspended := false
    global := state.global.reconfigure config.global now
    scopes := state.scopes.map fun scope entry =>
      if entry.explicit then entry
      else { entry with bucket := entry.bucket.reconfigure (config.defaultLimit scope) now }
    config := config }

variable (scope : RateScope) (limit : RateLimit) (now : ClockInstant)

def setLimitEntry : Except RateArbiterError RateArbiterState :=
  if !state.scopes.contains scope && maxRateTrackedScopes ≤ state.trackedScopes then
    .error .trackedScopeLimit
  else
    .ok { state with
      scopes := state.scopes.insert scope (match state.scopes[scope]? with
        | some entry => ⟨entry.bucket.reconfigure limit now, true⟩
        | none => ⟨Bucket.new limit now, true⟩) }

def setScopedLimit : Except RateArbiterError RateArbiterState :=
  if !limit.validate then .error .invalidConfig else state.setLimitEntry scope limit now

def applyPrepared : RateArbiterState :=
  match state.scopes[scope]? with
  | some entry =>
    { state with
      scopes := state.scopes.insert scope ⟨entry.bucket.reconfigure limit now, true⟩ }
  | none => state

end RateArbiterState

/-! ## Callers and their permits -/

/-- A reservation that its holder has to settle or drop. -/
structure RatePermit where
  path : RatePath
  reserved : ℕ

structure RateSystem where
  arbiter : RateArbiterState
  permits : List RatePermit

/-- What a call does to the buckets of a path, beside refilling them. -/
inductive RateEvent where
  | granted (path : RatePath) (requested bytes : ℕ)
  | refunded (path : RatePath) (bytes : ℕ)
  | charged (path : RatePath) (bytes : ℕ)
  deriving DecidableEq

namespace RateSystem

variable (system : RateSystem)

section

variable (path : RatePath) (requested : ℕ+) (now : ClockInstant)

/-- Immediate admission; queued waiters keep their priority. -/
def tryAcquire : Option RateEvent × RateSystem :=
  match system.arbiter.ensurePath path now with
  | .error _ => (none, system)
  | .ok arbiter =>
    if !arbiter.waiters.isEmpty then (none, { system with arbiter := arbiter })
    else
      let (available, refilled) := arbiter.availableFor path now
      let bytes := min (min (requested : ℕ) arbiter.config.quantumBytes) available
      if bytes = 0 then (none, { system with arbiter := refilled })
      else
        (some (.granted path requested bytes),
          ⟨refilled.reserve path bytes now, system.permits ++ [⟨path, bytes⟩]⟩)

def enqueue : RateSystem :=
  match system.arbiter.ensurePath path now with
  | .error _ => system
  | .ok arbiter =>
    match arbiter.enqueue path requested with
    | .error _ => { system with arbiter := arbiter }
    | .ok (_, queued) => { system with arbiter := queued }

end

/-- A later poll of a waiter tracks its path again. -/
def ensure (path : RatePath) (now : ClockInstant) : RateSystem :=
  match system.arbiter.ensurePath path now with
  | .error _ => system
  | .ok arbiter => { system with arbiter := arbiter }

def turn (now : ClockInstant) : Option RateEvent × RateSystem :=
  match system.arbiter.turn now with
  | (some (.granted waiter bytes), arbiter) =>
    (some (.granted waiter.path waiter.requested bytes), { system with arbiter := arbiter })
  | (_, arbiter) => (none, { system with arbiter := arbiter })

/-- A waiter takes the grant it was given as its permit. -/
def collect (id : U64) : RateSystem :=
  match system.arbiter.grants[id]? with
  | some grant =>
    ⟨{ system.arbiter with grants := system.arbiter.grants.erase id },
      system.permits ++ [⟨grant.path, grant.bytes⟩]⟩
  | none => system

/-- The end of a permit: bytes below the reservation come back, bytes above it are charged. -/
def settle (index : ℕ) (acceptedBytes : U64) (now : ClockInstant) : Option RateEvent × RateSystem :=
  match system.permits[index]? with
  | none => (none, system)
  | some permit =>
    let (event, arbiter) :=
      if acceptedBytes.val < permit.reserved then
        (some (.refunded permit.path (permit.reserved - acceptedBytes.val)),
          system.arbiter.refund permit.path (permit.reserved - acceptedBytes.val) now)
      else if permit.reserved < acceptedBytes.val then
        (some (.charged permit.path (acceptedBytes.val - permit.reserved)),
          system.arbiter.chargeExtra permit.path (acceptedBytes.val - permit.reserved) now)
      else
        (none, system.arbiter)
    (event, ⟨(arbiter.debtFor permit.path now).2, system.permits.eraseIdx index⟩)

/-- A permit that is dropped returns its reservation. -/
def drop (index : ℕ) (now : ClockInstant) : Option RateEvent × RateSystem :=
  match system.permits[index]? with
  | none => (none, system)
  | some permit =>
    (some (.refunded permit.path permit.reserved),
      ⟨system.arbiter.refund permit.path permit.reserved now, system.permits.eraseIdx index⟩)

/-- A waiter that is dropped leaves the queue and returns the grant it was given. -/
def removeWaiter (id : U64) (now : ClockInstant) : Option RateEvent × RateSystem :=
  let (grant, arbiter) := system.arbiter.removeWaiter id now
  (grant.map fun grant => .refunded grant.path grant.bytes, { system with arbiter := arbiter })

def stats (now : ClockInstant) : RateSystem :=
  { system with
    arbiter := { system.arbiter with global := system.arbiter.global.refill now } }

def reconfigure (config : RateArbiterConfig) (now : ClockInstant) : RateSystem :=
  match config.validate with
  | .error _ => system
  | .ok config => { system with arbiter := system.arbiter.reconfigure config now }

/-- A process share of zero suspends new grants, and no share is unlimited. -/
def setGlobalAllocation (bytesPerSecond : Option U64) (now : ClockInstant) : RateSystem :=
  { system with
    arbiter := system.arbiter.limitGlobal (bytesPerSecond = some 0)
      (.perSecond (bytesPerSecond.getD 0)) now }

def setGlobalLimit (limit : RateLimit) (now : ClockInstant) : RateSystem :=
  if !limit.validate then system
  else { system with arbiter := system.arbiter.limitGlobal false limit now }

variable (scope : RateScope) (limit : RateLimit) (now : ClockInstant)

def setScopedLimit : RateSystem :=
  match system.arbiter.setScopedLimit scope limit now with
  | .error _ => system
  | .ok arbiter => { system with arbiter := arbiter }

/-- A limit that was validated when it was prepared is applied. -/
def applyPrepared : RateSystem :=
  if !limit.validate then system
  else { system with arbiter := system.arbiter.applyPrepared scope limit now }

end RateSystem

/-- The calls on an arbiter and on its permits, each at its instant. The lock section of
`acquire` is a sequence of them. -/
inductive RateRequest where
  | tryAcquire (path : RatePath) (requested : ℕ+)
  | enqueue (path : RatePath) (requested : ℕ+)
  | ensure (path : RatePath)
  | turn
  | collect (id : U64)
  | settle (index : ℕ) (acceptedBytes : U64)
  | drop (index : ℕ)
  | removeWaiter (id : U64)
  | stats
  | reconfigure (config : RateArbiterConfig)
  | setGlobalAllocation (bytesPerSecond : Option U64)
  | setGlobalLimit (limit : RateLimit)
  | setScopedLimit (scope : RateScope) (limit : RateLimit)
  | applyPrepared (scope : RateScope) (limit : RateLimit)

/-- The call changes the limit of no bucket; it may create a bucket with a limit of its own. -/
def RateRequest.KeepsLimits (system : RateSystem) : RateRequest → Prop
  | .reconfigure _ | .setGlobalAllocation _ | .setGlobalLimit _ | .applyPrepared _ _ => False
  | .setScopedLimit scope _ => system.arbiter.bucket (some scope) = none
  | _ => True

open RateSystem in
def RateSystem.next (system : RateSystem) (request : RateRequest) (now : ClockInstant) :
    Option RateEvent × RateSystem :=
  match request with
  | .tryAcquire path requested => system.tryAcquire path requested now
  | .enqueue path requested => (none, system.enqueue path requested now)
  | .ensure path => (none, system.ensure path now)
  | .turn => system.turn now
  | .collect id => (none, system.collect id)
  | .settle index acceptedBytes => system.settle index acceptedBytes now
  | .drop index => system.drop index now
  | .removeWaiter id => system.removeWaiter id now
  | .stats => (none, system.stats now)
  | .reconfigure config => (none, system.reconfigure config now)
  | .setGlobalAllocation bytesPerSecond => (none, system.setGlobalAllocation bytesPerSecond now)
  | .setGlobalLimit limit => (none, system.setGlobalLimit limit now)
  | .setScopedLimit scope limit => (none, system.setScopedLimit scope limit now)
  | .applyPrepared scope limit => (none, system.applyPrepared scope limit now)

/-- The arbiters that `RateArbiter::new` returns at some instant. -/
def RateSystem.new (config : RateArbiterConfig) (now : ClockInstant) :
    Except RateArbiterError RateSystem :=
  config.validate.map fun config => ⟨RateArbiterState.new config now, []⟩

def rateMachine : Machine RateSystem (RateRequest × ClockInstant) (Option RateEvent) where
  initial := {system | ∃ config now, RateSystem.new config now = .ok system}
  next system input := system.next input.1 input.2

end Ariax
