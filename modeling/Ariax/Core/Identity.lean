import Mathlib.Algebra.Order.Ring.Nat
import Mathlib.Order.Fin.Basic

/-!
# Identifiers, instants and public errors

The identifier newtypes of `ids.rs` and the redacted error payload of
`error.rs`. The `nonzero_id!` macro stamps out one newtype per identifier
family; here the family is a type index, so identifiers of different
families cannot be exchanged and every fact about them is stated once.
-/

namespace Ariax

abbrev U64 := Fin (2 ^ 64)

abbrev U32 := Fin (2 ^ 32)

abbrev U16 := Fin (2 ^ 16)

instance u64NeZero : NeZero (2 ^ 64) := ⟨by decide⟩

instance u32NeZero : NeZero (2 ^ 32) := ⟨by decide⟩

instance u16NeZero : NeZero (2 ^ 16) := ⟨by decide⟩

instance u64TransOrd : Std.TransOrd (Fin (2 ^ 64)) := inferInstance

/-- `checked_add(1)` on a fixed-width integer. -/
def checkedSucc {n : ℕ} (value : Fin n) : Option (Fin n) :=
  if h : value.val + 1 < n then some ⟨value.val + 1, h⟩ else none

theorem checkedSucc_eq_some {n : ℕ} {value next : Fin n} :
    checkedSucc value = some next ↔ next.val = value.val + 1 := by
  unfold checkedSucc
  split
  · simp [Fin.ext_iff, eq_comm]
  · simp only [reduceCtorEq, false_iff]
    omega

theorem checkedSucc_eq_none {n : ℕ} {value : Fin n} :
    checkedSucc value = none ↔ n ≤ value.val + 1 := by
  unfold checkedSucc
  split <;> simp <;> omega

theorem exists_checkedSucc {n : ℕ} {x : Fin n} (room : x.val + 1 < n) :
    ∃ next, checkedSucc x = some next :=
  ⟨_, dif_pos room⟩

/-- The identifier families generated by `nonzero_id!`, together with the GID
and the sequence numbers of dispatched effects. -/
inductive IdFamily where
  | task
  | gid
  | optionPatch
  | retryTimer
  | slowReadmission
  | noSpaceProbe
  | hostKeyResolution
  | stoppedResultDeletion
  | effectDispatch
  | lease
  | overlapGroup
  | transferAttempt
  | persisted
  deriving DecidableEq

/-- An identifier of one family: a `u64` that is never the reserved zero. -/
structure NonzeroId (family : IdFamily) where
  get : U64
  nonzero : get ≠ 0
  deriving DecidableEq

namespace NonzeroId

variable {family : IdFamily}

theorem get_injective : Function.Injective fun id : NonzeroId family => id.get := by
  rintro ⟨a, ha⟩ ⟨b, hb⟩ h
  simpa using h

instance : LinearOrder (NonzeroId family) :=
  LinearOrder.lift' (fun id : NonzeroId family => id.get) get_injective

def new (value : U64) : Option (NonzeroId family) :=
  if h : value ≠ 0 then some ⟨value, h⟩ else none

theorem new_eq_some {value : U64} {id : NonzeroId family} :
    new value = some id ↔ value = id.get := by
  unfold new
  obtain ⟨value', h'⟩ := id
  split
  · simp
  · rename_i h
    simp only [reduceCtorEq, false_iff]
    rintro rfl
    exact h h'

@[simp] theorem new_eq_none {value : U64} :
    (new value : Option (NonzeroId family)) = none ↔ value = 0 := by
  unfold new
  split <;> simp_all

end NonzeroId

abbrev TaskId := NonzeroId .task
abbrev Gid := NonzeroId .gid
abbrev OptionPatchId := NonzeroId .optionPatch
abbrev RetryTimerId := NonzeroId .retryTimer
abbrev SlowReadmissionId := NonzeroId .slowReadmission
abbrev NoSpaceProbeId := NonzeroId .noSpaceProbe
abbrev HostKeyResolutionId := NonzeroId .hostKeyResolution
abbrev StoppedResultDeletionId := NonzeroId .stoppedResultDeletion
abbrev EffectDispatchId := NonzeroId .effectDispatch
abbrev LeaseId := NonzeroId .lease
abbrev OverlapGroupId := NonzeroId .overlapGroup
abbrev TransferAttemptId := NonzeroId .transferAttempt

/-- An identifier of a payload field without a family of its own. -/
abbrev PersistedId := NonzeroId .persisted

instance taskIdTransCmp : Std.TransCmp (compare : TaskId → TaskId → Ordering) := inferInstance

instance gidTransCmp : Std.TransCmp (compare : Gid → Gid → Ordering) := inferInstance

instance leaseIdTransCmp : Std.TransCmp (compare : LeaseId → LeaseId → Ordering) := inferInstance

instance overlapGroupIdTransCmp :
    Std.TransCmp (compare : OverlapGroupId → OverlapGroupId → Ordering) := inferInstance

/-- A task worker generation. Generation zero is the initial generation. -/
structure Generation where
  get : U64
  deriving DecidableEq

namespace Generation

theorem get_injective : Function.Injective Generation.get := by
  rintro ⟨a⟩ ⟨b⟩ h
  simpa using h

instance : LinearOrder Generation := LinearOrder.lift' Generation.get get_injective

def initial : Generation := ⟨0⟩

/-- The next generation, or `none` on numeric exhaustion. -/
def checkedNext (generation : Generation) : Option Generation :=
  (checkedSucc generation.get).map Generation.mk

theorem lt_iff {a b : Generation} : a < b ↔ a.get.val < b.get.val := Iff.rfl

variable {generation next : Generation} (h : generation.checkedNext = some next)
include h

theorem checkedNext_val :
    next.get.val = generation.get.val + 1 := by
  obtain ⟨value, hvalue, rfl⟩ := Option.map_eq_some_iff.mp h
  exact checkedSucc_eq_some.mp hvalue

theorem lt_of_checkedNext : generation < next := by
  rw [lt_iff, checkedNext_val h]
  omega

end Generation

structure UriId where
  get : U32
  deriving DecidableEq

theorem UriId.get_injective : Function.Injective UriId.get := by
  rintro ⟨a⟩ ⟨b⟩ h
  exact congrArg UriId.mk h

instance : LinearOrder UriId := LinearOrder.lift' UriId.get UriId.get_injective

instance uriIdTransCmp : Std.TransCmp (compare : UriId → UriId → Ordering) := inferInstance

structure PieceId where
  get : U64
  deriving DecidableEq

theorem PieceId.get_injective : Function.Injective PieceId.get := by
  rintro ⟨a⟩ ⟨b⟩ h
  exact congrArg PieceId.mk h

instance : LinearOrder PieceId := LinearOrder.lift' PieceId.get PieceId.get_injective

instance pieceIdTransCmp : Std.TransCmp (compare : PieceId → PieceId → Ordering) := inferInstance

structure FileId where
  get : U32
  deriving DecidableEq

structure HostKeyChallengeId where
  asBytes : Vector UInt8 16
  deriving DecidableEq

structure HostKeyFingerprint where
  asBytes : Vector UInt8 32
  deriving DecidableEq

/-- A process-local monotonic instant, counted in ticks of the process clock. -/
structure MonotonicInstant where
  ticks : ℕ
  deriving DecidableEq

/-! ## Public errors -/

inductive ErrorKind where
  | config
  | unsupportedOption
  | optionPatchRejected
  | invalidGid
  | gidAmbiguous
  | gidNotFound
  | gidCollision
  | invalidPath
  | pathEscape
  | network
  | timeout
  | retryable
  | invalidRange
  | staleValidator
  | checksumMismatch
  | hostKeyApprovalRequired
  | staleChallenge
  | disk
  | noSpace
  | permission
  | journalCorrupt
  | dirtyCheckpoint
  | needsCredentials
  | slowConsumer
  | responseTooLarge
  | resourceLimit
  | backendUnavailable
  | cancelled
  | internalInvariant
  deriving DecidableEq

inductive RetryClass where
  | never
  | sameSource
  | anotherSource
  | restartGeneration
  | userAction
  deriving DecidableEq

def maxPublicErrorMessageBytes : ℕ := 4096

/-- One safe, redacted error. Its constructor truncates the message, so a
longer one cannot be built. -/
structure PublicError where
  kind : ErrorKind
  safeMessage : String
  diagnosticId : Option U64
  retry : RetryClass
  message_le : safeMessage.utf8ByteSize ≤ maxPublicErrorMessageBytes
  deriving DecidableEq

end Ariax
