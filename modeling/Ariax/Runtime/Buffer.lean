import Ariax.Lib.Machine

/-!
# Transfer buffer leases

The pool recycles a buffer with the bytes its last tenant left in it, so the
length of a lease is all that keeps them from the next one. `mark_filled`
stores the length before it asks for the transition to `Filled`, which a
lease that is still `Reserved` does not have: the call fails with the new
length in place, and the lease may then go to `Releasable`, which is readable.
-/

namespace Ariax.BufferPool

/-- The ownership states of a transfer buffer. -/
inductive BufferState
  | free | reserved | networkFill | transformOwned | filled | validating | diskQueued
  | diskInFlight | diskDone | hashBorrowed | journalPending | releasable
  deriving DecidableEq

namespace BufferState

def isMutable : BufferState → Bool
  | reserved | networkFill | transformOwned => true
  | _ => false

def isReadable : BufferState → Bool
  | free | reserved | networkFill | transformOwned => false
  | _ => true

/-- The rows of the transition table. -/
def successors : BufferState → List BufferState
  | free | releasable => []
  | reserved => [networkFill, transformOwned, releasable]
  | networkFill => [transformOwned, filled, releasable]
  | transformOwned => [filled, releasable]
  | filled => [validating, diskQueued, hashBorrowed, journalPending, releasable]
  | validating => [diskQueued, hashBorrowed, journalPending, releasable]
  | diskQueued => [diskInFlight, releasable]
  | diskInFlight => [diskDone]
  | diskDone => [hashBorrowed, journalPending, releasable]
  | hashBorrowed => [diskQueued, diskDone, journalPending, releasable]
  | journalPending => [releasable]

def canTransitionTo (state next : BufferState) : Bool := state.successors.contains next

/-- No transition leads back to a state that may be written. -/
theorem isMutable_of_canTransitionTo {state next : BufferState}
    (allowed : state.canTransitionTo next) (immutable : state.isMutable = false) :
    next.isMutable = false := by
  cases state <;> cases next <;> simp_all [canTransitionTo, successors, isMutable]

/-- A buffer that may be written is filled from every state but the first. -/
theorem canTransitionTo_filled {state : BufferState} (mutable : state.isMutable) :
    state.canTransitionTo filled ↔ state ≠ reserved := by
  cases state <;> first | decide | cases mutable

end BufferState

/-- The lane that currently owns a lease. -/
inductive OwnerTag
  | pool | network | transform | storage | disk | cpu | journal | quarantine

/-- Why a lease state or view operation was invalid. -/
inductive BufferTransitionError
  | invalidTransition (source target : BufferState)
  | notMutable (state : BufferState)
  | notReadable (state : BufferState)
  | lengthExceedsCapacity (len capacity : ℕ)

structure BufferLease where
  storage : List UInt8
  len : ℕ
  state : BufferState
  owner : OwnerTag

namespace BufferLease

variable (lease : BufferLease)

def capacity : ℕ := lease.storage.length

/-- What `try_reserve` hands out: a block as it was allocated or as its last tenant left it. -/
def reserved (storage : List UInt8) (owner : OwnerTag) : BufferLease :=
  ⟨storage, 0, .reserved, owner⟩

/-- The bytes that the caller may overwrite. -/
def writable : Except BufferTransitionError (List UInt8) :=
  if !lease.state.isMutable then .error (.notMutable lease.state) else .ok lease.storage

def transition (next : BufferState) (owner : OwnerTag) :
    Except BufferTransitionError Unit × BufferLease :=
  if !lease.state.canTransitionTo next then
    (.error (.invalidTransition lease.state next), lease)
  else (.ok (), { lease with state := next, owner })

def markFilled (len : ℕ) (owner : OwnerTag) : Except BufferTransitionError Unit × BufferLease :=
  if !lease.state.isMutable then (.error (.notMutable lease.state), lease)
  else if lease.capacity < len then (.error (.lengthExceedsCapacity len lease.capacity), lease)
  else { lease with len }.transition .filled owner

def bytes : Except BufferTransitionError (List UInt8) :=
  if !lease.state.isReadable then .error (.notReadable lease.state)
  else .ok (lease.storage.take lease.len)

/-- What the holder of `writable` does with it. -/
def write (contents : List UInt8) : Except BufferTransitionError Unit × BufferLease :=
  match lease.writable with
  | .error e => (.error e, lease)
  | .ok old => (.ok (), { lease with
      storage := contents.take old.length ++ old.drop contents.length })

end BufferLease

/-- The calls that the holder of a lease makes on it. -/
inductive LeaseCall
  | write (contents : List UInt8)
  | markFilled (len : ℕ) (owner : OwnerTag)
  | transition (next : BufferState) (owner : OwnerTag)
  | bytes

inductive LeaseReply
  | done (result : Except BufferTransitionError Unit)
  | read (result : Except BufferTransitionError (List UInt8))

open BufferLease

/-- A lease from `try_reserve` under the calls of its holder. -/
def leaseMachine : Machine BufferLease LeaseCall LeaseReply where
  initial := { lease | ∃ storage owner, lease = reserved storage owner }
  next lease
    | .write contents => (lease.write contents).map .done id
    | .markFilled len owner => (lease.markFilled len owner).map .done id
    | .transition next owner => (lease.transition next owner).map .done id
    | .bytes => (.read lease.bytes, lease)

abbrev LeaseStep := Step BufferLease LeaseCall LeaseReply

/-- The length that a call fixed: that of a `mark_filled` that succeeded. -/
def markedLength (step : LeaseStep) : Option ℕ :=
  match step.input, step.output with
  | .markFilled len _, .done (.ok _) => some len
  | _, _ => none

/-- The length that the last successful `mark_filled` of a history fixed, none being zero. -/
def fixedLength (τ : List LeaseStep) : ℕ :=
  τ.foldl (fun len step => (markedLength step).getD len) 0

/-- A length that fits is not announced on a lease that is still `Reserved`, unless it is
the length the lease has. -/
def LeaseCareful (lease : BufferLease) : LeaseCall → Prop
  | .markFilled len _ => lease.state = .reserved → len ≤ lease.capacity → len = lease.len
  | _ => True

/-- A call that failed left the length, the state and the owner as they were. -/
def ErrorHarmless (step : LeaseStep) : Prop :=
  ∀ e, step.output = .done (.error e) → step.after.len = step.before.len ∧
    step.after.state = step.before.state ∧ step.after.owner = step.before.owner

/-- All that a call can do: it is refused and nothing changes, `mark_filled` is refused with
the length in place, or it is served. -/
inductive LeaseMoves : LeaseStep → Prop
  | refused {lease call} (careful : LeaseCareful lease call) (e) :
      LeaseMoves ⟨lease, call, .done (.error e), lease⟩
  | exposed {lease : BufferLease} {len} (fresh : lease.state = .reserved)
      (fits : len ≤ lease.capacity) (owner e) :
      LeaseMoves ⟨lease, .markFilled len owner, .done (.error e), { lease with len }⟩
  | filled {lease : BufferLease} {len} (filling : lease.state ≠ .reserved)
      (fits : len ≤ lease.capacity) (owner) :
      LeaseMoves ⟨lease, .markFilled len owner, .done (.ok ()),
        { lease with len, state := .filled, owner }⟩
  | moved {lease : BufferLease} {next} (allowed : lease.state.canTransitionTo next) (owner) :
      LeaseMoves ⟨lease, .transition next owner, .done (.ok ()),
        { lease with state := next, owner }⟩
  | wrote (lease : BufferLease) (contents) {storage}
      (same : storage.length = lease.storage.length) :
      LeaseMoves ⟨lease, .write contents, .done (.ok ()), { lease with storage }⟩
  | read (lease : BufferLease) : LeaseMoves ⟨lease, .bytes, .read lease.bytes, lease⟩

theorem leaseMoves_step (lease : BufferLease) (call : LeaseCall) :
    LeaseMoves (leaseMachine.step lease call) := by
  cases call with
  | bytes => exact .read lease
  | write contents =>
    simp only [Machine.step, leaseMachine, write, writable]
    cases lease.state.isMutable
    · exact .refused (by trivial) _
    · exact .wrote lease contents (by simp; omega)
  | transition next owner =>
    simp only [Machine.step, leaseMachine, transition]
    cases allowed : lease.state.canTransitionTo next
    · exact .refused (by trivial) _
    · exact .moved allowed owner
  | markFilled len owner =>
    simp only [Machine.step, leaseMachine, markFilled, transition]
    cases mutable : lease.state.isMutable with
    | false =>
      have filling : LeaseCareful lease (.markFilled len owner) := fun fresh => by
        simp [fresh, BufferState.isMutable] at mutable
      exact .refused filling _
    | true =>
      have filled := BufferState.canTransitionTo_filled mutable
      by_cases long : lease.capacity < len
      · have excessive : LeaseCareful lease (.markFilled len owner) := fun _ fits =>
          absurd long fits.not_gt
        simp only [if_pos long]
        exact .refused excessive _
      simp only [if_neg long]
      cases allowed : lease.state.canTransitionTo .filled with
      | false => exact .exposed (by simp_all) (not_lt.mp long) owner _
      | true => exact .filled (filled.mp allowed) (not_lt.mp long) owner

variable {start lease : BufferLease} {step : LeaseStep} {τ : List LeaseStep}

namespace LeaseMoves

variable (moves : LeaseMoves step)
include moves

theorem errorHarmless_iff :
    ErrorHarmless step ↔ LeaseCareful step.before step.input := by
  cases moves with
  | refused careful => simp [ErrorHarmless, careful]
  | exposed fresh fits => simp [ErrorHarmless, LeaseCareful, fresh, fits]
  | filled filling => simp [ErrorHarmless, LeaseCareful, filling]
  | moved | wrote | read => simp [ErrorHarmless, LeaseCareful]

/-- A careful call leaves the length as it is or fixes it. -/
theorem len_eq (careful : LeaseCareful step.before step.input) :
    step.after.len = (markedLength step).getD step.before.len := by
  cases moves with
  | @refused lease call => cases call <;> rfl
  | exposed fresh fits => exact careful fresh fits
  | filled | moved | wrote | read => rfl

theorem len_le (within : step.before.len ≤ step.before.capacity) :
    step.after.len ≤ step.after.capacity := by
  cases moves with
  | exposed _ fits | filled _ fits => exact fits
  | wrote _ _ same => simpa [capacity, same] using within
  | refused | moved | read => exact within

theorem isMutable_after
    (immutable : step.before.state.isMutable = false) : step.after.state.isMutable = false := by
  cases moves with
  | moved allowed => exact BufferState.isMutable_of_canTransitionTo allowed immutable
  | filled => rfl
  | refused | exposed | wrote | read => exact immutable

end LeaseMoves

/-- In every run of a lease, the calls that fail leave its length, state and owner unchanged
exactly when every call is careful. In such a run the lease reads as a prefix of its bytes, as
long as the last successful `mark_filled` said; and no run makes a lease writable again. -/
theorem leaseErrors_harmless_iff (fresh : start ∈ leaseMachine.initial)
    (run : leaseMachine.Run start τ lease) :
    ((∀ step ∈ τ, ErrorHarmless step) ↔ Machine.Guarded LeaseCareful τ) ∧
    (Machine.Guarded LeaseCareful τ → ∀ bytes, lease.bytes = .ok bytes →
      bytes <+: lease.storage ∧ bytes.length = fixedLength τ) ∧
    (lease.state.isMutable = false → ∀ τ' later, leaseMachine.Run lease τ' later →
      later.writable = .error (.notMutable later.state)) := by
  obtain ⟨storage, owner, rfl⟩ := fresh
  have within : lease.len ≤ lease.capacity :=
    run.invariant (P := fun lease => lease.len ≤ lease.capacity) (Nat.zero_le _)
      fun lease call => (leaseMoves_step lease call).len_le
  refine ⟨?_, fun careful bytes read => ?_, fun immutable τ' later rest => ?_⟩
  · refine forall₂_congr fun step member => ?_
    rw [run.step_eq member]
    exact (leaseMoves_step _ _).errorHarmless_iff
  · have len_eq : Machine.Guarded LeaseCareful τ → lease.len = fixedLength τ := by
      refine run.history (P := fun τ lease => Machine.Guarded LeaseCareful τ →
        lease.len = fixedLength τ) (fun _ => rfl) fun τ lease call _ ih careful => ?_
      obtain ⟨earlier, last⟩ := Machine.guarded_snoc.mp careful
      rw [fixedLength, List.foldl_append, ← fixedLength, ← ih earlier]
      exact (leaseMoves_step lease call).len_eq last
    unfold BufferLease.bytes at read
    split at read
    · cases read
    · cases read
      exact ⟨List.take_prefix .., by simpa [← len_eq careful, capacity] using within⟩
  · have sealed : later.state.isMutable = false :=
      rest.invariant (P := fun lease => lease.state.isMutable = false) immutable
        fun lease call => (leaseMoves_step lease call).isMutable_after
    simp [writable, sealed]

namespace LeaseSample

/-- A block of 16 KiB whose last tenant wrote one byte. -/
def recycled : BufferLease := reserved (7 :: .replicate (16 * 1024 - 1) 0) .network

def refused : List LeaseCall := [.markFilled 1 .network, .transition .releasable .pool]

def filled : List LeaseCall :=
  [.transition .networkFill .network, .write [1, 2], .markFilled 4 .network,
    .markFilled 2 .network, .transition .releasable .pool]

end LeaseSample

open LeaseSample

attribute [local simp] leaseMachine reserved writable transition markFilled BufferLease.bytes
  capacity BufferState.isMutable BufferState.isReadable BufferState.canTransitionTo
  BufferState.successors

/-- A block of three bytes is filled with two of them, after a length that does not fit. -/
theorem leaseErrors_harmless_filled :
    let small := reserved [7, 7, 7] .network
    (leaseMachine.final small filled).bytes = .ok [1, 2] ∧
      fixedLength (leaseMachine.trace small filled) = 2 := by
  intro small
  have run := Machine.run_trace (M := leaseMachine) small filled
  have careful : Machine.Guarded LeaseCareful (leaseMachine.trace small filled) := by
    simp [small, Machine.Guarded, Machine.trace, LeaseCareful, filled, write]
  have read : (leaseMachine.final small filled).bytes = .ok [1, 2] := by
    simp [small, Machine.final, filled, write]
  exact ⟨read, ((leaseErrors_harmless_iff ⟨_, _, rfl⟩ run).2.1 careful _ read).2.symm⟩

/-- The next tenant of a buffer reads a byte of the last one, after a call that failed. -/
theorem lease_reveals_last_tenant :
    (leaseMachine.trace recycled (refused ++ [.bytes])).map Step.output =
    [.done (.error (.invalidTransition .reserved .filled)), .done (.ok ()), .read (.ok [7])] := by
  unfold recycled
  generalize List.replicate _ (0 : UInt8) = rest
  simp [Machine.trace, refused]

end Ariax.BufferPool
