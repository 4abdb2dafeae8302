import Ariax.Core.Identity
import Ariax.Lib.TokenBucket
import Mathlib.Tactic.Linarith

/-!
# Rate limits and their buckets

The limits and token buckets of `rate.rs`. Tokens are an `i128` and the
fraction of a token is kept in billionths as a `u128`; both saturate. Time
is the monotonic clock, in nanoseconds since boot.
-/

namespace Ariax

/-- A reading of the monotonic clock in nanoseconds; its seconds are an `i64`. -/
abbrev ClockInstant := Fin 9_223_372_036_854_775_808_000_000_000

instance clockNeZero : NeZero 9_223_372_036_854_775_808_000_000_000 := ⟨by decide⟩

def maxRateQuantumBytes : ℕ := 1024 * 1024

def maxRateWaiters : ℕ := 100_000

def maxRateTrackedScopes : ℕ := 300_000

def maxRateBurstBytes : ℕ := 4 * 1024 * 1024

def saturateI128 (value : ℤ) : ℤ := max (-(2 ^ 127)) (min value (2 ^ 127 - 1))

def saturateU128 (value : ℕ) : ℕ := min value (2 ^ 128 - 1)

/-- One token-bucket limit; a rate of zero is unlimited. -/
structure RateLimit where
  bytesPerSecond : U64
  burstBytes : U64
  deriving DecidableEq

namespace RateLimit

def unlimited : RateLimit := ⟨0, 0⟩

/-- A finite rate with a burst of one second, which is capped. -/
def perSecond (bytesPerSecond : U64) : RateLimit :=
  if bytesPerSecond = 0 then unlimited
  else ⟨bytesPerSecond,
    if maxRateBurstBytes < bytesPerSecond.val then Fin.ofNat (2 ^ 64) maxRateBurstBytes
    else bytesPerSecond⟩

def isUnlimited (limit : RateLimit) : Bool := limit.bytesPerSecond = 0

def validate (limit : RateLimit) : Bool :=
  (limit.bytesPerSecond = 0 && limit.burstBytes = 0) ||
    (limit.bytesPerSecond ≠ 0 && limit.burstBytes ≠ 0 && limit.burstBytes.val ≤ maxRateBurstBytes)

theorem burstBytes_le {limit : RateLimit} (valid : limit.validate = true) :
    limit.burstBytes.val ≤ maxRateBurstBytes := by
  simp only [validate, Bool.or_eq_true, Bool.and_eq_true, decide_eq_true_eq] at valid
  rcases valid with ⟨-, none⟩ | ⟨-, bounded⟩
  · simp [none]
  · exact bounded

theorem burstBytes_pos {limit : RateLimit} (valid : limit.validate = true)
    (finite : limit.isUnlimited = false) : 0 < limit.burstBytes.val := by
  simp only [isUnlimited, decide_eq_false_iff_not] at finite
  simp only [validate, finite, decide_false, Bool.false_and, Bool.false_or, Bool.and_eq_true,
    decide_eq_true_eq] at valid
  exact Fin.pos_iff_ne_zero.mpr valid.1.2

theorem validate_perSecond (bytesPerSecond : U64) : (perSecond bytesPerSecond).validate = true := by
  unfold perSecond
  split
  · rfl
  · rename_i limited
    split
    · simp [validate, limited]
      decide
    · rename_i small
      simp [validate, limited, not_lt.mp small]

end RateLimit

structure Bucket where
  limit : RateLimit
  tokens : ℤ
  remainder : ℕ
  updatedAt : ClockInstant
  deriving DecidableEq

namespace Bucket

def new (limit : RateLimit) (now : ClockInstant) : Bucket := ⟨limit, limit.burstBytes.val, 0, now⟩

variable (bucket : Bucket)

/-- What has accrued since the last refill, in billionths of a token. -/
def numerator (now : ClockInstant) : ℕ :=
  let elapsed := now.val - bucket.updatedAt.val
  saturateU128 (saturateU128 (bucket.limit.bytesPerSecond.val * elapsed) + bucket.remainder)

def refill (now : ClockInstant) : Bucket :=
  if bucket.limit.isUnlimited then
    { bucket with updatedAt := now }
  else
    let added : ℕ := min (bucket.numerator now / 1_000_000_000) (2 ^ 127 - 1)
    { bucket with
      updatedAt := now
      remainder := bucket.numerator now % 1_000_000_000
      tokens := min (saturateI128 (bucket.tokens + added)) bucket.limit.burstBytes.val }

def reconfigure (limit : RateLimit) (now : ClockInstant) : Bucket :=
  let refilled := bucket.refill now
  { refilled with
    limit := limit
    remainder := 0
    tokens := if limit.isUnlimited then 0 else min refilled.tokens limit.burstBytes.val
    updatedAt := now }

def available : ℕ :=
  if bucket.limit.isUnlimited then 2 ^ 64 - 1
  else min (max bucket.tokens 0).toNat (2 ^ 64 - 1)

def reserve (bytes : ℕ) : Bucket :=
  if bucket.limit.isUnlimited then bucket
  else { bucket with tokens := saturateI128 (bucket.tokens - min bytes (2 ^ 127 - 1)) }

def refund (bytes : ℕ) : Bucket :=
  if bucket.limit.isUnlimited then bucket
  else { bucket with
    tokens := min (saturateI128 (bucket.tokens + min bytes (2 ^ 127 - 1)))
      bucket.limit.burstBytes.val }

def debt : ℕ := if 0 ≤ bucket.tokens then 0 else min (-bucket.tokens).toNat (2 ^ 64 - 1)

def delayUntilOne : ℕ :=
  if bucket.limit.isUnlimited || 1 ≤ bucket.tokens then 0
  else
    let needed := (-bucket.tokens + 1).toNat
    let rate := bucket.limit.bytesPerSecond.val
    min (saturateU128 (saturateU128 (needed * 1_000_000_000) + (rate - 1)) / rate) (2 ^ 64 - 1)

variable (now : ClockInstant)

@[simp] theorem refill_limit : (bucket.refill now).limit = bucket.limit := by
  unfold refill
  split <;> rfl

@[simp] theorem refill_updatedAt : (bucket.refill now).updatedAt = now := by
  unfold refill
  split <;> rfl

variable (bytes : ℕ)

@[simp] theorem reserve_limit : (bucket.reserve bytes).limit = bucket.limit := by
  unfold reserve
  split <;> rfl

@[simp] theorem refund_limit : (bucket.refund bytes).limit = bucket.limit := by
  unfold refund
  split <;> rfl

@[simp] theorem reserve_updatedAt : (bucket.reserve bytes).updatedAt = bucket.updatedAt := by
  unfold reserve
  split <;> rfl

@[simp] theorem refund_updatedAt : (bucket.refund bytes).updatedAt = bucket.updatedAt := by
  unfold refund
  split <;> rfl

theorem refill_of_updatedAt {now : ClockInstant} (same : bucket.updatedAt = now)
    (floor_le : -(2 ^ 127) ≤ bucket.tokens) (capped : bucket.tokens ≤ bucket.limit.burstBytes.val)
    (small : bucket.remainder < 1_000_000_000) : bucket.refill now = bucket := by
  obtain ⟨limit, tokens, remainder, updatedAt⟩ := bucket
  obtain rfl := same
  simp only [refill, numerator, saturateU128, saturateI128, Nat.sub_self, Nat.mul_zero]
  simp only at floor_le capped small
  split
  · rfl
  · congr 1 <;> omega

theorem refill_idem : (bucket.refill now).refill now = bucket.refill now := by
  by_cases limited : bucket.limit.isUnlimited = true
  · simp [refill, limited]
  · refine refill_of_updatedAt _ ?_ ?_ ?_ ?_ <;> rw [refill, if_neg limited]
    · simp only [saturateI128]
      omega
    · exact min_le_right _ _
    · exact Nat.mod_lt _ (by decide)

variable (finite : bucket.limit.isUnlimited = false)
include finite

theorem refill_of_finite : bucket.refill now =
    { bucket with
      updatedAt := now
      remainder := bucket.numerator now % 1_000_000_000
      tokens := min (saturateI128 (bucket.tokens +
          (min (bucket.numerator now / 1_000_000_000) (2 ^ 127 - 1) : ℕ)))
        bucket.limit.burstBytes.val } := by
  simp only [refill, finite]
  rfl

theorem reserve_of_finite : bucket.reserve bytes =
    { bucket with tokens := saturateI128 (bucket.tokens - min bytes (2 ^ 127 - 1)) } := by
  simp only [reserve, finite]
  rfl

theorem refund_of_finite : bucket.refund bytes =
    { bucket with
      tokens := min (saturateI128 (bucket.tokens + min bytes (2 ^ 127 - 1)))
        bucket.limit.burstBytes.val } := by
  simp only [refund, finite]
  rfl

theorem available_of_finite : bucket.available = min (max bucket.tokens 0).toNat (2 ^ 64 - 1) := by
  simp only [available, finite]
  rfl

theorem refill_remainder_lt : (bucket.refill now).remainder < 1_000_000_000 := by
  rw [bucket.refill_of_finite now finite]
  exact Nat.mod_lt _ (by decide)

theorem refill_tokens_lt : (bucket.refill now).tokens < 2 ^ 127 := by
  rw [bucket.refill_of_finite now finite]
  simp only
  omega

theorem reserve_tokens {bytes : ℕ} (positive : 0 < bytes) (held : bytes ≤ bucket.available)
    (narrow : bucket.tokens < 2 ^ 127) :
    0 ≤ (bucket.reserve bytes).tokens ∧ (bucket.reserve bytes).tokens = bucket.tokens - bytes := by
  rw [bucket.available_of_finite finite] at held
  have exact : (bucket.reserve bytes).tokens = bucket.tokens - bytes := by
    rw [bucket.reserve_of_finite _ finite]
    simp only [saturateI128]
    omega
  omega

end Bucket

/-! ## The books of one bucket -/

/-- The books of a finite bucket since it was created: what it accrued fits the time that
passed, and its tokens are covered. -/
structure Booked (bucket : Bucket) (created : ClockInstant) (net inFlight : ℤ) : Prop where
  valid : bucket.limit.validate = true
  created_le : created ≤ bucket.updatedAt
  floor_le : -(2 ^ 127) ≤ bucket.tokens
  cover : ∃ accrued : ℕ,
    accrued * 1_000_000_000 + bucket.remainder ≤
      bucket.limit.bytesPerSecond.val * (bucket.updatedAt.val - created.val) ∧
    TokenCover bucket.limit.burstBytes.val (2 ^ 127) bucket.tokens accrued net inFlight

namespace Booked

variable {bucket : Bucket} {created : ClockInstant} {net inFlight : ℤ}

theorem new {limit : RateLimit} (valid : limit.validate = true) (now : ClockInstant) :
    Booked (Bucket.new limit now) now 0 0 := by
  refine ⟨valid, le_rfl, ?_, 0, ?_, ?_⟩
  · simp only [Bucket.new]
    omega
  · simp [Bucket.new]
  · exact TokenCover.full (by simp [Bucket.new])

variable (booked : Booked bucket created net inFlight)
include booked

theorem tokens_le : bucket.tokens ≤ bucket.limit.burstBytes.val := by
  obtain ⟨accrued, -, covered⟩ := booked.cover
  exact covered.tokens_le

theorem refill (finite : bucket.limit.isUnlimited = false) {now : ClockInstant}
    (later : bucket.updatedAt ≤ now) : Booked (bucket.refill now) created net inFlight := by
  obtain ⟨valid, created_le, floor_le, accrued, fits, cover⟩ := booked
  have numerator_le : bucket.numerator now ≤
      bucket.limit.bytesPerSecond.val * (now.val - bucket.updatedAt.val) + bucket.remainder := by
    simp only [Bucket.numerator, saturateU128]
    omega
  have whole := Nat.div_add_mod (bucket.numerator now) (1_000_000_000)
  have elapsed : bucket.limit.bytesPerSecond.val * (now.val - created.val) =
      bucket.limit.bytesPerSecond.val * (now.val - bucket.updatedAt.val) +
        bucket.limit.bytesPerSecond.val * (bucket.updatedAt.val - created.val) := by
    rw [← Nat.mul_add]
    congr 1
    have first := Fin.le_def.mp created_le
    have second := Fin.le_def.mp later
    omega
  have added_le := Nat.min_le_left (bucket.numerator now / 1_000_000_000) (2 ^ 127 - 1)
  rw [bucket.refill_of_finite now finite]
  generalize min (bucket.numerator now / 1_000_000_000) (2 ^ 127 - 1) = added at added_le ⊢
  refine ⟨valid, created_le.trans later, ?_, accrued + added, ?_, ?_⟩
  · simp only [saturateI128]
    omega
  · linarith
  · rw [Nat.cast_add]
    refine cover.accrue (by omega) ?_ (min_le_right _ _)
    simp only [saturateI128]
    omega

/-- What has accrued fits the time that passed, and the clock cannot run long enough to accrue
as much as the floor is deep. -/
theorem shallow {accrued : ℕ}
    (fits : accrued * 1_000_000_000 + bucket.remainder ≤ bucket.limit.bytesPerSecond.val *
      (bucket.updatedAt.val - created.val)) :
    accrued ≤ bucket.limit.bytesPerSecond.val * (bucket.updatedAt.val - created.val) /
        1_000_000_000 ∧
      (bucket.limit.burstBytes.val : ℤ) + accrued < 2 ^ 127 := by
  have small := RateLimit.burstBytes_le booked.valid
  have burst : maxRateBurstBytes < 2 ^ 23 := by decide
  have backed : accrued ≤ bucket.limit.bytesPerSecond.val *
      (bucket.updatedAt.val - created.val) / 1_000_000_000 := by
    rw [Nat.le_div_iff_mul_le (by omega)]
    exact Nat.le_of_add_right_le fits
  refine ⟨backed, ?_⟩
  have product : bucket.limit.bytesPerSecond.val * (bucket.updatedAt.val - created.val) ≤
      (2 ^ 64 - 1) * (9_223_372_036_854_775_808_000_000_000 - 1) :=
    Nat.mul_le_mul (by omega) (by omega)
  have bound : accrued ≤
      (2 ^ 64 - 1) * (9_223_372_036_854_775_808_000_000_000 - 1) / 1_000_000_000 :=
    backed.trans (Nat.div_le_div_right product)
  have value : (2 ^ 64 - 1) * (9_223_372_036_854_775_808_000_000_000 - 1) / 1_000_000_000 +
      2 ^ 23 < 2 ^ 127 := by decide
  omega

/-- While a bucket is not in debt, all that was taken from it is backed by its burst and by the
time that passed. -/
theorem within (held : 0 ≤ bucket.tokens) (inFlight_nonneg : 0 ≤ inFlight) :
    net ≤ bucket.limit.burstBytes.val + (bucket.limit.bytesPerSecond.val *
      (bucket.updatedAt.val - created.val) / 1_000_000_000 : ℕ) := by
  obtain ⟨accrued, fits, cover⟩ := booked.cover
  obtain ⟨backed, shallow⟩ := booked.shallow fits
  have solvent := cover.solvent held shallow inFlight_nonneg
  omega

section

variable (finite : bucket.limit.isUnlimited = false)
include finite

theorem reserve {bytes : ℕ} (positive : 0 < bytes) (held : bytes ≤ bucket.available)
    (inFlight_nonneg : 0 ≤ inFlight) :
    Booked (bucket.reserve bytes) created (net + bytes) (inFlight + bytes) := by
  obtain ⟨enough, exact⟩ := bucket.reserve_tokens finite positive held
    (booked.tokens_le.trans_lt (by have := bucket.limit.burstBytes.isLt; omega))
  obtain ⟨accrued, fits, cover⟩ := booked.cover
  obtain ⟨-, shallow⟩ := booked.shallow fits
  refine ⟨by simpa using booked.valid, by simpa using booked.created_le, ?_, accrued, ?_, ?_⟩
  · omega
  · rw [Bucket.reserve]
    split <;> exact fits
  · rw [exact, Bucket.reserve_limit]
    exact cover.grant (by omega) (by omega) shallow inFlight_nonneg

theorem refund {bytes reserved : ℕ} (unused : bytes ≤ reserved) :
    Booked (bucket.refund bytes) created (net - bytes) (inFlight - reserved) := by
  obtain ⟨valid, created_le, floor_le, accrued, fits, cover⟩ := booked
  rw [bucket.refund_of_finite _ finite]
  refine ⟨valid, created_le, ?_, accrued, fits, ?_⟩
  · simp only [saturateI128]
    omega
  · refine cover.giveBack (by omega) ?_ (min_le_right _ _) (by omega)
    simp only [saturateI128]
    omega

theorem chargeExtra {bytes : ℕ} (reserved : ℕ) (word : bytes < 2 ^ 64) :
    Booked (bucket.reserve bytes) created (net + bytes) (inFlight - reserved) := by
  obtain ⟨valid, created_le, floor_le, accrued, fits, cover⟩ := booked
  have capped := cover.tokens_le
  have charged := cover.overcharge (Int.natCast_nonneg reserved) (Int.natCast_nonneg bytes) floor_le
  have exact : (bucket.reserve bytes).tokens = max (-(2 ^ 127)) (bucket.tokens - bytes) := by
    rw [bucket.reserve_of_finite _ finite]
    simp only [saturateI128]
    omega
  refine ⟨?_, ?_, ?_, accrued, ?_, ?_⟩
  · simpa using valid
  · simpa using created_le
  · rw [exact]
    exact le_max_left _ _
  · rw [bucket.reserve_of_finite _ finite]
    exact fits
  · rw [exact, Bucket.reserve_limit]
    exact charged

end

theorem lose {fewer : ℤ} (less : fewer ≤ inFlight) : Booked bucket created net fewer := by
  obtain ⟨valid, created_le, floor_le, accrued, fits, cover⟩ := booked
  exact ⟨valid, created_le, floor_le, accrued, fits, cover.lose less⟩

end Booked

/-! ## Refilling in steps -/

namespace Bucket

variable {bucket : Bucket}

/-- What has accrued since the last refill, in billionths of a token, before it is cut to the
width of a counter. -/
def accrual (bucket : Bucket) (now : ClockInstant) : ℕ :=
  bucket.limit.bytesPerSecond.val * (now.val - bucket.updatedAt.val) + bucket.remainder

/-- A refill that neither the burst nor the width of the counters cuts. -/
structure Uncut (bucket : Bucket) (now : ClockInstant) : Prop where
  finite : bucket.limit.isUnlimited = false
  floor_le : -(2 ^ 127) ≤ bucket.tokens
  narrow : bucket.accrual now < 2 ^ 128
  uncapped : bucket.tokens + (bucket.accrual now / 1_000_000_000 : ℕ) ≤
    bucket.limit.burstBytes.val

theorem Uncut.refill_eq {now : ClockInstant} (uncut : bucket.Uncut now) : bucket.refill now =
      { bucket with
        updatedAt := now
        remainder := bucket.accrual now % 1_000_000_000
        tokens := bucket.tokens + (bucket.accrual now / 1_000_000_000 : ℕ) } := by
  obtain ⟨finite, floor_le, narrow, uncapped⟩ := uncut
  have numerator : bucket.numerator now = bucket.accrual now := by
    simp only [Bucket.numerator, saturateU128, accrual] at narrow ⊢
    omega
  rw [bucket.refill_of_finite now finite, numerator]
  generalize bucket.accrual now = total at narrow uncapped ⊢
  have small : min (total / 1_000_000_000) (2 ^ 127 - 1) = total / 1_000_000_000 := by omega
  have exact : min (saturateI128 (bucket.tokens + (total / 1_000_000_000 : ℕ)))
      bucket.limit.burstBytes.val = bucket.tokens + (total / 1_000_000_000 : ℕ) := by
    simp only [saturateI128]
    omega
  simp only [small, exact]

variable {first second : ClockInstant}

theorem accrual_refill (uncut : bucket.Uncut first) (second : ClockInstant) :
    (bucket.refill first).accrual second =
      bucket.limit.bytesPerSecond.val * (second.val - first.val) +
        bucket.accrual first % 1_000_000_000 := by
  rw [uncut.refill_eq]
  rfl

section

variable (before : bucket.updatedAt ≤ first) (later : first ≤ second)
include before later

theorem accrual_eq_add : bucket.accrual second =
      bucket.limit.bytesPerSecond.val * (second.val - first.val) + bucket.accrual first := by
  have before := Fin.le_def.mp before
  have later := Fin.le_def.mp later
  rw [accrual, accrual, ← Nat.add_assoc, ← Nat.mul_add]
  congr 2
  omega

variable (uncut : bucket.Uncut second)
include uncut

theorem Uncut.earlier : bucket.Uncut first := by
  obtain ⟨finite, floor_le, narrow, uncapped⟩ := uncut
  rw [accrual_eq_add before later] at narrow uncapped
  exact ⟨finite, floor_le, by omega, by omega⟩

theorem Uncut.refill : (bucket.refill first).Uncut second := by
  have early := uncut.earlier before later
  have left := accrual_refill early second
  obtain ⟨finite, floor_le, narrow, uncapped⟩ := uncut
  rw [accrual_eq_add before later] at narrow uncapped
  have tokens : (bucket.refill first).tokens =
      bucket.tokens + (bucket.accrual first / 1_000_000_000 : ℕ) := by rw [early.refill_eq]
  refine ⟨by simpa using finite, ?_, ?_, ?_⟩
  · omega
  · omega
  · rw [left, tokens, refill_limit]
    omega

/-- Refilling at one instant and then at a later one is refilling once at the later one. -/
theorem refill_refill : (bucket.refill first).refill second = bucket.refill second := by
  have early := uncut.earlier before later
  have left := accrual_refill early second
  rw [(uncut.refill before later).refill_eq, uncut.refill_eq, left,
    accrual_eq_add before later, early.refill_eq]
  generalize bucket.limit.bytesPerSecond.val * (second.val - first.val) = more
  generalize bucket.accrual first = done
  have tokens : bucket.tokens + (done / 1_000_000_000 : ℕ) +
      ((more + done % 1_000_000_000) / 1_000_000_000 : ℕ) =
        bucket.tokens + ((more + done) / 1_000_000_000 : ℕ) := by omega
  have remainder : (more + done % 1_000_000_000) % 1_000_000_000 =
      (more + done) % 1_000_000_000 := by omega
  simp only [tokens, remainder]

end

theorem foldl_refill {instants : List ClockInstant} {last : ClockInstant}
    (ordered : (bucket.updatedAt :: instants).IsChain (· ≤ ·))
    (within : ∀ instant ∈ bucket.updatedAt :: instants, instant ≤ last)
    (uncut : bucket.Uncut last) :
    (instants.foldl refill bucket).refill last = bucket.refill last := by
  induction instants generalizing bucket with
  | nil => rfl
  | cons first _ ih =>
    rw [List.isChain_cons_cons] at ordered
    have later : first ≤ last := within first (by simp)
    rw [List.foldl_cons, ih, refill_refill ordered.1 later uncut]
    · rw [refill_updatedAt]
      exact ordered.2
    · intro instant member
      rw [refill_updatedAt] at member
      exact within instant (List.mem_cons_of_mem _ member)
    · exact uncut.refill ordered.1 later

end Bucket

end Ariax
