import Ariax.Core.Identity
import Ariax.Http.NumericHost
import Ariax.Lib.Machine
import Ariax.Lib.OrderedMap

/-!
# The retry budget of a range

The attempts of a range are counted in total and for each mirror. After a
failure the budget decides whether there is another attempt and how long it
waits: for what the `Retry-After` header asks if the policy respects it, and
for a back-off otherwise. In every run the counts stay within their caps, a
retry fits them, and the back-off has a closed form.
-/

namespace Ariax

theorem min_pred_lt {n : ℕ} [NeZero n] (value : ℕ) : min value (n - 1) < n := by
  have := NeZero.pos n
  omega

/-- The value of a fixed-width type that saturating arithmetic gives. -/
def saturate {n : ℕ} [NeZero n] (value : ℕ) : Fin n := ⟨min value (n - 1), min_pred_lt value⟩

/-- A span of time in nanoseconds, as far as `std::time::Duration` goes. -/
abbrev Duration := Fin (2 ^ 64 * 1000000000)

instance durationNeZero : NeZero (2 ^ 64 * 1000000000) := ⟨by decide⟩

namespace Duration

def fromSecs (secs : U64) : Duration := saturate (secs.val * 1000000000)

def fromMillis (millis : U64) : Duration := saturate (millis.val * 1000000)

def asMillis (duration : Duration) : ℕ := duration.val / 1000000

theorem fromMillis_val (millis : U64) : (fromMillis millis).val = millis.val * 1000000 := by
  simp only [fromMillis, saturate]
  omega

theorem min_val (a b : Duration) : (min a b).val = min a.val b.val := by
  rcases le_total a b with le | le <;> simp [le, Fin.le_def.mp le]

end Duration

/-! ## Policies -/

inductive HttpRetryProfile
  | aria2
  | conservative
  | aggressive
  | custom
  deriving DecidableEq

inductive HttpRetryBackoff
  | fixed
  | exponential
  | exponentialJitter
  deriving DecidableEq

inductive HttpRetryTrigger
  | reset
  | eof
  | timeout
  | hang
  | lowestSpeed
  | staleConnection
  | dnsTransient
  | proxyConnect
  deriving DecidableEq

structure HttpRetryStatusSet where
  codes : Finset U16
  ranged : ∀ code ∈ codes, 100 ≤ code.val ∧ code.val ≤ 599
  bounded : codes.card ≤ 128

inductive ProtocolFailure
  | unsafeDestination
  | connect
  | control
  | data
  | sizeUnsupported
  | resumeUnsupported
  | authFailure
  | malformed
  | tls
  | hostKeyMismatch
  | hostKeyApprovalRequired
  | resourceLimit
  | cancelled
  | timeout
  | staleValidator
  deriving DecidableEq

def ProtocolFailure.retryable : ProtocolFailure → Bool
  | .connect | .control | .data | .timeout => true
  | _ => false

inductive HttpRetryTransportFailure
  | reset
  | unexpectedEof
  | timeout
  | hang
  | lowestSpeed
  | staleConnection
  | dnsTransient
  | proxyConnect
  deriving DecidableEq

def HttpRetryTransportFailure.trigger : HttpRetryTransportFailure → HttpRetryTrigger
  | .reset => .reset
  | .unexpectedEof => .eof
  | .timeout => .timeout
  | .hang => .hang
  | .lowestSpeed => .lowestSpeed
  | .staleConnection => .staleConnection
  | .dnsTransient => .dnsTransient
  | .proxyConnect => .proxyConnect

inductive HttpRetryCause
  | protocol (failure : ProtocolFailure)
  | transport (failure : HttpRetryTransportFailure)
  | httpStatus (status : U16)
  | authentication
  | invalidRange
  | staleValidator
  | checksum
  | storage
  | cancelled
  | policy
  deriving DecidableEq

inductive HttpRetryError
  | invalidPolicy
  | invalidRecoveredState
  | attemptCap
  | failureWithoutAttempt
  deriving DecidableEq

structure HttpRetryPolicy where
  maxAttempts : U32
  maxAttemptsPerMirror : U32
  maxElapsed : Duration
  baseWait : Duration
  maxWait : Duration
  retryAfterMin : Duration
  retryAfterMax : Duration
  respectRetryAfter : Bool
  profile : HttpRetryProfile
  backoff : HttpRetryBackoff
  retryOn : Finset HttpRetryTrigger
  retryableStatuses : HttpRetryStatusSet

namespace HttpRetryPolicy

variable (policy : HttpRetryPolicy)

def validate : Except HttpRetryError Unit :=
  rejectIf (policy.maxAttempts < policy.maxAttemptsPerMirror ∨ policy.maxElapsed = 0 ∨
    policy.maxWait = 0 ∨ policy.maxWait < policy.retryAfterMax ∨
    policy.retryAfterMax < policy.retryAfterMin ∨
    (policy.profile = .custom ∧
      (policy.retryOn = ∅ ∨ policy.retryableStatuses.codes = ∅))) .invalidPolicy

def isRetriable : HttpRetryCause → Bool
  | .protocol failure =>
    failure.retryable && decide ((if failure = .timeout then .timeout else .reset) ∈ policy.retryOn)
  | .transport failure => decide (failure.trigger ∈ policy.retryOn)
  | .httpStatus status =>
    decide (status ∈ policy.retryableStatuses.codes) ||
      decide (policy.profile = .aria2 ∧ policy.baseWait ≠ 0 ∧ (status = 502 ∨ status = 503))
  | .authentication | .invalidRange | .staleValidator | .checksum | .storage | .cancelled
  | .policy => false

def effectiveBaseWait : Duration :=
  if policy.baseWait = 0 ∧ policy.profile ≠ .aria2 then .fromSecs 1 else policy.baseWait

end HttpRetryPolicy

/-! ## Budgets -/

inductive HttpRetryDelaySource
  | fixedBackoff
  | exponentialBackoff
  | equalJitterBackoff
  | retryAfter
  | retryAfterClamped
  | retryAfterIgnored
  | backoffAfterInvalidRetryAfter
  deriving DecidableEq

inductive HttpRetryStopReason
  | nonRetriable
  | totalAttemptCap
  | mirrorAttemptCap
  | elapsedCap
  deriving DecidableEq

inductive HttpRetryDecision
  | retry (delay : Duration) (source : HttpRetryDelaySource)
  | stop (reason : HttpRetryStopReason)
  deriving DecidableEq

/-- `char::is_whitespace`. -/
def whiteSpace (c : Char) : Bool :=
  let code := c.toNat
  decide (9 ≤ code ∧ code ≤ 13 ∨ 0x2000 ≤ code ∧ code ≤ 0x200A) ||
    [0x20, 0x85, 0xA0, 0x1680, 0x2028, 0x2029, 0x202F, 0x205F, 0x3000].contains code

/-- What `httpdate::parse_http_date` gives is a parameter. Instants are nanoseconds since the
epoch. -/
def parseRetryAfter (parseHttpDate : List Char → Option ℤ) (input : List Char) (now : ℤ) :
    Option Duration :=
  if input = [] ∨ 128 < (input.map Char.utf8Size).sum ∨ input.head?.any whiteSpace ∨
      input.getLast?.any whiteSpace then none
  else if input.all Char.isDigit then
    if h : digitsValue 10 input < 2 ^ 64 then some (.fromSecs ⟨digitsValue 10 input, h⟩) else none
  else (parseHttpDate input).map fun deadline => saturate (deadline - now).toNat

def equalJitter (cap : Duration) (entropy : U64) : Duration :=
  let capMs : U64 := saturate cap.asMillis
  if capMs = 0 then 0
  else
    let lower := capMs.val / 2
    let width : U64 := saturate (capMs.val - lower + 1)
    .fromMillis (saturate (lower + entropy.val % width.val))

structure HttpRetryBudget where
  policy : HttpRetryPolicy
  attempts : U32
  attemptsByMirror : OrderedMap UriId U32

namespace HttpRetryBudget

def new (policy : HttpRetryPolicy) : Except HttpRetryError HttpRetryBudget :=
  policy.validate.map fun _ => ⟨policy, 0, ∅⟩

variable (self : HttpRetryBudget)

def attemptsForMirror (mirror : UriId) : U32 := self.attemptsByMirror[mirror]?.getD 0

def beginAttempt (mirror : UriId) : Except HttpRetryError (U32 × HttpRetryBudget) :=
  if self.policy.maxAttempts ≤ self.attempts ∨
      self.policy.maxAttemptsPerMirror ≤ self.attemptsForMirror mirror then .error .attemptCap
  else .ok (self.attempts + 1, { self with
    attempts := self.attempts + 1
    attemptsByMirror := self.attemptsByMirror.insert mirror (self.attemptsForMirror mirror + 1) })

def checkedAdd (a b : U32) : Option U32 :=
  if h : a.val + b.val < 2 ^ 32 then some ⟨a.val + b.val, h⟩ else none

def restoreAttempts (attempts : U32) (attemptsByMirror : OrderedMap UriId U32) :
    Except HttpRetryError HttpRetryBudget :=
  if self.attempts ≠ 0 ∨ self.attemptsByMirror.isEmpty = false ∨ attempts = 0 ∨
      self.policy.maxAttempts < attempts ∨
      (∃ count ∈ attemptsByMirror.valuesInOrder,
        count = 0 ∨ self.policy.maxAttemptsPerMirror < count) ∨
      attemptsByMirror.valuesInOrder.foldlM checkedAdd 0 ≠ some attempts then
    .error .invalidRecoveredState
  else .ok { self with attempts, attemptsByMirror }

def backoffCap : Duration :=
  let base := self.policy.effectiveBaseWait
  if self.policy.backoff = .fixed then min base self.policy.maxWait
  else
    let retryOrdinal := max self.attempts.val 1
    let shift := min (retryOrdinal - 1) 63
    min (saturate (base.val * if shift < 32 then 2 ^ shift else 2 ^ 32 - 1)) self.policy.maxWait

def backoffSource : HttpRetryDelaySource :=
  match self.policy.backoff with
  | .fixed => .fixedBackoff
  | .exponential => .exponentialBackoff
  | .exponentialJitter => .equalJitterBackoff

def backoffDelay (cap : Duration) (entropy : U64) : Duration :=
  match self.policy.backoff with
  | .fixed | .exponential => cap
  | .exponentialJitter => equalJitter cap entropy

def retryAfterDelay (cap : Duration) (clamped : Bool) (entropy : U64) : Duration :=
  if self.policy.backoff = .fixed ∧ clamped = false then cap else equalJitter cap entropy

variable (parseHttpDate : List Char → Option ℤ)

/-- The delay of a retry and where it is from. -/
def delayAfterFailure (retryAfter : Option (List Char)) (now : ℤ) (entropy : U64) :
    Duration × HttpRetryDelaySource :=
  let backoff := self.backoffDelay self.backoffCap entropy
  match retryAfter with
  | some value =>
    if self.policy.respectRetryAfter then
      match parseRetryAfter parseHttpDate value now with
      | some parsed =>
        let capped := min (min (max parsed self.policy.retryAfterMin) self.policy.retryAfterMax)
          self.policy.maxWait
        let clamped := decide (capped ≠ parsed)
        (self.retryAfterDelay capped clamped entropy,
          if clamped then .retryAfterClamped else .retryAfter)
      | none => (backoff, .backoffAfterInvalidRetryAfter)
    else (backoff, .retryAfterIgnored)
  | none => (backoff, self.backoffSource)

def decideAfterFailure (mirror : UriId) (cause : HttpRetryCause) (activeElapsed : Duration)
    (retryAfter : Option (List Char)) (now : ℤ) (entropy : U64) :
    Except HttpRetryError HttpRetryDecision :=
  let mirrorAttempts := self.attemptsForMirror mirror
  if mirrorAttempts = 0 ∨ self.attempts = 0 then .error .failureWithoutAttempt
  else if self.policy.isRetriable cause = false then .ok (.stop .nonRetriable)
  else if self.policy.maxAttempts ≤ self.attempts then .ok (.stop .totalAttemptCap)
  else if self.policy.maxAttemptsPerMirror ≤ mirrorAttempts then .ok (.stop .mirrorAttemptCap)
  else if self.policy.maxElapsed ≤ activeElapsed then .ok (.stop .elapsedCap)
  else
    let (delay, source) := self.delayAfterFailure parseHttpDate retryAfter now entropy
    if self.policy.maxElapsed < saturate (activeElapsed.val + delay.val) then
      .ok (.stop .elapsedCap)
    else .ok (.retry delay source)

end HttpRetryBudget

inductive HttpRetryRequest
  | beginAttempt (mirror : UriId)
  | restoreAttempts (attempts : U32) (attemptsByMirror : OrderedMap UriId U32)
  | decideAfterFailure (mirror : UriId) (cause : HttpRetryCause) (activeElapsed : Duration)
      (retryAfter : Option (List Char)) (now : ℤ) (entropy : U64)

inductive HttpRetryReply
  | began (attempt : U32)
  | restored
  | decided (decision : HttpRetryDecision)

def httpRetryMachine (parseHttpDate : List Char → Option ℤ) :
    Machine HttpRetryBudget HttpRetryRequest (Except HttpRetryError HttpRetryReply) where
  initial := {budget | ∃ policy, HttpRetryBudget.new policy = .ok budget}
  next
    | self, .beginAttempt mirror =>
      match self.beginAttempt mirror with
      | .ok (attempt, after) => (.ok (.began attempt), after)
      | .error error => (.error error, self)
    | self, .restoreAttempts attempts attemptsByMirror =>
      match self.restoreAttempts attempts attemptsByMirror with
      | .ok after => (.ok .restored, after)
      | .error error => (.error error, self)
    | self, .decideAfterFailure mirror cause activeElapsed retryAfter now entropy =>
      (.decided <$> self.decideAfterFailure parseHttpDate mirror cause activeElapsed retryAfter now
        entropy, self)

/-! ## Jitter and back-off -/

/-- The milliseconds that equal jitter works with. -/
def Duration.capMs (cap : Duration) : ℕ := min cap.asMillis (2 ^ 64 - 1)

/-- A draw of equal jitter: the lower half and a share of the rest. -/
def jitter (capMs entropy : ℕ) : ℕ := capMs / 2 + entropy % (capMs - capMs / 2 + 1)

theorem jitter_bounds (capMs entropy : ℕ) :
    capMs / 2 ≤ jitter capMs entropy ∧ jitter capMs entropy ≤ capMs := by
  have share := Nat.mod_lt entropy (show 0 < capMs - capMs / 2 + 1 from Nat.succ_pos _)
  unfold jitter
  omega

theorem equalJitter_val (cap : Duration) (entropy : U64) :
    (equalJitter cap entropy).val = jitter cap.capMs entropy.val * 1000000 := by
  have bounds := jitter_bounds cap.capMs entropy.val
  have fits : cap.capMs < 2 ^ 64 := by
    unfold Duration.capMs
    omega
  simp only [equalJitter]
  split
  next zero =>
    have none : cap.capMs = 0 := congrArg Fin.val zero
    simp [none, jitter, Nat.mod_one]
  next =>
    have width : min (cap.capMs - cap.capMs / 2 + 1) (2 ^ 64 - 1) =
        cap.capMs - cap.capMs / 2 + 1 := by omega
    rw [Duration.fromMillis_val]
    change min (cap.capMs / 2 + entropy.val % min (cap.capMs - cap.capMs / 2 + 1) (2 ^ 64 - 1))
      (2 ^ 64 - 1) * 1000000 = _
    rw [width, ← jitter, min_eq_left (by omega)]

theorem equalJitter_le (cap : Duration) (entropy : U64) : equalJitter cap entropy ≤ cap := by
  rw [Fin.le_def, equalJitter_val]
  have drawn := (jitter_bounds cap.capMs entropy.val).2
  have capMs : cap.capMs ≤ cap.val / 1000000 := min_le_left _ _
  omega

namespace HttpRetryPolicy

variable (policy : HttpRetryPolicy)

/-- The wait that the back-off goes up to after a number of attempts. -/
def cap (attempts : ℕ) : ℕ :=
  match policy.backoff with
  | .fixed => min policy.effectiveBaseWait.val policy.maxWait.val
  | .exponential | .exponentialJitter =>
    min (policy.effectiveBaseWait.val * min (2 ^ (attempts - 1)) (2 ^ 32 - 1)) policy.maxWait.val

/-- A delay of the back-off: the cap, or between its half and it in whole milliseconds. -/
def BacksOff (attempts : ℕ) (delay : Duration) : Prop :=
  match policy.backoff with
  | .fixed | .exponential => delay.val = policy.cap attempts
  | .exponentialJitter =>
    let capMs := min (policy.cap attempts / 1000000) (2 ^ 64 - 1)
    capMs / 2 * 1000000 ≤ delay.val ∧ delay.val ≤ capMs * 1000000

def WholeMillis : Prop :=
  policy.maxElapsed.val % 1000000 = 0 ∧ policy.baseWait.val % 1000000 = 0 ∧
    policy.maxWait.val % 1000000 = 0 ∧ policy.retryAfterMin.val % 1000000 = 0 ∧
    policy.retryAfterMax.val % 1000000 = 0

end HttpRetryPolicy

theorem shift_eq {attempts : ℕ} (positive : attempts ≠ 0) :
    (if min (max attempts 1 - 1) 63 < 32 then 2 ^ min (max attempts 1 - 1) 63 else 2 ^ 32 - 1) =
      min (2 ^ (attempts - 1)) (2 ^ 32 - 1) := by
  rw [max_eq_left (by omega)]
  split
  next small =>
    have shift : min (attempts - 1) 63 = attempts - 1 := by omega
    have fits : 2 ^ (attempts - 1) ≤ 2 ^ 31 := Nat.pow_le_pow_right (by decide) (by omega)
    rw [shift, min_eq_left (by omega)]
  next large =>
    have large : 2 ^ 32 ≤ 2 ^ (attempts - 1) := Nat.pow_le_pow_right (by decide) (by omega)
    rw [min_eq_right (by omega)]

namespace HttpRetryBudget

variable {self : HttpRetryBudget} {parseHttpDate : List Char → Option ℤ} {mirror : UriId}
  {cause : HttpRetryCause} {activeElapsed delay : Duration} {retryAfter : Option (List Char)}
  {now : ℤ} {entropy : U64} {source : HttpRetryDelaySource}

theorem backoffCap_le : self.backoffCap ≤ self.policy.maxWait := by
  unfold backoffCap
  split <;> exact min_le_right _ _

theorem backoffCap_val (positive : self.attempts ≠ 0) :
    self.backoffCap.val = self.policy.cap self.attempts.val := by
  have positive : self.attempts.val ≠ 0 := fun zero => positive (Fin.ext zero)
  unfold backoffCap HttpRetryPolicy.cap
  cases self.policy.backoff with
  | fixed => exact Duration.min_val _ _
  | exponential | exponentialJitter =>
    rw [if_neg (by rintro ⟨⟩), Duration.min_val, shift_eq positive]
    simp only [saturate]
    omega

theorem backsOff (positive : self.attempts ≠ 0) :
    self.policy.BacksOff self.attempts.val (self.backoffDelay self.backoffCap entropy) := by
  unfold HttpRetryPolicy.BacksOff backoffDelay
  cases self.policy.backoff with
  | fixed | exponential => exact backoffCap_val positive
  | exponentialJitter =>
    have bounds := jitter_bounds self.backoffCap.capMs entropy.val
    simp only [equalJitter_val, ← backoffCap_val positive]
    exact ⟨Nat.mul_le_mul_right _ bounds.1, Nat.mul_le_mul_right _ bounds.2⟩

theorem backoffDelay_le : self.backoffDelay self.backoffCap entropy ≤ self.policy.maxWait := by
  unfold backoffDelay
  split
  next => exact backoffCap_le
  next => exact backoffCap_le
  next => exact (equalJitter_le _ _).trans backoffCap_le

theorem retryAfterDelay_le {cap : Duration} {clamped : Bool} :
    self.retryAfterDelay cap clamped entropy ≤ cap := by
  unfold retryAfterDelay
  split
  next => exact le_rfl
  next => exact equalJitter_le _ _

theorem delayAfterFailure_le :
    (self.delayAfterFailure parseHttpDate retryAfter now entropy).1 ≤ self.policy.maxWait := by
  unfold delayAfterFailure
  split
  next =>
    split
    next =>
      split
      next => exact retryAfterDelay_le.trans (min_le_right _ _)
      next => exact backoffDelay_le
    next => exact backoffDelay_le
  next => exact backoffDelay_le

/-! ## Decisions -/

theorem ite_stop_eq_retry {p : Prop} [Decidable p] {reason : HttpRetryStopReason}
    {rest : Except HttpRetryError HttpRetryDecision} :
    (if p then .ok (.stop reason) else rest) = .ok (.retry delay source) ↔
      ¬p ∧ rest = .ok (.retry delay source) := by
  split <;> simp [*]

/-- A retry is decided on after all checks have passed. -/
theorem decideAfterFailure_eq_retry
    (h : self.decideAfterFailure parseHttpDate mirror cause activeElapsed retryAfter now entropy =
      .ok (.retry delay source)) :
    self.attempts ≠ 0 ∧ self.policy.isRetriable cause = true ∧
      self.attempts < self.policy.maxAttempts ∧
      self.attemptsForMirror mirror < self.policy.maxAttemptsPerMirror ∧
      self.delayAfterFailure parseHttpDate retryAfter now entropy = (delay, source) ∧
      saturate (activeElapsed.val + delay.val) ≤ self.policy.maxElapsed := by
  simp only [decideAfterFailure, Except.ite_error_eq_ok, ite_stop_eq_retry] at h
  obtain ⟨attempted, retriable, total, mirrored, -, elapsed, h⟩ := h
  cases h
  exact ⟨fun zero => attempted (.inr zero), by simpa using retriable, not_le.mp total,
    not_le.mp mirrored, rfl, not_lt.mp elapsed⟩

/-- A retry that fits the budget: of a retriable cause, to a mirror that an attempt can be begun
on, within the longest wait and the time that is left. -/
structure Grants (budget : HttpRetryBudget) (mirror : UriId) (cause : HttpRetryCause)
    (activeElapsed delay : Duration) : Prop where
  retriable : budget.policy.isRetriable cause = true
  begins : ∃ attempt after, budget.beginAttempt mirror = .ok (attempt, after)
  waits : delay ≤ budget.policy.maxWait
  elapses : activeElapsed.val + delay.val ≤ budget.policy.maxElapsed.val

theorem grants_of_retry (whole : self.policy.WholeMillis)
    (h : self.decideAfterFailure parseHttpDate mirror cause activeElapsed retryAfter now entropy =
      .ok (.retry delay source)) :
    self.Grants mirror cause activeElapsed delay ∧
      (retryAfter = none → self.policy.BacksOff self.attempts.val delay) := by
  obtain ⟨attempted, retriable, total, mirrored, chosen, elapsed⟩ := decideAfterFailure_eq_retry h
  have delayed : (self.delayAfterFailure parseHttpDate retryAfter now entropy).1 = delay :=
    congrArg Prod.fst chosen
  refine ⟨⟨retriable, ⟨_, _, if_neg ?_⟩, delayed ▸ delayAfterFailure_le, ?_⟩, ?_⟩
  · exact not_or.mpr ⟨not_le.mpr total, not_le.mpr mirrored⟩
  · -- The longest duration is not a whole number of milliseconds, so the sum did not saturate.
    have whole := whole.1
    have elapsed : min (activeElapsed.val + delay.val) (2 ^ 64 * 1000000000 - 1) ≤
        self.policy.maxElapsed.val := elapsed
    omega
  · rintro rfl
    rw [← delayed]
    exact backsOff attempted

/-! ## Counts -/

/-- The counts of a budget are within its caps, and the total is that of the mirrors. -/
structure Within (budget : HttpRetryBudget) : Prop where
  total : budget.attempts ≤ budget.policy.maxAttempts
  mirrors : ∀ mirror, budget.attemptsForMirror mirror ≤ budget.policy.maxAttemptsPerMirror
  sum : budget.attempts.val = budget.attemptsByMirror.sumOf Fin.val

theorem Within.new {policy : HttpRetryPolicy} (new : HttpRetryBudget.new policy = .ok self) :
    self.policy = policy ∧ self.Within := by
  obtain ⟨-, -, rfl⟩ := Except.map_eq_ok.mp new
  exact ⟨rfl, Fin.zero_le _, fun _ => by simp [attemptsForMirror], by simp⟩

theorem succ_val {count cap : U32} (less : count < cap) :
    (count + 1).val = count.val + 1 ∧ count + 1 ≤ cap := by
  have less := Fin.lt_def.mp less
  have value : (count + 1).val = count.val + 1 := Fin.val_add_one_of_lt' (by omega)
  exact ⟨value, Fin.le_def.mpr (by omega)⟩

variable {after : HttpRetryBudget}

theorem Within.beginAttempt {attempt : U32} (within : self.Within)
    (h : self.beginAttempt mirror = .ok (attempt, after)) :
    after.policy = self.policy ∧ after.Within := by
  unfold HttpRetryBudget.beginAttempt at h
  split at h
  next => cases h
  next room =>
    cases h
    obtain ⟨total, mirrored⟩ := not_or.mp room
    obtain ⟨counted, total⟩ := succ_val (not_le.mp total)
    obtain ⟨own, mirrored⟩ := succ_val (not_le.mp mirrored)
    refine ⟨rfl, total, fun other => ?_, ?_⟩
    · simp only [attemptsForMirror, OrderedMap.getElem?_insert]
      split
      next => exact mirrored
      next => exact within.mirrors other
    · have inserted := OrderedMap.sumOf_insert Fin.val self.attemptsByMirror mirror
        (self.attemptsForMirror mirror + 1)
      have before : (self.attemptsByMirror[mirror]?).elim 0 Fin.val =
          (self.attemptsForMirror mirror).val := by
        unfold attemptsForMirror
        cases self.attemptsByMirror[mirror]? <;> rfl
      have sum := within.sum
      simp only [counted]
      omega

theorem foldlM_checkedAdd {counts : List U32} {start total : U32}
    (h : counts.foldlM checkedAdd start = some total) :
    total.val = start.val + (counts.map Fin.val).sum := by
  induction counts generalizing start with
  | nil =>
    cases h
    simp
  | cons _ _ ih =>
    obtain ⟨next, added, h⟩ := Option.bind_eq_some_iff.mp h
    obtain ⟨fits, added⟩ := Option.dite_none_right_eq_some.mp added
    cases added
    simp only [ih h, List.map_cons, List.sum_cons]
    omega

theorem Within.restoreAttempts {attempts : U32} {attemptsByMirror : OrderedMap UriId U32}
    (h : self.restoreAttempts attempts attemptsByMirror = .ok after) :
    after.policy = self.policy ∧ after.Within := by
  unfold HttpRetryBudget.restoreAttempts at h
  split at h
  next => cases h
  next sane =>
    cases h
    simp only [not_or, not_lt, not_exists, not_and, not_not] at sane
    obtain ⟨-, -, -, total, mirrored, sum⟩ := sane
    refine ⟨rfl, total, fun mirror => ?_, (foldlM_checkedAdd sum).trans (Nat.zero_add _)⟩
    simp only [attemptsForMirror]
    cases found : attemptsByMirror[mirror]? with
    | none => exact Fin.zero_le _
    | some count => exact (mirrored count (OrderedMap.mem_valuesInOrder.mpr ⟨mirror, found⟩)).2

theorem Within.next (within : self.Within) (request : HttpRetryRequest) :
    ((httpRetryMachine parseHttpDate).next self request).2.policy = self.policy ∧
      ((httpRetryMachine parseHttpDate).next self request).2.Within := by
  cases request with
  | beginAttempt =>
    simp only [httpRetryMachine]
    split
    next began => exact within.beginAttempt began
    next => exact ⟨rfl, within⟩
  | restoreAttempts =>
    simp only [httpRetryMachine]
    split
    next restored => exact Within.restoreAttempts restored
    next => exact ⟨rfl, within⟩
  | decideAfterFailure => exact ⟨rfl, within⟩

end HttpRetryBudget

open HttpRetryBudget in
/-- In every run of a budget the counts are within the caps, and every retry fits them and waits
for what the header or the back-off says. -/
theorem httpRetry_within_budget {parseHttpDate : List Char → Option ℤ} {policy : HttpRetryPolicy}
    {fresh last : HttpRetryBudget}
    {history : List (Step HttpRetryBudget HttpRetryRequest (Except HttpRetryError HttpRetryReply))}
    (whole : policy.WholeMillis) (new : HttpRetryBudget.new policy = .ok fresh)
    (run : (httpRetryMachine parseHttpDate).Run fresh history last) :
    last.policy = policy ∧ last.Within ∧
      ∀ step ∈ history, step.before.policy = policy ∧ step.before.Within ∧
        ∀ mirror cause activeElapsed retryAfter now entropy delay source,
          step.input = .decideAfterFailure mirror cause activeElapsed retryAfter now entropy →
          step.output = .ok (.decided (.retry delay source)) →
          step.before.Grants mirror cause activeElapsed delay ∧
            (retryAfter = none → policy.BacksOff step.before.attempts.val delay) := by
  induction run with
  | nil =>
    obtain ⟨same, within⟩ := Within.new new
    exact ⟨same, within, by simp⟩
  | @snoc history self run request ih =>
    obtain ⟨rfl, within, earlier⟩ := ih
    obtain ⟨same, next⟩ := within.next request
    refine ⟨same, next, forall_mem_snoc.mpr ⟨earlier, rfl, within, ?_⟩⟩
    rintro mirror cause activeElapsed retryAfter now entropy delay source rfl decided
    obtain ⟨decision, decided, same⟩ := Except.map_eq_ok.mp decided
    cases same
    exact grants_of_retry whole decided

namespace RetrySample

def statuses : HttpRetryStatusSet := ⟨∅, by simp, by simp⟩

def policy (backoff : HttpRetryBackoff) : HttpRetryPolicy where
  maxAttempts := 34
  maxAttemptsPerMirror := 34
  maxElapsed := .fromMillis 8589934592
  baseWait := .fromMillis 1
  maxWait := .fromMillis 4294967296
  retryAfterMin := 0
  retryAfterMax := .fromSecs 300
  respectRetryAfter := true
  profile := .conservative
  backoff := backoff
  retryOn := {.reset}
  retryableStatuses := statuses

def mirrors (attempts : U32) : OrderedMap UriId U32 := (∅ : OrderedMap _ _).insert ⟨0⟩ attempts

def budget (backoff : HttpRetryBackoff) (attempts : U32) : HttpRetryBudget :=
  ⟨policy backoff, attempts, mirrors attempts⟩

variable (backoff : HttpRetryBackoff)

theorem new_policy : HttpRetryBudget.new (policy backoff) = .ok ⟨policy backoff, 0, ∅⟩ :=
  Except.map_eq_ok.mpr ⟨(), by cases backoff <;> decide +kernel, rfl⟩

theorem whole : (policy backoff).WholeMillis := by
  refine ⟨?_, ?_, ?_, ?_, ?_⟩ <;> cases backoff <;> decide +kernel

theorem restored : (⟨policy .exponential, 0, ∅⟩ : HttpRetryBudget).restoreAttempts 33 (mirrors 33) =
    .ok (budget .exponential 33) := by
  have values : (mirrors 33).valuesInOrder = [33] := by decide +kernel
  have empty : (∅ : OrderedMap UriId U32).isEmpty = true := rfl
  have total : [33].foldlM HttpRetryBudget.checkedAdd 0 = some 33 := by decide +kernel
  simp [HttpRetryBudget.restoreAttempts, values, empty, total, budget, policy]

theorem saturated :
    (budget .exponential 33).decideAfterFailure (fun _ => none) ⟨0⟩ (.transport .reset) 0 none 0 0 =
      .ok (.retry (.fromMillis 4294967295) .exponentialBackoff) := by
  decide +kernel

end RetrySample

open RetrySample in
theorem httpRetry_within_budget_restored :
    (budget .exponential 33).Grants ⟨0⟩ (.transport .reset) 0 (.fromMillis 4294967295) := by
  have run := Machine.Run.nil.snoc (M := httpRetryMachine fun _ => none)
    (s := ⟨policy .exponential, 0, ∅⟩) (.restoreAttempts 33 (mirrors 33))
  have after {self restored : HttpRetryBudget} {attempts : U32} {counts : OrderedMap UriId U32}
      (h : self.restoreAttempts attempts counts = .ok restored) :
      ((httpRetryMachine fun _ => none).next self (.restoreAttempts attempts counts)).2 =
        restored := by
    simp only [httpRetryMachine, h]
  rw [after restored] at run
  obtain ⟨-, -, steps⟩ := httpRetry_within_budget (whole .exponential) (new_policy .exponential)
    (run.snoc (.decideAfterFailure ⟨0⟩ (.transport .reset) 0 none 0 0))
  exact ((steps _ (mem_snoc.mpr (.inr rfl))).2.2 _ _ _ _ _ _ _ _ rfl
    (congrArg (Except.map HttpRetryReply.decided) saturated)).1

open RetrySample in
/-- The factor of the back-off stops at the largest number of 32 bits: after 33 attempts it is not
the power of two any more. -/
theorem httpRetry_factor_saturates :
    (⟨policy .exponential, 0, ∅⟩ : HttpRetryBudget).restoreAttempts 33 (mirrors 33) =
        .ok (budget .exponential 33) ∧
      (budget .exponential 33).decideAfterFailure (fun _ => none) ⟨0⟩ (.transport .reset) 0 none 0
        0 = .ok (.retry (.fromMillis 4294967295) .exponentialBackoff) ∧
      (Duration.fromMillis 4294967295).val <
        min ((policy .exponential).effectiveBaseWait.val * 2 ^ (33 - 1))
          (policy .exponential).maxWait.val :=
  ⟨restored, saturated, by decide +kernel⟩

/-! ## Retry-After -/

namespace HttpRetryPolicy

variable (policy : HttpRetryPolicy)

/-- A wait within the bounds of the policy. -/
def Admits (wait : Duration) : Prop :=
  policy.retryAfterMin ≤ wait ∧ wait ≤ min policy.retryAfterMax policy.maxWait

def clamp (wait : Duration) : Duration :=
  min (min (max wait policy.retryAfterMin) policy.retryAfterMax) policy.maxWait

/-- What a delay keeps of the wait of a header. The fixed back-off takes a wait within the bounds
as it is; in every other case the jitter may halve the clamped wait, but not more. -/
structure Honours (wait delay : Duration) : Prop where
  bounds : policy.Admits (policy.clamp wait)
  kept : policy.Admits wait → policy.clamp wait = wait
  most : delay ≤ policy.clamp wait
  exact : policy.backoff = .fixed → policy.Admits wait → delay = wait
  half : (policy.clamp wait).capMs / 2 * 1000000 ≤ delay.val

variable {policy} {wait : Duration}

theorem admits_clamp (valid : policy.validate = .ok ()) : policy.Admits (policy.clamp wait) := by
  have valid := rejectIf_eq_ok.mp valid
  simp only [not_or, not_lt] at valid
  obtain ⟨-, -, -, inside, ordered, -⟩ := valid
  refine ⟨le_min (le_min (le_max_right _ _) ordered) (ordered.trans inside), ?_⟩
  exact le_min ((min_le_left _ _).trans (min_le_right _ _)) (min_le_right _ _)

theorem clamp_of_admits (admits : policy.Admits wait) : policy.clamp wait = wait := by
  obtain ⟨short, shorter⟩ := le_min_iff.mp admits.2
  rw [clamp, max_eq_left admits.1, min_eq_left short, min_eq_left shorter]

end HttpRetryPolicy

open HttpRetryBudget in
/-- A retry after a header honours it: it waits for no more than the clamped wait, and for no less
than half of it. -/
theorem retryAfter_honoured {self : HttpRetryBudget} {parseHttpDate : List Char → Option ℤ}
    {mirror : UriId} {cause : HttpRetryCause} {activeElapsed wait delay : Duration}
    {header : List Char} {now : ℤ} {entropy : U64} {source : HttpRetryDelaySource}
    (valid : self.policy.validate = .ok ()) (respects : self.policy.respectRetryAfter = true)
    (parsed : parseRetryAfter parseHttpDate header now = some wait)
    (retries : self.decideAfterFailure parseHttpDate mirror cause activeElapsed (some header) now
      entropy = .ok (.retry delay source)) : self.policy.Honours wait delay := by
  obtain ⟨-, -, -, -, chosen, -⟩ := decideAfterFailure_eq_retry retries
  simp only [delayAfterFailure, respects, if_true, parsed, Prod.mk.injEq] at chosen
  obtain ⟨rfl, -⟩ := chosen
  refine ⟨HttpRetryPolicy.admits_clamp valid, HttpRetryPolicy.clamp_of_admits, retryAfterDelay_le,
    fun fixed admits => ?_, ?_⟩
  · have same : self.policy.clamp wait = wait := HttpRetryPolicy.clamp_of_admits admits
    exact (if_pos ⟨fixed, decide_eq_false (not_not.mpr same)⟩).trans same
  · change _ ≤ (self.retryAfterDelay (self.policy.clamp wait) _ entropy).val
    unfold retryAfterDelay
    split
    next =>
      have capMs : (self.policy.clamp wait).capMs ≤ (self.policy.clamp wait).val / 1000000 :=
        min_le_left _ _
      omega
    next =>
      rw [equalJitter_val]
      exact Nat.mul_le_mul_right _ (jitter_bounds _ _).1

namespace RetrySample

/-- What a header of ten seconds leads to. -/
def afterHeader (backoff : HttpRetryBackoff) : Except HttpRetryError HttpRetryDecision :=
  (budget backoff 1).decideAfterFailure (fun _ => none) ⟨0⟩ (.transport .reset) 0
    (some ['1', '0']) 0 0

theorem parsed : parseRetryAfter (fun _ => none) ['1', '0'] 0 = some (.fromSecs 10) := by
  decide +kernel

theorem halved : afterHeader .exponentialJitter = .ok (.retry (.fromSecs 5) .retryAfter) := by
  decide +kernel

end RetrySample

open RetrySample in
theorem retryAfter_honoured_halved :
    (policy .exponentialJitter).Honours (.fromSecs 10) (.fromSecs 5) :=
  retryAfter_honoured (by decide +kernel) rfl parsed halved

open RetrySample in
/-- A server that asks for ten seconds is asked again after five. -/
theorem retryAfter_undercut : (policy .exponentialJitter).validate = .ok () ∧
      parseRetryAfter (fun _ => none) ['1', '0'] 0 = some (.fromSecs 10) ∧
      afterHeader .exponentialJitter = .ok (.retry (.fromSecs 5) .retryAfter) ∧
      (policy .exponentialJitter).retryAfterMin ≤ .fromSecs 10 ∧
      .fromSecs 10 ≤ min (policy .exponentialJitter).retryAfterMax
        (policy .exponentialJitter).maxWait ∧
      (Duration.fromSecs 5).val + 1000000 < (Duration.fromSecs 10).val := by
  refine ⟨?_, parsed, halved, ?_, ?_, ?_⟩ <;> decide +kernel

end Ariax
