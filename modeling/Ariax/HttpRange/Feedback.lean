import Ariax.Http.Retry
import Ariax.HttpRange.Coordinator

/-!
# The speed estimate of an origin

An origin is remembered with a moving average of its speeds. The first call of
all sets the average, but only if it succeeded: after a failure the first
speed is averaged with the zero that stands there at the start.
-/

namespace Ariax

open List

/-- One call of `observe`. -/
structure Observation where
  bytes : U64
  elapsed : Duration
  succeeded : Bool

def Observation.speed (call : Observation) : U64 :=
  saturate (call.bytes.val * 1000000 / max (call.elapsed.val / 1000) 1)

namespace ServerFeedback

def observe (feedback : ServerFeedback) (call : Observation) : ServerFeedback :=
  let samples : U32 := saturate (feedback.samples.val + 1)
  if call.succeeded then
    let tripled : U64 := saturate (feedback.bytesPerSecond.val * 3)
    { samples := samples
      bytesPerSecond :=
        if samples = 1 then call.speed else saturate (tripled.val + call.speed.val) / 4
      failures := saturate (feedback.failures.val - 1) }
  else
    { feedback with
      samples := samples
      failures := min (saturate (feedback.failures.val + 1)) 32 }

/-- The feedback after a sequence of calls. -/
def after (calls : List Observation) : ServerFeedback := calls.foldl observe default

/-- The estimate after a sequence of calls is within all bounds of the speeds, if there are any. -/
def InRange (calls : List Observation) : Prop :=
  ∀ low high, (∃ call ∈ calls, call.succeeded = true) →
    (∀ call ∈ calls, call.succeeded = true → low ≤ call.speed ∧ call.speed ≤ high) →
      low ≤ (after calls).bytesPerSecond ∧ (after calls).bytesPerSecond ≤ high

/-- The first call succeeded, or the first speed of all is zero. -/
def StartsWell (calls : List Observation) : Prop :=
  ∀ first ∈ calls.head?, first.succeeded = true ∨
    ∀ success ∈ calls.find? (·.succeeded), success.speed = 0

/-- A call has been made, and the estimate is between two speeds. -/
structure Between (low high : U64) (feedback : ServerFeedback) : Prop where
  later : 1 ≤ feedback.samples.val
  lower : low.val ≤ feedback.bytesPerSecond.val
  upper : feedback.bytesPerSecond.val ≤ high.val

variable {feedback : ServerFeedback} {call : Observation} {low high : U64}

theorem observe_later (later : 1 ≤ feedback.samples.val) (succeeded : call.succeeded = true) :
    (feedback.observe call).bytesPerSecond.val = min (min (feedback.bytesPerSecond.val * 3)
      (2 ^ 64 - 1) + call.speed.val) (2 ^ 64 - 1) / 4 := by
  have other : (saturate (feedback.samples.val + 1) : U32) ≠ 1 := by
    rw [Ne, Fin.ext_iff]
    simp only [saturate, Fin.val_one]
    omega
  simp only [observe, if_pos succeeded, if_neg other]
  rfl

theorem samples_observe : 1 ≤ (feedback.observe call).samples.val := by
  rw [observe]
  split <;> exact le_min (Nat.le_add_left 1 _) (by decide)

theorem Between.observe (between : Between low high feedback) (top : low.val ≤ (2 ^ 64 - 1) / 4)
    (speed : call.succeeded = true → low.val ≤ call.speed.val ∧ call.speed.val ≤ high.val) :
    Between low high (feedback.observe call) := by
  obtain ⟨later, lower, upper⟩ := between
  by_cases succeeded : call.succeeded = true
  · have estimate := observe_later later succeeded
    have speed := speed succeeded
    exact ⟨samples_observe, by omega, by omega⟩
  · refine ⟨samples_observe, ?_, ?_⟩ <;> rwa [ServerFeedback.observe, if_neg succeeded]

theorem Between.foldl {calls : List Observation} (between : Between low high feedback)
    (top : low.val ≤ (2 ^ 64 - 1) / 4) (speeds : ∀ call ∈ calls, call.succeeded = true →
      low.val ≤ call.speed.val ∧ call.speed.val ≤ high.val) :
    Between low high (calls.foldl ServerFeedback.observe feedback) := by
  induction calls generalizing feedback with
  | nil => exact between
  | cons call rest ih =>
    rw [forall_mem_cons] at speeds
    exact ih (between.observe top speeds.1) speeds.2

/-- The estimate after the first call: its speed, or the zero of the start. -/
theorem observe_default : (default.observe call).bytesPerSecond =
    if call.succeeded then call.speed else 0 := by
  rw [observe]
  split <;> rfl

/-- A sequence that starts with failures has as its first estimate a quarter of a speed. -/
theorem after_failures {failures : List Observation} {first : Observation}
    (failed : ∀ call ∈ first :: failures, call.succeeded = false)
    (succeeded : call.succeeded = true) :
    (after (first :: failures ++ [call])).bytesPerSecond.val = call.speed.val / 4 := by
  have zero : Between 0 0 (failures.foldl observe (default.observe first)) := by
    refine Between.foldl ⟨samples_observe, Nat.zero_le _, ?_⟩ (by decide)
      fun call member worked => ?_
    · rw [observe_default, failed first mem_cons_self]
      exact le_rfl
    · rw [failed call (mem_cons_of_mem _ member)] at worked
      cases worked
  have estimate := observe_later zero.later succeeded
  have upper := zero.upper
  rw [after, foldl_append, foldl_cons, foldl_nil, foldl_cons]
  simp only [Fin.val_zero] at upper
  omega

end ServerFeedback

open ServerFeedback

/-- In every sequence of calls with bounded speeds, the estimate is in range all along exactly
when the sequence starts well. -/
theorem estimate_in_range_iff {calls : List Observation}
    (bounded : ∀ call ∈ calls, call.speed.val ≤ (2 ^ 64 - 1) / 4) :
    (∀ earlier, earlier <+: calls → InRange earlier) ↔ StartsWell calls := by
  cases calls with
  | nil => simp [StartsWell, InRange]
  | cons first rest =>
    rw [StartsWell, head?_cons]
    simp only [Option.mem_some_iff, forall_eq']
    constructor
    · intro range
      refine or_iff_not_imp_left.mpr fun failed success found => ?_
      rw [find?_cons_of_neg failed] at found
      obtain ⟨succeeded, failures, more, rfl, before⟩ := find?_eq_some_iff_append.mp found
      have silent : ∀ call ∈ first :: failures, call.succeeded = false := by
        simpa [failed] using before
      have within := range (first :: failures ++ [success]) ⟨more, by simp⟩ success.speed
        success.speed ⟨success, by simp, succeeded⟩ fun call member worked => ?_
      · have lower := Fin.le_def.mp within.1
        rw [after_failures silent succeeded] at lower
        exact Fin.ext (by simp only [Fin.val_zero]; omega)
      · rcases mem_snoc.mp member with earlier | rfl
        · rw [silent call earlier] at worked
          cases worked
        · exact ⟨le_rfl, le_rfl⟩
    · rintro well (_ | ⟨first, tail⟩) initial low high ⟨success, member, succeeded⟩ speeds
      · cases member
      have subset := initial.subset
      obtain ⟨rfl, more, rfl⟩ := cons_prefix_cons.mp initial
      have top := le_trans (Fin.le_def.mp (speeds success member succeeded).1)
        (bounded success (subset member))
      suffices start : low ≤ (default.observe first).bytesPerSecond ∧
          (default.observe first).bytesPerSecond ≤ high by
        have between := Between.foldl ⟨samples_observe, start.1, start.2⟩ top fun call member =>
          speeds call (mem_cons_of_mem _ member)
        exact ⟨between.lower, between.upper⟩
      rw [observe_default]
      split
      · exact speeds first mem_cons_self ‹_›
      · -- the first success has speed zero, so the lower bound is zero
        rename_i failed
        obtain ⟨least, found⟩ := Option.isSome_iff_exists.mp
          (find?_isSome.mpr ⟨success, member, succeeded⟩)
        have zero := well.resolve_left failed least
          (by rw [← cons_append, find?_append, found]; rfl)
        have lower := (speeds least (mem_of_find?_eq_some found) (find?_some found)).1
        exact ⟨zero ▸ lower, Fin.zero_le high⟩

namespace FeedbackSample

def success (bytes : U64) : Observation := ⟨bytes, .fromSecs 1, true⟩

def failure : Observation := ⟨0, .fromSecs 1, false⟩

end FeedbackSample

open FeedbackSample

theorem estimate_in_range_mixed : StartsWell [success 8, failure, success 4] ∧
    InRange [success 8, failure, success 4] := by
  have well : StartsWell [success 8, failure, success 4] := by
    simp [StartsWell, success]
  exact ⟨well, (estimate_in_range_iff (by decide)).mpr well _ prefix_rfl⟩

/-- The only speed comes after a failure: the estimate is a quarter of it. -/
theorem estimate_out_of_range :
    (∀ call ∈ [failure, success 4], call.speed.val ≤ (2 ^ 64 - 1) / 4) ∧
      ¬InRange [failure, success 4] :=
  ⟨by decide, fun range => absurd (range 4 4 (by decide) (by decide)).1 (by decide)⟩

end Ariax
