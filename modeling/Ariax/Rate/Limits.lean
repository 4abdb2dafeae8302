import Ariax.Rate.Moves

/-!
# Limit changes

The calls that give buckets new limits leave the queue and the work in flight
alone, and the limits they set are validated. With the moves of the other calls
this covers every call, so what is said here of the arbiters that are reached
holds of every run.
-/

namespace Ariax

open Option RateArbiterState RateSystem

/-- The limit a call sets for a bucket that is there. -/
def RateRequest.newLimit (state : RateArbiterState) : RateRequest → RateKey → Option RateLimit
  | .reconfigure config, none => if config.validate = .ok config then some config.global else none
  | .reconfigure config, some scope =>
    if config.validate = .ok config then
      state.scopes[scope]?.bind fun entry =>
        if entry.explicit then none else some (config.defaultLimit scope)
    else none
  | .setGlobalAllocation bytesPerSecond, none => some (.perSecond (bytesPerSecond.getD 0))
  | .setGlobalLimit limit, none => if limit.validate then some limit else none
  | .setScopedLimit scope limit, some key | .applyPrepared scope limit, some key =>
    if key = scope ∧ limit.validate then some limit else none
  | _, _ => none

namespace RateArbiterConfig

variable {config accepted : RateArbiterConfig}

theorem validate_eq (valid : config.validate = .ok accepted) : accepted = config := by
  unfold validate at valid
  split at valid
  · cases valid
  · exact (Except.ok.inj valid).symm

theorem limits_of_validate (valid : config.validate = .ok accepted) :
    config.global.validate = true ∧ ∀ scope, (config.defaultLimit scope).validate = true := by
  unfold validate at valid
  split at valid
  · cases valid
  · rename_i checked
    simp only [Bool.or_eq_true, Bool.not_eq_true', not_or, Bool.not_eq_false] at checked
    obtain ⟨⟨⟨⟨⟨global, host⟩, task⟩, stream⟩, -⟩, -⟩ := checked
    refine ⟨global, ?_⟩
    rintro (_ | _ | _)
    exacts [host, task, stream]

end RateArbiterConfig

theorem RateRequest.validate_of_newLimit {state : RateArbiterState} {request : RateRequest}
    {key : RateKey} {limit : RateLimit} (sets : request.newLimit state key = some limit) :
    limit.validate = true := by
  unfold newLimit at sets
  split at sets
  · obtain ⟨valid, same⟩ := ite_some_none_eq_some.mp sets
    exact same ▸ (RateArbiterConfig.limits_of_validate valid).1
  · split at sets
    · rename_i scope valid
      obtain ⟨entry, -, own⟩ := bind_eq_some_iff.mp sets
      split at own
      · cases own
      · obtain rfl := some.inj own
        exact (RateArbiterConfig.limits_of_validate valid).2 scope
    · cases sets
  · obtain rfl := some.inj sets
    exact RateLimit.validate_perSecond _
  · obtain ⟨valid, same⟩ := ite_some_none_eq_some.mp sets
    exact same ▸ valid
  · obtain ⟨valid, same⟩ := ite_some_none_eq_some.mp sets
    exact same ▸ valid.2
  · obtain ⟨valid, same⟩ := ite_some_none_eq_some.mp sets
    exact same ▸ valid.2
  · cases sets

/-- What a call that changes limits leaves as it was, and what becomes of the buckets. -/
structure Relimited (system after : RateSystem) (request : RateRequest) (now : ClockInstant) :
    Prop where
  flight : after.flight = system.flight
  waiters : after.arbiter.waiters = system.arbiter.waiters
  defaults : (∀ scope, (system.arbiter.config.defaultLimit scope).validate = true) →
    ∀ scope, (after.arbiter.config.defaultLimit scope).validate = true
  missing : ∀ key, system.arbiter.bucket key = none → after.arbiter.bucket key = none
  buckets : ∀ key bucket, system.arbiter.bucket key = some bucket →
    after.arbiter.bucket key = some bucket ∨
      ∃ limit, request.newLimit system.arbiter key = some limit ∧
        after.arbiter.bucket key = some (bucket.reconfigure limit now)

namespace Relimited

variable {system after : RateSystem} {request : RateRequest} {now : ClockInstant}

theorem refl : Relimited system system request now :=
  ⟨rfl, rfl, id, fun _ => id, fun _ _ found => .inl found⟩

theorem limitGlobal {suspended : Bool} {limit : RateLimit}
    (sets : request.newLimit system.arbiter none = some limit) :
    Relimited system { system with arbiter := system.arbiter.limitGlobal suspended limit now }
      request now := by
  refine ⟨rfl, rfl, fun valid scope => ?_, ?_, ?_⟩
  · have same := valid scope
    cases scope <;> exact same
  · intro key missing
    cases key with
    | none => cases missing
    | some => exact missing
  · intro key bucket found
    cases key with
    | none =>
      obtain rfl := some.inj found
      exact .inr ⟨limit, sets, rfl⟩
    | some => exact .inl found

theorem limitScope {scope : RateScope} {limit : RateLimit} {entry : BucketEntry}
    (sets : request.newLimit system.arbiter (some scope) = some limit)
    (stored : system.arbiter.scopes[scope]? = some entry) :
    Relimited system { system with arbiter := { system.arbiter with
      scopes := system.arbiter.scopes.insert scope ⟨entry.bucket.reconfigure limit now, true⟩ } }
      request now := by
  have there : system.arbiter.bucket (some scope) = some entry.bucket := by
    rw [bucket, stored]
    rfl
  refine ⟨rfl, rfl, id, ?_, ?_⟩
  · intro key missing
    rw [bucket_insert, if_neg]
    · exact missing
    · rintro rfl
      cases there.symm.trans missing
  · intro key bucket found
    rw [bucket_insert]
    split
    · rename_i same
      subst same
      obtain rfl := some.inj (there.symm.trans found)
      exact .inr ⟨limit, sets, rfl⟩
    · exact .inl found

theorem tracks (relimited : Relimited system after request now) {path : RatePath}
    (tracks : system.arbiter.Tracks path) : after.arbiter.Tracks path := by
  intro key member
  obtain ⟨bucket, found⟩ := ne_none_iff_exists'.mp (tracks key member)
  rcases relimited.buckets key bucket found with same | ⟨limit, -, same⟩ <;> simp [same]

theorem sound (relimited : Relimited system after request now) (sound : system.Sound) :
    after.Sound where
  waiters := by
    rw [relimited.waiters]
    exact fun waiter queued => relimited.tracks (sound.waiters waiter queued)
  asks := by
    rw [relimited.waiters]
    exact sound.asks
  flying := by
    rw [relimited.flight]
    exact fun path covered => relimited.tracks (sound.flying path covered)
  limits := by
    intro key bucket found
    cases was : system.arbiter.bucket key with
    | none => cases (relimited.missing key was).symm.trans found
    | some old =>
      rcases relimited.buckets key old was with same | ⟨limit, sets, same⟩
      · obtain rfl := some.inj (same.symm.trans found)
        exact sound.limits key old was
      · obtain rfl := some.inj (same.symm.trans found)
        exact RateRequest.validate_of_newLimit sets
  defaults := relimited.defaults sound.defaults

end Relimited

namespace RateSystem

variable {system : RateSystem} {request : RateRequest}

theorem relimited_next (now : ClockInstant) (changes : ¬request.KeepsLimits system) :
    (system.next request now).1 = none ∧
      Relimited system (system.next request now).2 request now := by
  cases request with
  | reconfigure config =>
    refine ⟨rfl, ?_⟩
    change Relimited system (system.reconfigure config now) _ now
    unfold reconfigure
    split
    · exact .refl
    · rename_i accepted valid
      obtain rfl := RateArbiterConfig.validate_eq valid
      refine ⟨rfl, rfl, fun _ => (RateArbiterConfig.limits_of_validate valid).2, ?_, ?_⟩
      · intro key missing
        cases key with
        | none => cases missing
        | some =>
          simp only [RateArbiterState.bucket, RateArbiterState.reconfigure,
            Std.ExtTreeMap.getElem?_map, map_eq_none_iff] at missing ⊢
          exact missing
      · intro key bucket found
        cases key with
        | none =>
          obtain rfl := some.inj found
          exact .inr ⟨accepted.global, if_pos valid, rfl⟩
        | some scope =>
          obtain ⟨entry, stored, rfl⟩ := map_eq_some_iff.mp found
          simp only [RateArbiterState.bucket, RateArbiterState.reconfigure,
            RateRequest.newLimit, Std.ExtTreeMap.getElem?_map, stored, if_pos valid]
          by_cases own : entry.explicit = true
          · exact .inl (by simp [own])
          · exact .inr ⟨accepted.defaultLimit scope, by simp [own], by simp [own]⟩
  | setGlobalAllocation => exact ⟨rfl, .limitGlobal rfl⟩
  | setGlobalLimit =>
    refine ⟨rfl, ?_⟩
    simp only [next, setGlobalLimit]
    split
    · exact .refl
    · rename_i valid
      refine .limitGlobal (if_pos ?_)
      simpa using valid
  | setScopedLimit scope =>
    refine ⟨rfl, ?_⟩
    obtain ⟨bucket, found⟩ := ne_none_iff_exists'.mp changes
    obtain ⟨entry, stored, -⟩ := map_eq_some_iff.mp found
    simp only [next, setScopedLimit, RateArbiterState.setScopedLimit]
    split
    · exact .refl
    · rename_i arbiter accepted
      split at accepted
      · cases accepted
      · rename_i valid
        simp only [setLimitEntry, stored] at accepted
        split at accepted
        · cases accepted
        · obtain rfl := Except.ok.inj accepted
          exact .limitScope (if_pos ⟨rfl, by simpa using valid⟩) stored
  | applyPrepared =>
    refine ⟨rfl, ?_⟩
    simp only [next, applyPrepared]
    split
    · exact .refl
    · rename_i valid
      unfold RateArbiterState.applyPrepared
      split
      · rename_i entry stored
        exact .limitScope (if_pos ⟨rfl, by simpa using valid⟩) stored
      · exact .refl
  | _ => exact (changes trivial).elim

theorem Sound.next (sound : system.Sound) (request : RateRequest) (now : ClockInstant) :
    (system.next request now).2.Sound := by
  by_cases keeps : request.KeepsLimits system
  · exact (system.moves_next now keeps).sound sound
  · exact (relimited_next now keeps).2.sound sound

theorem eq_of_new {config : RateArbiterConfig} {start : ClockInstant} {fresh : RateSystem}
    (new : RateSystem.new config start = .ok fresh) :
    fresh = ⟨RateArbiterState.new config start, []⟩ ∧ config.global.validate = true ∧
      ∀ scope, (config.defaultLimit scope).validate = true := by
  cases valid : config.validate with
  | error =>
    rw [RateSystem.new, valid] at new
    cases new
  | ok accepted =>
    obtain rfl := RateArbiterConfig.validate_eq valid
    rw [RateSystem.new, valid] at new
    exact ⟨(Except.ok.inj new).symm, RateArbiterConfig.limits_of_validate valid⟩

theorem Sound.new {config : RateArbiterConfig} {start : ClockInstant} {fresh : RateSystem}
    (new : RateSystem.new config start = .ok fresh) : fresh.Sound := by
  obtain ⟨rfl, global, defaults⟩ := eq_of_new new
  refine ⟨by rintro _ ⟨⟩, by rintro _ ⟨⟩, ?_, ?_, defaults⟩
  · rintro path (⟨permit, held, -⟩ | ⟨id, grant, stored, -⟩)
    · cases held
    · simp [flight, RateArbiterState.new] at stored
  · intro key bucket found
    cases key with
    | none =>
      obtain rfl := some.inj found
      exact global
    | some => simp [RateArbiterState.bucket, RateArbiterState.new] at found

/-- Every arbiter that is reached, by whatever calls, is sound. -/
theorem sound_of_reachable (reached : rateMachine.Reachable system) : system.Sound :=
  reached.invariant (fun _ ⟨_, _, new⟩ => .new new) fun _ input sound => sound.next input.1 input.2

end RateSystem

end Ariax
