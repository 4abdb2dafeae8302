import Ariax.Supervisor.Joins
import Ariax.Supervisor.Reports

/-!
# What holds in every run of the supervisor

The invariants of the earlier modules are kept by every step: by what the
sink puts into the mailbox, by the moves of a poll, by workers that end and
by events that are taken.
-/

namespace Ariax

namespace HttpWorkerSupervisor

variable {s s' : HttpWorkerSupervisor}

structure Sound (s : HttpWorkerSupervisor) : Prop where
  ticketed : s.Ticketed
  staffed : s.Staffed
  recorded : s.Recorded
  reported : s.Reported

theorem Move.sound (move : Move s s') (sound : s.Sound) : s'.Sound :=
  ⟨move.turn.ticketed sound.ticketed, move.staffed sound.staffed,
    move.turn.recorded sound.recorded, move.turn.reported sound.ticketed sound.reported⟩

theorem Move.produced_grows (move : Move s s') : s.produced <+: s'.produced := by
  cases move.turn with
  | quiet quiet => exact ⟨_, quiet.produced.symm⟩
  | started quiet => exact ⟨_, ((produced_spawn _ _).trans quiet.produced).symm⟩
  | held quiet => exact ⟨_, ((produced_hold _ _ _).trans quiet.produced).symm⟩

theorem pollOnce_keeps {P : HttpWorkerSupervisor → Prop}
    (step : ∀ s s', P s → Move s s' → P s') (environment : PollEnvironment)
    (s : HttpWorkerSupervisor) (before : P s) :
    P (supervisorMachine.next s (.pollOnce environment)).2 := by
  have along {s' : HttpWorkerSupervisor} (moves : Moves s s') : P s' := by
    induction moves with
    | refl => exact before
    | tail _ move ih => exact step _ _ ih move
  obtain ⟨returns, fails⟩ := pollOnce_moves environment s
  simp only [supervisorMachine]
  split
  · rename_i run
    exact along (returns _ _ run)
  · rename_i run
    exact along (fails _ _ run)

section

variable (s)

theorem next_takeEvent :
    Emits s (supervisorMachine.next s .takeEvent).2 [] := by
  simp only [supervisorMachine]
  split
  · exact .refl s
  · rename_i event rest _
    refine ⟨rfl, rfl, rfl, rfl, rfl, rfl, rfl, ?_, [.taken event], rfl, by simp [isTraffic]⟩
    simp [produced, submissions, submittedOf]

theorem next_close : Emits s (supervisorMachine.next s .close).2 [] :=
  ⟨rfl, rfl, rfl, rfl, rfl, rfl, rfl, (List.append_nil _).symm, [], (List.append_nil _).symm,
    by simp⟩

theorem exists_endWorker (joinId : ℕ) (result : Option (Except PublicError HttpWorkerSuccess)) :
    ∃ joins, s.endWorker joinId result = { s with joins := joins } := by
  unfold endWorker
  split
  · exact ⟨s.joins, rfl⟩
  · exact ⟨_, rfl⟩

theorem produced_startAllocation (identity : RuntimeIdentity) :
    (s.startAllocation identity).produced = s.produced := by
  simp [produced, startAllocation, submissions, submittedOf]

theorem produced_cancelGeneration (identity : RuntimeIdentity) (force : Bool) :
    (s.cancelGeneration identity force).produced = s.produced := by
  simp [produced, cancelGeneration, submissions, submittedOf]

end

variable (sound : s.Sound)
include sound

theorem Sound.startAllocation (identity : RuntimeIdentity) :
    (s.startAllocation identity).Sound := by
  have produced := s.produced_startAllocation identity
  have fresh : ∀ event ∈ s.produced, event.ticket ≠ s.runtime.nextTicket := fun event member =>
    (sound.ticketed.events_lt event member).ne
  refine ⟨?_, sound.staffed, ?_, ?_⟩
  · rw [Ticketed, produced]
    exact sound.ticketed.enterAllocation identity
  · refine sound.recorded.grow (List.subset_append_left _ _) (fun request member => ?_)
      (fun _ ↦ .inl) sound.recorded.workers fun event member _ ↦ .inl (produced ▸ member)
    refine (mem_snoc.mp member).imp_right ?_
    rintro rfl
    exact mem_snoc.mpr (.inr rfl)
  · refine ⟨fun request member event made result => ?_, produced ▸ sound.reported.working,
      produced ▸ sound.reported.heralded, fun worker request held => ?_⟩
    · rw [produced] at made
      rcases mem_snoc.mp member with earlier | rfl
      · exact sound.reported.waiting request earlier event made result
      · exact fresh event made result.1
    · have retired := sound.reported.retired worker request
        ((mem_snoc.mp held).resolve_right (by simp))
      refine retired.mono produced (fun allocation member => ?_) retired.holds
      rcases mem_snoc.mp member with earlier | rfl
      · exact retired.taken allocation earlier
      · obtain ⟨event, made, own, -⟩ := retired.succeeded
        exact own ▸ (fresh event made).symm

theorem Sound.cancelGeneration (identity : RuntimeIdentity) (force : Bool) :
    (s.cancelGeneration identity force).Sound := by
  have produced := s.produced_cancelGeneration identity force
  refine ⟨?_, sound.staffed, ?_, ?_⟩
  · rw [Ticketed, produced]
    exact sound.ticketed.enterCancellation identity force
  · refine sound.recorded.grow (List.subset_append_left _ _) (fun _ => .inl)
      (fun request member => ?_) sound.recorded.workers
      fun event member _ => .inl (produced ▸ member)
    refine (mem_snoc.mp member).imp_right ?_
    rintro rfl
    exact mem_snoc.mpr (.inr rfl)
  · refine ⟨produced ▸ sound.reported.waiting, produced ▸ sound.reported.working,
      produced ▸ sound.reported.heralded, fun worker request held => ?_⟩
    have retired := sound.reported.retired worker request
      ((mem_snoc.mp held).resolve_right (by simp))
    exact retired.mono produced retired.taken retired.holds

theorem Sound.endWorker (joinId : ℕ)
    (result : Option (Except PublicError HttpWorkerSuccess)) :
    (s.endWorker joinId result).Sound := by
  have staffed := Staffed.endWorker sound.staffed joinId result
  obtain ⟨joins, ended⟩ := s.exists_endWorker joinId result
  rw [ended] at staffed ⊢
  refine ⟨sound.ticketed, staffed, sound.recorded.grow (List.Subset.refl _) (fun _ => .inl)
    (fun _ => .inl) sound.recorded.workers fun _ member _ => .inl member,
    sound.reported.waiting, sound.reported.working, sound.reported.heralded,
    fun worker request held => ?_⟩
  have retired := sound.reported.retired worker request held
  exact retired.mono rfl retired.taken retired.holds

theorem Sound.next (input : SupervisorInput) :
    (supervisorMachine.next s input).2.Sound := by
  cases input with
  | startAllocation identity =>
    simp only [supervisorMachine]
    split
    · exact sound.startAllocation identity
    · exact sound
  | cancelGeneration identity force =>
    simp only [supervisorMachine]
    split
    · exact sound.cancelGeneration identity force
    · exact sound
  | pollOnce environment =>
    exact pollOnce_keeps (fun _ _ sound move => move.sound sound) environment s sound
  | endWorker joinId result => exact sound.endWorker joinId result
  | takeEvent => exact (Move.emitted s.next_takeEvent).sound sound
  | close => exact (Move.emitted s.next_close).sound sound

end HttpWorkerSupervisor

end Ariax
