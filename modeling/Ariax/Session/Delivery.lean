import Ariax.Session.Owner

/-!
# What becomes of an accepted command

The accepted requests are, in their order, those that were executed, the one
in the owner's hand and those that wait; requests can only be lost when the
receiver is dropped with a queue that is not empty.
-/

namespace Ariax

open SessionOwner List OwnerPhase

variable {Command Value Fault Store : Type}
  {execute : Store → Command → Except Fault Value × Store}

abbrev SessionStep (Command Value Fault Store : Type) :=
  Step (SessionOwner Command Value Fault Store) (SessionInput Command)
    (SessionOutput Command Value Fault)

section

variable (step : SessionStep Command Value Fault Store)

def acceptedRequest : Option (OwnerRequest Command) :=
  match step.input, step.output with
  | .trySubmitOwned command, .accepted completion => some ⟨command, completion⟩
  | _, _ => none

def executedRequest : Option (OwnerRequest Command) :=
  match step.output with
  | .executed request _ => some request
  | _ => none

end

section

variable (τ : List (SessionStep Command Value Fault Store))
include τ

def acceptedRequests : List (OwnerRequest Command) :=
  τ.filterMap acceptedRequest

def executedRequests : List (OwnerRequest Command) :=
  τ.filterMap executedRequest

theorem acceptedRequests_snoc (step : SessionStep Command Value Fault Store) :
    acceptedRequests (τ ++ [step]) = acceptedRequests τ ++ (acceptedRequest step).toList := by
  rw [acceptedRequests, filterMap_snoc]
  rfl

theorem executedRequests_snoc (step : SessionStep Command Value Fault Store) :
    executedRequests (τ ++ [step]) = executedRequests τ ++ (executedRequest step).toList := by
  rw [executedRequests, filterMap_snoc]
  rfl

end

/-- The request the owner has taken from the queue and not answered yet. -/
def OwnerPhase.inHand : OwnerPhase Command → List (OwnerRequest Command)
  | .executing request => [request]
  | _ => []

/-! ## What a step can do -/

/-- The ways in which a step changes the owner. -/
inductive SessionMove (execute : Store → Command → Except Fault Value × Store)
    (o : SessionOwner Command Value Fault Store) :
    SessionInput Command → SessionOutput Command Value Fault →
      SessionOwner Command Value Fault Store → Prop
  | counted {input : SessionInput Command} {handles : ℕ} (none : o.handles = 0 → handles = 0) :
      SessionMove execute o input .quiet { o with handles := handles }
  | closed {input : SessionInput Command} {admission : Admission}
      (shut : admission.state ≠ .running) :
      SessionMove execute o input .quiet { o with admission := admission }
  | refused {command : Command} {error : SessionOwnerError Fault} {admission : Admission}
      (listed : error = .queueFull ∨ error = .shuttingDown ∨ error = .unavailable)
      (shut : admission = o.admission ∨ admission.state ≠ .running) :
      SessionMove execute o (.trySubmitOwned command) (.rejected ⟨command, error⟩)
        { o with admission := admission, opened := o.opened + 1 }
  | admitted {command : Command} (called : 0 < o.handles)
      (running : o.admission.state = .running) (live : o.phase ≠ .finished) :
      SessionMove execute o (.trySubmitOwned command) (.accepted o.opened)
        { o with opened := o.opened + 1, queue := o.queue ++ [⟨command, o.opened⟩] }
  | took {request : OwnerRequest Command} {rest : List (OwnerRequest Command)}
      (receiving : o.phase = .receiving) (waiting : o.queue = request :: rest) :
      SessionMove execute o .owner .quiet { o with queue := rest, phase := .executing request }
  | answered {request : OwnerRequest Command} (executing : o.phase = .executing request) :
      SessionMove execute o .owner (.executed request (execute o.store request.command).1)
        { o with
          store := (execute o.store request.command).2
          completions := Function.update o.completions request.completion
            (.answered (execute o.store request.command).1)
          phase := .receiving }
  | went {phase : OwnerPhase Command} (idle : o.phase.inHand = []) (still : phase.inHand = [])
      (before : o.phase ≠ .finished) (after : phase ≠ .finished) :
      SessionMove execute o .owner .quiet { o with phase := phase }
  | finished {admission : Admission} (left : o.phase = .left)
      (shut : admission = o.admission ∨ admission.state ≠ .running) :
      SessionMove execute o .owner .quiet
        (dropReceiver { o with admission := admission })

theorem SessionMove.same {o : SessionOwner Command Value Fault Store}
    {input : SessionInput Command} : SessionMove execute o input .quiet o := by
  have counted : SessionMove execute o input .quiet { o with handles := o.handles } := .counted id
  exact counted

section

variable (o : SessionOwner Command Value Fault Store)
include o

theorem SessionOwner.trySubmitOwned_cases (command : Command) :
    (∃ error admission, (error = .queueFull ∨ error = .shuttingDown ∨ error = .unavailable) ∧
      (admission = o.admission ∨ admission = ⟨.closed, false⟩ ∧ o.phase = .finished) ∧
      o.trySubmitOwned command = (.error ⟨command, error⟩,
        { o with admission := admission, opened := o.opened + 1 })) ∨
    o.admission.state = .running ∧ o.phase ≠ .finished ∧
      o.trySubmitOwned command = (.ok o.opened,
        { o with opened := o.opened + 1, queue := o.queue ++ [⟨command, o.opened⟩] }) := by
  unfold trySubmitOwned
  split
  · exact .inl ⟨.shuttingDown, o.admission, by simp, .inl rfl, rfl⟩
  · exact .inl ⟨.unavailable, o.admission, by simp, .inl rfl, rfl⟩
  · rename_i running
    split
    · exact .inl ⟨.unavailable, o.admission, by simp, .inl rfl, rfl⟩
    · split
      · rename_i finished
        exact .inl ⟨.unavailable, ⟨.closed, false⟩, by simp, .inr ⟨rfl, finished⟩, rfl⟩
      · rename_i live
        split
        · exact .inl ⟨.queueFull, o.admission, by simp, .inl rfl, rfl⟩
        · exact .inr ⟨running, live, rfl⟩

theorem SessionOwner.move_ownerMain :
    SessionMove execute o .owner (o.ownerMain execute).1 (o.ownerMain execute).2 := by
  unfold ownerMain
  split
  · rename_i receiving
    split
    · rename_i request rest waiting
      exact .took receiving waiting
    · split <;> exact .went (by rw [receiving]; rfl) rfl (by simp [receiving]) (by simp)
  · rename_i request executing
    exact .answered executing
  · rename_i empty
    split <;> exact .went (by rw [empty]; rfl) rfl (by simp [empty]) (by simp)
  · rename_i upgraded
    exact .went (by rw [upgraded]; rfl) rfl (by simp [upgraded]) (by simp)
  · rename_i judged
    split <;> exact .went (by rw [judged]; rfl) rfl (by simp [judged]) (by simp)
  · rename_i left
    split
    · exact .finished left (.inr OwnerState.noConfusion)
    · exact .finished left (.inl rfl)
  · exact .same

variable (execute) in
theorem SessionOwner.exists_move (input : SessionInput Command) : ∃ output o',
    (sessionMachine execute).next o input = (output, o') ∧
      SessionMove execute o input output o' := by
  refine ⟨_, _, rfl, ?_⟩
  cases input with
  | owner => exact o.move_ownerMain
  | clone =>
    dsimp only
    split
    · exact .counted (by omega)
    · exact .same
  | dropHandle => exact .counted (by omega)
  | trySubmitOwned command =>
    dsimp only
    split
    · rename_i called
      obtain ⟨error, admission, listed, shut, rejected⟩ | ⟨running, live, accepted⟩ :=
        o.trySubmitOwned_cases command
      · rw [rejected]
        exact .refused listed (shut.imp_right fun closed => by simp [closed.1])
      · rw [accepted]
        exact .admitted called running live
    · exact .same
  | beginShutdown =>
    simp only [beginShutdown]
    split
    · split
      · exact .closed (by simp)
      · exact .same
    · exact .same
  | shutdownJoined =>
    dsimp only
    split
    · split
      · exact .closed (by simp)
      · exact .same
    · exact .same

end

/-! ## Custody of requests -/

/-- Where the accepted requests are, and what the completion channels hold. -/
structure Custody (execute : Store → Command → Except Fault Value × Store)
    (τ : List (SessionStep Command Value Fault Store))
    (o : SessionOwner Command Value Fault Store) : Prop where
  line : ∃ lost, acceptedRequests τ = executedRequests τ ++ (o.phase.inHand ++ o.queue) ++ lost ∧
    (o.phase ≠ .finished → lost = [])
  numbered : ∀ request ∈ acceptedRequests τ, request.completion < o.opened
  ascending : (acceptedRequests τ).Pairwise fun a b => a.completion < b.completion
  unopened : ∀ completion, o.opened ≤ completion → o.completions completion = .awaited
  waiting : ∀ request ∈ o.phase.inHand ++ o.queue, o.completions request.completion = .awaited
  answers : ∀ step ∈ τ, ∀ request result, step.output = .executed request result →
    result = (execute step.before.store request.command).1 ∧
      o.completions request.completion = .answered result
  refusals : ∀ step ∈ τ, ∀ command error, step.input = .trySubmitOwned command →
    step.output = .rejected error → error.command = command ∧
      (error.error = .queueFull ∨ error.error = .shuttingDown ∨ error.error = .unavailable) ∧
      step.before.opened < o.opened ∧
      ∀ request ∈ acceptedRequests τ, request.completion ≠ step.before.opened

theorem mem_executedRequests {τ : List (SessionStep Command Value Fault Store)}
    {request : OwnerRequest Command} :
    request ∈ executedRequests τ ↔
      ∃ step ∈ τ, ∃ result, step.output = .executed request result := by
  rw [executedRequests, mem_filterMap]
  refine exists_congr fun step => and_congr_right fun _ => ?_
  unfold executedRequest
  split
  · rename_i executed result output
    simp only [output, Option.some.injEq, SessionOutput.executed.injEq, exists_and_left,
      exists_eq', and_true]
  · rename_i other
    simp only [reduceCtorEq, false_iff, not_exists]
    exact fun result => other request result

variable {τ : List (SessionStep Command Value Fault Store)}
  {o o' : SessionOwner Command Value Fault Store} {request : OwnerRequest Command}

section

variable (custody : Custody execute τ o)
include custody

theorem Custody.quiet {input : SessionInput Command} (opened : o'.opened = o.opened)
    (completions : o'.completions = o.completions)
    (queued : o'.phase.inHand ++ o'.queue = o.phase.inHand ++ o.queue)
    (live : o'.phase ≠ .finished → o.phase ≠ .finished) :
    Custody execute (τ ++ [⟨o, input, .quiet, o'⟩]) o' := by
  have accepted : acceptedRequests (τ ++ [⟨o, input, .quiet, o'⟩]) = acceptedRequests τ := by
    rw [acceptedRequests_snoc]
    cases input <;> exact append_nil _
  have executed : executedRequests (τ ++ [⟨o, input, .quiet, o'⟩]) = executedRequests τ := by
    rw [executedRequests_snoc]
    exact append_nil _
  obtain ⟨lost, line, none⟩ := custody.line
  refine ⟨⟨lost, ?_, fun still => none (live still)⟩, ?_, ?_, ?_, ?_,
    forall_mem_snoc.mpr ⟨?_, by rintro _ _ ⟨⟩⟩, forall_mem_snoc.mpr ⟨?_, by rintro _ _ - ⟨⟩⟩⟩
  · rw [accepted, executed, queued, line]
  · rw [accepted, opened]
    exact custody.numbered
  · rw [accepted]
    exact custody.ascending
  · rw [opened, completions]
    exact custody.unopened
  · rw [queued, completions]
    exact custody.waiting
  · rw [completions]
    exact custody.answers
  · rw [accepted, opened]
    exact custody.refusals

theorem Custody.refused (command : Command) {error : SessionOwnerError Fault}
    {admission : Admission}
    (listed : error = .queueFull ∨ error = .shuttingDown ∨ error = .unavailable)
    (after : o' = { o with admission := admission, opened := o.opened + 1 }) :
    Custody execute (τ ++ [⟨o, .trySubmitOwned command, .rejected ⟨command, error⟩, o'⟩]) o' := by
  have accepted : acceptedRequests (τ ++ [⟨o, .trySubmitOwned command,
      .rejected ⟨command, error⟩, o'⟩]) = acceptedRequests τ :=
    (acceptedRequests_snoc _ _).trans (append_nil _)
  subst after
  refine ⟨?_, ?_, ?_, fun completion unopened =>
    custody.unopened completion (Nat.le_of_succ_le unopened), custody.waiting,
    forall_mem_snoc.mpr ⟨custody.answers, by rintro _ _ ⟨⟩⟩, forall_mem_snoc.mpr ⟨?_, ?_⟩⟩
  · simpa [accepted, executedRequests_snoc, executedRequest] using custody.line
  · rw [accepted]
    exact fun request member => (custody.numbered request member).trans (Nat.lt_succ_self _)
  · rw [accepted]
    exact custody.ascending
  · intro step earlier called refusal input output
    obtain ⟨unchanged, kind, before, never⟩ :=
      custody.refusals step earlier called refusal input output
    exact ⟨unchanged, kind, before.trans (Nat.lt_succ_self _), accepted ▸ never⟩
  · rintro _ _ ⟨⟩ ⟨⟩
    refine ⟨rfl, listed, Nat.lt_succ_self _, ?_⟩
    rw [accepted]
    exact fun request member => (custody.numbered request member).ne

theorem Custody.admitted (command : Command) (live : o.phase ≠ .finished)
    (after : o' = { o with
      opened := o.opened + 1
      queue := o.queue ++ [⟨command, o.opened⟩] }) :
    Custody execute (τ ++ [⟨o, .trySubmitOwned command, .accepted o.opened, o'⟩]) o' := by
  have accepted : acceptedRequests (τ ++ [⟨o, .trySubmitOwned command, .accepted o.opened, o'⟩]) =
      acceptedRequests τ ++ [⟨command, o.opened⟩] := acceptedRequests_snoc _ _
  subst after
  refine ⟨?_, ?_, ?_, fun completion unopened =>
    custody.unopened completion (Nat.le_of_succ_le unopened), ?_,
    forall_mem_snoc.mpr ⟨custody.answers, by rintro _ _ ⟨⟩⟩,
    forall_mem_snoc.mpr ⟨?_, by rintro _ _ - ⟨⟩⟩⟩
  · obtain ⟨lost, line, none⟩ := custody.line
    refine ⟨[], ?_, fun _ => rfl⟩
    simp [accepted, executedRequests_snoc, executedRequest, line, none live]
  · rw [accepted]
    exact forall_mem_snoc.mpr ⟨fun request member =>
      (custody.numbered request member).trans (Nat.lt_succ_self _), Nat.lt_succ_self _⟩
  · rw [accepted]
    simp only [pairwise_append, pairwise_singleton, mem_singleton, forall_eq, true_and]
    exact ⟨custody.ascending, custody.numbered⟩
  · change ∀ request ∈ o.phase.inHand ++ (o.queue ++ [⟨command, o.opened⟩]), _
    rw [← append_assoc]
    exact forall_mem_snoc.mpr ⟨custody.waiting, custody.unopened o.opened le_rfl⟩
  · intro step earlier called refusal input output
    obtain ⟨unchanged, kind, before, never⟩ :=
      custody.refusals step earlier called refusal input output
    refine ⟨unchanged, kind, before.trans (Nat.lt_succ_self _), ?_⟩
    rw [accepted]
    exact forall_mem_snoc.mpr ⟨never, before.ne'⟩

theorem Custody.apart (executing : o.phase = .executing request) :
    (∀ executed ∈ executedRequests τ, executed.completion ≠ request.completion) ∧
      ∀ queued ∈ o.queue, queued.completion ≠ request.completion := by
  obtain ⟨lost, line, -⟩ := custody.line
  have ascending := custody.ascending
  rw [line, executing, inHand, append_assoc, append_assoc,
    singleton_append, pairwise_append, pairwise_cons] at ascending
  obtain ⟨-, ⟨later, -⟩, earlier⟩ := ascending
  constructor
  · exact fun executed member => (earlier executed member request mem_cons_self).ne
  · exact fun queued member => (later queued (mem_append_left lost member)).ne'

theorem Custody.answered (executing : o.phase = .executing request) (after : o' = { o with
      store := (execute o.store request.command).2
      completions := Function.update o.completions request.completion
        (.answered (execute o.store request.command).1)
      phase := .receiving }) :
    Custody execute
      (τ ++ [⟨o, .owner, .executed request (execute o.store request.command).1, o'⟩]) o' := by
  subst after
  obtain ⟨earlier, queued⟩ := custody.apart executing
  obtain ⟨lost, line, none⟩ := custody.line
  refine ⟨⟨[], ?_, fun _ => rfl⟩, ?_, ?_, ?_, ?_,
    forall_mem_snoc.mpr ⟨?_, ?_⟩, forall_mem_snoc.mpr ⟨?_, by rintro _ _ - ⟨⟩⟩⟩
  · simp [acceptedRequests_snoc, executedRequests_snoc, acceptedRequest, executedRequest, line,
      none (by simp [executing]), executing, inHand]
  · simpa [acceptedRequests_snoc, acceptedRequest] using custody.numbered
  · simpa [acceptedRequests_snoc, acceptedRequest] using custody.ascending
  · intro completion unopened
    have opened : request.completion < o.opened :=
      custody.numbered request (by rw [line, executing]; simp [inHand])
    have other : completion ≠ request.completion := (opened.trans_le unopened).ne'
    exact (Function.update_of_ne other _ _).trans (custody.unopened completion unopened)
  · intro waiting member
    refine (Function.update_of_ne (queued waiting member) _ _).trans ?_
    exact custody.waiting waiting (mem_append_right _ member)
  · intro step before other result output
    obtain ⟨own, held⟩ := custody.answers step before other result output
    have executed : other ∈ executedRequests τ :=
      mem_executedRequests.mpr ⟨step, before, result, output⟩
    exact ⟨own, (Function.update_of_ne (earlier other executed) _ _).trans held⟩
  · rintro _ _ ⟨⟩
    exact ⟨rfl, Function.update_self _ _ _⟩
  · simpa [acceptedRequests_snoc, acceptedRequest] using custody.refusals

theorem Custody.finished (left : o.phase = .left) {admission : Admission}
    (after : o' = dropReceiver { o with admission := admission }) :
    Custody execute (τ ++ [⟨o, .owner, .quiet, o'⟩]) o' := by
  subst after
  obtain ⟨lost, line, none⟩ := custody.line
  have idle : o.phase.inHand = [] := by rw [left]; rfl
  rw [idle, none (by simp [left]), append_nil, nil_append] at line
  have ascending := custody.ascending
  rw [line, pairwise_append] at ascending
  obtain ⟨-, -, apart⟩ := ascending
  -- the channels of what waited are closed, and no others
  have kept : ∀ completion, (∀ waiting ∈ o.queue, waiting.completion ≠ completion) →
      (dropReceiver { o with admission := admission }).completions completion =
        o.completions completion := by
    intro completion distinct
    refine if_neg ?_
    rw [contains_iff_mem, mem_map]
    rintro ⟨waiting, queued, same⟩
    exact distinct waiting queued same
  refine ⟨⟨o.queue, ?_, fun live => absurd rfl live⟩, ?_, ?_, ?_,
    fun request member => absurd member not_mem_nil,
    forall_mem_snoc.mpr ⟨?_, by rintro _ _ ⟨⟩⟩, forall_mem_snoc.mpr ⟨?_, by rintro _ _ - ⟨⟩⟩⟩
  · simpa [acceptedRequests_snoc, executedRequests_snoc, acceptedRequest, executedRequest,
      dropReceiver, inHand] using line
  · simpa [acceptedRequests_snoc, acceptedRequest, dropReceiver] using custody.numbered
  · simpa [acceptedRequests_snoc, acceptedRequest] using custody.ascending
  · intro completion unopened
    refine (kept completion fun waiting queued => ?_).trans (custody.unopened completion unopened)
    have opened := custody.numbered waiting (by rw [line]; exact mem_append_right _ queued)
    exact (opened.trans_le unopened).ne
  · intro step before request result output
    obtain ⟨own, held⟩ := custody.answers step before request result output
    have executed : request ∈ executedRequests τ :=
      mem_executedRequests.mpr ⟨step, before, result, output⟩
    exact ⟨own, (kept _ fun waiting queued =>
      (apart request executed waiting queued).ne').trans held⟩
  · simpa [acceptedRequests_snoc, acceptedRequest, dropReceiver] using custody.refusals

theorem Custody.next (input : SessionInput Command) :
    Custody execute (τ ++ [(sessionMachine execute).step o input])
      ((sessionMachine execute).next o input).2 := by
  obtain ⟨output, o', next, move⟩ := o.exists_move execute input
  simp only [Machine.step, next]
  cases move with
  | counted | closed => exact custody.quiet rfl rfl rfl id
  | refused listed => exact custody.refused _ listed rfl
  | admitted _ _ live => exact custody.admitted _ live rfl
  | took receiving waiting =>
    refine custody.quiet rfl rfl ?_ fun _ => by simp [receiving]
    rw [receiving, waiting]
    rfl
  | answered executing => exact custody.answered executing rfl
  | went idle still before =>
    refine custody.quiet rfl rfl ?_ fun _ => before
    rw [idle, still]
  | finished left => exact custody.finished left rfl

end

theorem Custody.of_run {capacity : ℕ} {store : Store}
    (run : (sessionMachine execute).Run (.new capacity store) τ o) : Custody execute τ o := by
  refine run.history ?_ fun τ o input _ custody => custody.next input
  exact ⟨⟨[], rfl, fun _ => rfl⟩, by simp [acceptedRequests], by simp [acceptedRequests],
    fun _ _ => rfl, by simp [new, inHand], by simp, by simp⟩

end Ariax
