import Mathlib.Order.Defs.Unbundled

/-!
# Fallible calls on a mutable state

A method that takes `&mut self` and returns a `Result` is a computation of
`EStateM`: an early return with an error keeps whatever was written before
it. The weakest precondition below says what has to hold before a call so
that one postcondition holds if it returns and another if it fails; it has
one rewrite rule for each way a call is put together.
-/

namespace Ariax

variable {ε σ α β : Type}

/-- The value of an option, or an early return with an error. -/
def orThrow (value : Option α) (error : ε) : EStateM ε σ α :=
  value.elim (throw error) pure

/-- An early return with an error when a condition holds. -/
def throwIf (p : Prop) [Decidable p] (error : ε) : EStateM ε σ Unit :=
  if p then throw error else pure ()

/-- The states from which a call that returns ends in `post` and one that fails in `fails`. -/
def wp (call : EStateM ε σ α) (post : α → σ → Prop) (fails : ε → σ → Prop) (s : σ) : Prop :=
  (∀ a s', call s = .ok a s' → post a s') ∧ ∀ e s', call s = .error e s' → fails e s'

/-- The states from which a call ends in `post`, whether it returns or fails. -/
abbrev wpEnds (call : EStateM ε σ α) (post : σ → Prop) : σ → Prop :=
  wp call (fun _ => post) fun _ => post

variable {post : α → σ → Prop} {fails : ε → σ → Prop} {s : σ}

@[simp] theorem wp_pure {a : α} : wp (pure a) post fails s ↔ post a s := by
  simp only [wp, pure, EStateM.pure, EStateM.Result.ok.injEq, reduceCtorEq, false_implies,
    implies_true, and_true]
  exact ⟨fun h => h a s ⟨rfl, rfl⟩, by rintro h _ _ ⟨rfl, rfl⟩; exact h⟩

variable {next : PUnit → EStateM ε σ α} {call : EStateM ε σ β} {p : Prop} {e : ε} {_ : Decidable p}

@[simp] theorem wp_throw : wp (throw e : EStateM ε σ α) post fails s ↔ fails e s := by
  have failed : (throw e : EStateM ε σ α) s = .error e s := rfl
  simp only [wp, failed, reduceCtorEq, false_implies, implies_true, true_and,
    EStateM.Result.error.injEq]
  exact ⟨fun h => h e s ⟨rfl, rfl⟩, by rintro h _ _ ⟨rfl, rfl⟩; exact h⟩

@[simp] theorem wp_bind {next : β → EStateM ε σ α} :
    wp (call >>= next) post fails s ↔ wp call (fun b => wp (next b) post fails) fails s := by
  simp only [wp, bind, EStateM.bind]
  cases call s with
  | ok | error => simp

@[simp] theorem wp_map {f : β → α} :
    wp (f <$> call) post fails s ↔ wp call (fun b => post (f b)) fails s := by
  simp only [wp, Functor.map, EStateM.map]
  cases call s with
  | ok | error => simp

/-- A call that starts by reading the state. -/
theorem get_bind_run (next : σ → EStateM ε σ α) (s : σ) : (get >>= next) s = next s s := rfl

@[simp] theorem wp_get {post : σ → σ → Prop} : wp (get : EStateM ε σ σ) post fails s ↔ post s s :=
  wp_pure

@[simp] theorem wp_set {post : PUnit → σ → Prop} {s' : σ} :
    wp (set s' : EStateM ε σ PUnit) post fails s ↔ post ⟨⟩ s' :=
  wp_pure (s := s')

@[simp] theorem wp_modify {post : PUnit → σ → Prop} {f : σ → σ} :
    wp (modify f : EStateM ε σ PUnit) post fails s ↔ post ⟨⟩ (f s) :=
  wp_pure (s := f s)

@[simp] theorem wp_orThrow {value : Option α} : wp (orThrow value e) post fails s ↔
      (∀ a, value = some a → post a s) ∧ (value = none → fails e s) := by
  cases value <;> simp [orThrow]

@[simp] theorem wp_throwIf {post : Unit → σ → Prop} :
    wp (throwIf p e) post fails s ↔ (p → fails e s) ∧ (¬p → post () s) := by
  unfold throwIf
  split <;> simp [*]

theorem wp_ite {x y : EStateM ε σ α} : wp (if p then x else y) post fails s ↔
      (p → wp x post fails s) ∧ (¬p → wp y post fails s) := by
  split <;> simp [*]

/-! ## Statements before the rest of a call -/

theorem wp_get_bind {next : σ → EStateM ε σ α} (rest : wp (next s) post fails s) :
    wp (get >>= next) post fails s :=
  wp_bind.mpr (wp_get.mpr rest)

theorem wp_set_bind {s' : σ} (rest : wp (next ⟨⟩) post fails s') :
    wp (set s' >>= next) post fails s :=
  wp_bind.mpr (wp_set.mpr rest)

theorem wp_modify_bind {f : σ → σ} (rest : wp (next ⟨⟩) post fails (f s)) :
    wp (modify f >>= next) post fails s :=
  wp_bind.mpr (wp_modify.mpr rest)

theorem wp_orThrow_bind {value : Option β} {next : β → EStateM ε σ α} (throws : fails e s)
    (rest : ∀ b, value = some b → wp (next b) post fails s) :
    wp (orThrow value e >>= next) post fails s :=
  wp_bind.mpr (wp_orThrow.mpr ⟨rest, fun _ => throws⟩)

theorem wp_throwIf_bind {next : Unit → EStateM ε σ α} (throws : fails e s)
    (rest : ¬p → wp (next ()) post fails s) : wp (throwIf p e >>= next) post fails s :=
  wp_bind.mpr (wp_throwIf.mpr ⟨fun _ => throws, rest⟩)

/-! ## Composition -/

/-- A postcondition may be weakened. -/
theorem wp.mono {call : EStateM ε σ α} {post' : α → σ → Prop} {fails' : ε → σ → Prop}
    (h : wp call post fails s) (returns : ∀ a s', post a s' → post' a s')
    (throws : ∀ e s', fails e s' → fails' e s') : wp call post' fails' s :=
  ⟨fun a s' run => returns a s' (h.1 a s' run), fun e s' run => throws e s' (h.2 e s' run)⟩

theorem wp.imp {call : EStateM ε σ α} {P Q : σ → Prop} (h : wpEnds call P s)
    (weaker : ∀ s', P s' → Q s') : wpEnds call Q s :=
  h.mono (fun _ => weaker) fun _ => weaker

/-- A loop that keeps an invariant of the state in each of its iterations keeps it. -/
theorem wp_forM {ι : Type} {body : ι → EStateM ε σ PUnit} {P : σ → Prop} {l : List ι}
    (each : ∀ i s, P s → wp (body i) (fun _ => P) fails s) (h : P s) :
    wp (forM l body) (fun _ => P) fails s := by
  induction l generalizing s with
  | nil => exact wp_pure.mpr h
  | cons i rest ih =>
    rw [List.forM_cons, wp_bind]
    exact (each i s h).mono (fun _ _ kept => ih kept) fun _ _ failed => failed

/-!
## What a call does to the state

A call tracks a relation if the state before it and the state after it are
related, whether it returns or fails. When the relation is reflexive and
transitive, a call that is put together from such calls is one again, so
that what a method can do is read off its statements one by one. The
relation that a view of the state is unchanged says which part of the state
a call leaves alone.
-/

variable {τ : Type}

/-- A call leads from each state to one it is related to. -/
def Tracks (R : σ → σ → Prop) (call : EStateM ε σ α) : Prop :=
  ∀ s, wpEnds call (R s) s

/-- Two states look the same. -/
def SameView (f : σ → τ) (s s' : σ) : Prop := f s' = f s

instance (f : σ → τ) : Std.Refl (SameView f) := ⟨fun _ => rfl⟩

instance (f : σ → τ) : IsTrans σ (SameView f) := ⟨fun _ _ _ first second => second.trans first⟩

namespace Tracks

variable {R : σ → σ → Prop} {call : EStateM ε σ α}

section

variable (tracks : Tracks R call)
include tracks

/-- The states a call ends in are those related to the one it started in. -/
theorem spec {post : α → σ → Prop} {fails : ε → σ → Prop} {s : σ}
    (returns : ∀ a s', R s s' → post a s') (throws : ∀ e s', R s s' → fails e s') :
    wp call post fails s :=
  (tracks s).mono returns throws

theorem mono {Q : σ → σ → Prop} (weaker : ∀ s s', R s s' → Q s s') :
    Tracks Q call := fun s =>
  (tracks s).imp (weaker s)

/-- After a first part of a call, the rest of it goes on from a related state. -/
theorem after [IsTrans σ R] {s₀ s : σ} (before : R s₀ s) :
    wpEnds call (R s₀) s :=
  (tracks s).imp fun _ => IsTrans.trans _ _ _ before

theorem map {f : α → β} : Tracks R (f <$> call) := fun s =>
  wp_map.mpr (tracks s)

end

/-! ### How calls are put together -/

theorem modify {f : σ → σ} (each : ∀ s, R s (f s)) :
    Tracks R (modify f : EStateM ε σ PUnit) := fun s =>
  wp_modify.mpr (each s)

section Reflexive

variable [Std.Refl R]

theorem pure {a : α} : Tracks R (pure a : EStateM ε σ α) := fun s =>
  wp_pure.mpr (Std.Refl.refl s)

theorem throw {e : ε} : Tracks R (throw e : EStateM ε σ α) := fun s =>
  wp_throw.mpr (Std.Refl.refl s)

theorem get : Tracks R (get : EStateM ε σ σ) := fun s =>
  wp_get.mpr (Std.Refl.refl s)

theorem orThrow {value : Option α} {e : ε} : Tracks R (orThrow value e : EStateM ε σ α) :=
  fun s => wp_orThrow.mpr ⟨fun _ _ => Std.Refl.refl s, fun _ => Std.Refl.refl s⟩

theorem throwIf {p : Prop} {_ : Decidable p} {e : ε} :
    Tracks R (throwIf p e : EStateM ε σ Unit) := fun s =>
  wp_throwIf.mpr ⟨fun _ => Std.Refl.refl s, fun _ => Std.Refl.refl s⟩

end Reflexive

theorem ite {p : Prop} {_ : Decidable p} {x y : EStateM ε σ α} (holds : p → Tracks R x)
    (fails : ¬p → Tracks R y) : Tracks R (if p then x else y) := by
  split
  · exact holds ‹_›
  · exact fails ‹_›

/-- What a call does after reading the state is known for that state. -/
theorem get_bind {next : σ → EStateM ε σ α}
    (rest : ∀ s, wpEnds (next s) (R s) s) :
    Tracks R (MonadState.get >>= next) := fun s =>
  wp_bind.mpr (wp_get.mpr (rest s))

variable [IsTrans σ R]

theorem bind {next : α → EStateM ε σ β} (first : Tracks R call) (rest : ∀ a, Tracks R (next a)) :
    Tracks R (call >>= next) := fun _ =>
  wp_bind.mpr (first.spec (fun a _ before => (rest a).after before) fun _ _ before => before)

theorem forM [Std.Refl R] {ι : Type} {body : ι → EStateM ε σ PUnit} {l : List ι}
    (each : ∀ i ∈ l, Tracks R (body i)) : Tracks R (forM l body) := by
  induction l with
  | nil => exact Tracks.pure
  | cons i rest ih =>
    exact (each i List.mem_cons_self).bind fun _ =>
      ih fun j member => each j (List.mem_cons_of_mem _ member)

theorem mapM [Std.Refl R] {ι : Type} {body : ι → EStateM ε σ α} {l : List ι}
    (each : ∀ i ∈ l, Tracks R (body i)) : Tracks R (l.mapM body) := by
  induction l with
  | nil => exact Tracks.pure
  | cons i rest ih =>
    rw [List.mapM_cons]
    refine (each i List.mem_cons_self).bind fun _ => ?_
    exact (ih fun j member => each j (List.mem_cons_of_mem _ member)).bind fun _ => Tracks.pure

end Tracks

end Ariax
