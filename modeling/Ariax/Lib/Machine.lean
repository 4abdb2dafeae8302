import Mathlib.Data.List.Basic
import Mathlib.Data.Set.Basic

/-!
# Deterministic machines and their runs

A machine has a set of initial states and a total function from a state and
an input to an output and the next state. A run records every step it took,
so that a property may speak about the history that led to a state. The
rules below carry a property along a run: over reachable states, over runs
all of whose steps satisfy a guard, and over the history together with the
state it ends in.
-/

namespace Ariax

open List

theorem mem_snoc {α : Type*} {l : List α} {a x : α} : x ∈ l ++ [a] ↔ x ∈ l ∨ x = a := by simp

theorem filterMap_snoc {α β : Type*} (f : α → Option β) (l : List α) (a : α) :
    (l ++ [a]).filterMap f = l.filterMap f ++ (f a).toList := by
  cases h : f a <;> simp [h]

theorem forall_mem_snoc {α : Type*} {P : α → Prop} {l : List α} {a : α} :
    (∀ x ∈ l ++ [a], P x) ↔ (∀ x ∈ l, P x) ∧ P a := by
  simp [or_imp, forall_and]

/-- One step of a machine as a run records it. -/
structure Step (σ ι ο : Type*) where
  before : σ
  input : ι
  output : ο
  after : σ

structure Machine (σ ι ο : Type*) where
  initial : Set σ
  next : σ → ι → ο × σ

namespace Machine

variable {σ ι ο : Type*} (M : Machine σ ι ο)

section

variable (s : σ) (i : ι)
include s i

def step : Step σ ι ο := ⟨s, i, (M.next s i).1, (M.next s i).2⟩

@[simp] theorem step_before : (M.step s i).before = s := rfl

@[simp] theorem step_input : (M.step s i).input = i := rfl

@[simp] theorem step_output : (M.step s i).output = (M.next s i).1 := rfl

@[simp] theorem step_after : (M.step s i).after = (M.next s i).2 := rfl

end

/-- The runs of a machine from a state, with the steps taken, oldest first. -/
inductive Run (s : σ) : List (Step σ ι ο) → σ → Prop
  | nil : Run s [] s
  | snoc {τ : List (Step σ ι ο)} {s' : σ} (run : Run s τ s') (i : ι) :
      Run s (τ ++ [M.step s' i]) (M.next s' i).2

/-- The steps a machine takes on a list of inputs, oldest first. -/
def trace (s : σ) : List ι → List (Step σ ι ο)
  | [] => []
  | i :: is => M.step s i :: trace (M.next s i).2 is

/-- The state a machine reaches on a list of inputs. -/
def final (s : σ) : List ι → σ
  | [] => s
  | i :: is => final (M.next s i).2 is

/-- A state some run from an initial state ends in. -/
def Reachable (s : σ) : Prop := ∃ s₀ ∈ M.initial, ∃ τ, M.Run s₀ τ s

/-- Every step of a history was taken in a state and on an input that satisfy a guard. -/
def Guarded (G : σ → ι → Prop) (τ : List (Step σ ι ο)) : Prop :=
  ∀ step ∈ τ, G step.before step.input

variable {M} {τ : List (Step σ ι ο)}
  {τ' : List (Step σ ι ο)} {P : σ → Prop} {s s₀ : σ} {G : σ → ι → Prop}

theorem guarded_snoc {step : Step σ ι ο} :
    Guarded G (τ ++ [step]) ↔ Guarded G τ ∧ G step.before step.input :=
  forall_mem_snoc

theorem Run.cons {s' : σ} {i : ι} (run : M.Run (M.next s i).2 τ s') :
    M.Run s (M.step s i :: τ) s' := by
  induction run with
  | nil => exact Run.nil.snoc i
  | snoc run j ih => exact ih.snoc j

theorem run_trace (s : σ) (is : List ι) : M.Run s (M.trace s is) (M.final s is) := by
  induction is generalizing s with
  | nil => exact .nil
  | cons i is ih => exact (ih _).cons

theorem trace_append (s : σ) (is js : List ι) :
    M.trace s (is ++ js) = M.trace s is ++ M.trace (M.final s is) js := by
  induction is generalizing s with
  | nil => rfl
  | cons i is ih => simp only [cons_append, trace, final, ih]

/-- What holds of a history and of the state it ends in, when every step keeps it. -/
theorem Run.history {P : List (Step σ ι ο) → σ → Prop} (run : M.Run s₀ τ s) (nil : P [] s₀)
    (snoc : ∀ τ s i, M.Run s₀ τ s → P τ s → P (τ ++ [M.step s i]) (M.next s i).2) : P τ s := by
  induction run with
  | nil => exact nil
  | snoc run i ih => exact snoc _ _ i run ih

/-- A property kept by every guarded step holds at the end of every guarded run. -/
theorem Run.guarded (run : M.Run s₀ τ s) (guards : Guarded G τ) (initial : P s₀)
    (step : ∀ s i, P s → G s i → P (M.next s i).2) : P s := by
  induction run with
  | nil => exact initial
  | snoc run i ih =>
    obtain ⟨earlier, last⟩ := guarded_snoc.mp guards
    exact step _ i (ih earlier) last

/-- A property kept by every step holds at the end of every run. -/
theorem Run.invariant (run : M.Run s₀ τ s) (initial : P s₀) (step : ∀ s i, P s → P (M.next s i).2) :
    P s :=
  run.guarded (G := fun _ _ => True) (fun _ _ => trivial) initial fun s i h _ => step s i h

theorem Reachable.invariant (h : M.Reachable s) (initial : ∀ s ∈ M.initial, P s)
    (step : ∀ s i, P s → P (M.next s i).2) : P s := by
  obtain ⟨s₀, h₀, τ, run⟩ := h
  exact run.invariant (initial s₀ h₀) step

/-- Every step of a run is the machine's answer to its input. -/
theorem Run.step_eq (run : M.Run s₀ τ s) {step : Step σ ι ο} (h : step ∈ τ) :
    step = M.step step.before step.input := by
  induction run with
  | nil => simp at h
  | snoc _ _ ih =>
    rcases mem_snoc.mp h with h | rfl
    · exact ih h
    · rfl

/-- A run passes through a state after each part of its history. -/
theorem Run.split (run : M.Run s₀ (τ ++ τ') s) : ∃ s' , M.Run s₀ τ s' ∧ M.Run s' τ' s := by
  generalize whole : τ ++ τ' = history at run
  induction run generalizing τ' with
  | nil =>
    obtain ⟨rfl, rfl⟩ := append_eq_nil_iff.mp whole
    exact ⟨s₀, .nil, .nil⟩
  | snoc run i ih =>
    rcases eq_nil_or_concat' τ' with rfl | ⟨init, last, rfl⟩
    · rw [append_nil] at whole
      subst whole
      exact ⟨_, run.snoc i, .nil⟩
    · rw [← append_assoc] at whole
      obtain ⟨earlier, same⟩ := append_inj' whole rfl
      obtain rfl := singleton_inj.mp same
      obtain ⟨s', before, after⟩ := ih earlier
      exact ⟨s', before, after.snoc i⟩

/-- The first step of a run. -/
theorem Run.uncons {s' : σ} {step : Step σ ι ο} (run : M.Run s (step :: τ) s') :
    step = M.step s step.input ∧ M.Run step.after τ s' := by
  obtain ⟨middle, first, rest⟩ := Run.split (τ := [step]) run
  generalize single : [step] = history at first
  cases first with
  | nil => cases single
  | snoc empty =>
    rw [← nil_append [step]] at single
    obtain ⟨none, same⟩ := append_inj' single rfl
    subst none
    obtain rfl := singleton_inj.mp same
    generalize none : [] = history at empty
    cases empty with
    | nil => exact ⟨rfl, rest⟩
    | snoc => simp at none

end Machine

end Ariax
