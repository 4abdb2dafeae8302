import Mathlib.Data.List.Induction

/-!
# Inversion of fallible computations

Rules that take a successful run of an `Except` computation apart: a bind
that succeeds ran both of its parts, and a guard that was passed did not
throw. With them a `do` block is read off as the facts its success implies.
A fold that succeeds carries a property of what it has read so far from one
element to the next.
-/

namespace Except

universe u v

variable {ε : Type u} {α β : Type v} {x : Except ε α}

theorem bind_eq_ok {f : α → Except ε β} {b : β} :
    (x >>= f) = .ok b ↔ ∃ a, x = .ok a ∧ f a = .ok b := by
  cases x <;> simp [bind, Except.bind]

theorem map_eq_ok {f : α → β} {b : β} : x.map f = .ok b ↔ ∃ a, x = .ok a ∧ f a = b := by
  cases x <;> simp [Except.map]

theorem mapError_eq_ok {ε' : Type*} {f : ε → ε'} {a : α} : x.mapError f = .ok a ↔ x = .ok a := by
  cases x <;> simp [Except.mapError]

@[simp] theorem pure_eq (a : α) : (pure a : Except ε α) = .ok a := rfl

@[simp] theorem ok_bind (a : α) (f : α → Except ε β) : (ok a >>= f) = f a := rfl

@[simp] theorem error_bind (e : ε) (f : α → Except ε β) : (error e >>= f) = .error e := rfl

/-- A guard that throws was passed by every run that succeeded. -/
theorem ite_error_eq_ok {p : Prop} {_ : Decidable p} {e : ε} {a : α} :
    (if p then .error e else x) = .ok a ↔ ¬p ∧ x = .ok a := by
  split <;> simp [*]

universe w

variable {ι : Type w} {f : ι → Except ε β} {l : List ι}

/-- What holds of the elements read and of the accumulator, when every
successful step keeps it, holds of a successful fold. -/
@[elab_as_elim]
theorem foldlM_history {motive : List ι → α → Prop} {f : α → ι → Except ε α} {a b : α}
    (h : l.foldlM f a = .ok b) (nil : motive [] a)
    (snoc : ∀ done a i b, motive done a → f a i = .ok b → motive (done ++ [i]) b) : motive l b := by
  induction l using List.reverseRecOn generalizing b with
  | nil =>
    obtain rfl := ok.inj h
    exact nil
  | append_singleton done i ih =>
    rw [List.foldlM_append] at h
    obtain ⟨c, earlier, last⟩ := bind_eq_ok.mp h
    obtain ⟨d, read, same⟩ := bind_eq_ok.mp last
    obtain rfl := ok.inj same
    exact snoc done c i _ (ih earlier) read

/-- A map that succeeds succeeded on every element. -/
theorem ok_of_mapM {bs : List β} (h : l.mapM f = .ok bs) {i : ι} (hi : i ∈ l) :
    ∃ b, f i = .ok b := by
  induction l generalizing bs with
  | nil => cases hi
  | cons j rest ih =>
    rw [List.mapM_cons] at h
    obtain ⟨b, first, h⟩ := bind_eq_ok.mp h
    obtain ⟨bs', others, -⟩ := bind_eq_ok.mp h
    rcases List.mem_cons.mp hi with rfl | hi
    · exact ⟨b, first⟩
    · exact ih others hi

/-- Every result of a map that succeeds is that of an element. -/
theorem exists_of_mem_mapM {bs : List β} (h : l.mapM f = .ok bs) {b : β} (hb : b ∈ bs) :
    ∃ i ∈ l, f i = .ok b := by
  induction l generalizing bs with
  | nil =>
    obtain rfl := ok.inj h
    cases hb
  | cons j rest ih =>
    rw [List.mapM_cons] at h
    obtain ⟨b', first, h⟩ := bind_eq_ok.mp h
    obtain ⟨bs', others, same⟩ := bind_eq_ok.mp h
    obtain rfl := ok.inj same
    rcases List.mem_cons.mp hb with rfl | hb
    · exact ⟨j, List.mem_cons_self, first⟩
    · obtain ⟨i, member, read⟩ := ih others hb
      exact ⟨i, List.mem_cons_of_mem _ member, read⟩

end Except

namespace Ariax

open Except List

universe u

variable {ε : Type u}

def rejectIf (p : Prop) [Decidable p] (error : ε) : Except ε Unit :=
  if p then .error error else .ok ()

variable {error : ε} {p : Prop} {_ : Decidable p}

theorem rejectIf_eq_ok {u : Unit} : rejectIf p error = .ok u ↔ ¬p := by
  unfold rejectIf
  split <;> simp [*]

@[simp] theorem rejectIf_of_not (h : ¬p) : rejectIf p error = .ok () :=
  rejectIf_eq_ok.mpr h

theorem rejectIf_eq_error {e : ε} : rejectIf p error = .error e ↔ p ∧ error = e := by
  unfold rejectIf
  split <;> simp [*]

def okOr {α : Type*} (value : Option α) (error : ε) : Except ε α := value.elim (.error error) .ok

theorem okOr_eq_ok {α : Type*} {value : Option α} {a : α} :
    okOr value error = .ok a ↔ value = some a := by
  cases value <;> simp [okOr]

@[simp] theorem okOr_some {α : Type*} (a : α) (error : ε) : okOr (some a) error = .ok a := rfl

/-- An element of a joined list is the separator or in one of the parts. -/
theorem mem_intercalate_singleton {α : Type*} {x c : α} {parts : List (List α)}
    (member : c ∈ [x].intercalate parts) : c = x ∨ ∃ part ∈ parts, c ∈ part := by
  induction parts with
  | nil => cases member
  | cons part rest ih =>
    cases rest with
    | nil =>
      rw [intercalate_singleton] at member
      exact .inr ⟨part, mem_cons_self, member⟩
    | cons =>
      rw [intercalate_cons_cons, mem_append, mem_append,
        mem_singleton] at member
      rcases member with (inside | separator) | later
      · exact .inr ⟨part, mem_cons_self, inside⟩
      · exact .inl separator
      · rcases ih later with separator | ⟨other, listed, inside⟩
        · exact .inl separator
        · exact .inr ⟨other, mem_cons_of_mem _ listed, inside⟩

end Ariax
