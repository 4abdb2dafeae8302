import Mathlib.Data.List.Nodup
import Mathlib.Data.List.InsertIdx

/-!
# Families of lists that classify their elements

A family of lists indexed by classes *classifies* elements by a partial
function when no list has a duplicate and an element is in a list exactly
when the function gives it that list's class; an element without a class is
in no list. The rules say how a classification follows an element that
changes its class, enters at a position, or changes its place inside its list.
-/

namespace Ariax

variable {ι α : Type*}

/-- Every list of the family has exactly the elements of its class, each once. -/
structure Classifies (lists : ι → List α) (classOf : α → Option ι) : Prop where
  nodup : ∀ c, (lists c).Nodup
  mem_iff : ∀ c a, a ∈ lists c ↔ classOf a = some c

namespace Classifies

variable {lists : ι → List α} {classOf : α → Option ι} (h : Classifies lists classOf)
include h

theorem congr {classOf' : α → Option ι}
    (same : ∀ a, classOf' a = classOf a) : Classifies lists classOf' :=
  ⟨h.nodup, fun c a => by rw [same, h.mem_iff]⟩

theorem not_mem {a : α} (free : classOf a = none) (c : ι) :
    a ∉ lists c := by
  rw [h.mem_iff, free]
  simp

section Counting

variable [DecidableEq α]

/-- A classified element occurs once in the list of its class. -/
theorem count_eq_one {a : α} {c : ι}
    (ha : classOf a = some c) : (lists c).count a = 1 :=
  List.count_eq_one_of_mem (h.nodup c) ((h.mem_iff c a).mpr ha)

/-- A classified element occurs in no other list. -/
theorem count_eq_zero {a : α} {c : ι}
    (ha : classOf a ≠ some c) : (lists c).count a = 0 :=
  List.count_eq_zero_of_not_mem fun hmem => ha ((h.mem_iff c a).mp hmem)

end Counting

variable [DecidableEq ι]

/-- The members of one list change their order. -/
theorem reorder {c : ι} {order : List α}
    (same : order.Perm (lists c)) : Classifies (Function.update lists c order) classOf := by
  refine ⟨fun d => ?_, fun d b => ?_⟩
  · by_cases hd : d = c
    · subst hd
      simpa [same.nodup_iff] using h.nodup d
    · simpa [hd] using h.nodup d
  · by_cases hd : d = c
    · subst hd
      simp [same.mem_iff, h.mem_iff]
    · simp [hd, h.mem_iff]

variable [DecidableEq α]

/-- The family after an element has left the list of one class and joined the
end of the list of another. -/
def moved (lists : ι → List α) (a : α) (source target : Option ι) (c : ι) : List α :=
  if source = target then lists c
  else if target = some c then lists c ++ [a]
  else if source = some c then (lists c).erase a
  else lists c

/-- An element changes its class. -/
theorem move (a : α) (target : Option ι) :
    Classifies (moved lists a (classOf a) target) (Function.update classOf a target) := by
  by_cases same : classOf a = target
  · have unchanged : moved lists a (classOf a) target = lists := funext fun c => by
      simp [moved, same]
    rw [unchanged, ← same, Function.update_eq_self]
    exact h
  refine ⟨fun c => ?_, fun c b => ?_⟩
  · unfold moved
    split_ifs with entered left
    · have fresh : a ∉ lists c := fun hmem =>
        same (((h.mem_iff c a).mp hmem).trans entered.symm)
      exact (h.nodup c).append (List.nodup_singleton a) (by simpa using fresh)
    · exact (h.nodup c).erase a
    · exact h.nodup c
  · unfold moved
    by_cases hb : b = a
    · subst hb
      split_ifs with entered left
      · simp [entered]
      · simp [(h.nodup c).mem_erase_iff, entered]
      · simp [h.mem_iff, entered, left]
    · rw [Function.update_of_ne hb, ← h.mem_iff c b]
      split_ifs with entered left
      · simp [hb]
      · simp [(h.nodup c).mem_erase_iff, hb]
      · rfl

/-- An element without a class enters a list at some position. -/
theorem enter {a : α} (free : classOf a = none) (c : ι)
    {position : ℕ} (bound : position ≤ (lists c).length) :
    Classifies (Function.update lists c ((lists c).insertIdx position a))
      (Function.update classOf a (some c)) := by
  have fresh := h.not_mem free c
  refine ⟨fun d => ?_, fun d b => ?_⟩
  · by_cases hd : d = c
    · subst hd
      rw [Function.update_self, (List.perm_insertIdx a (lists d) bound).nodup_iff]
      exact List.nodup_cons.mpr ⟨fresh, h.nodup d⟩
    · simpa [hd] using h.nodup d
  · by_cases hd : d = c
    · subst hd
      rw [Function.update_self, List.mem_insertIdx bound]
      by_cases hb : b = a
      · simp [hb]
      · simp [hb, h.mem_iff]
    · by_cases hb : b = a
      · subst hb
        simp [hd, h.not_mem free, Ne.symm hd]
      · simp [hd, hb, h.mem_iff]

end Classifies

end Ariax
