import Mathlib.Algebra.BigOperators.Group.Finset.Basic
import Mathlib.Algebra.GroupWithZero.Nat
import Mathlib.Data.Fin.Basic

/-!
# Ordered maps

Finite maps over a linear order with extensional equality, as provided by
`Std.ExtTreeMap`, with the lookup rules stated through equality of keys
and the enumeration of values in key order.
-/

namespace Ariax

open Std.ExtTreeMap

/-- A finite map whose keys are enumerated in increasing order. -/
abbrev OrderedMap (κ : Type*) (ν : Type*) [LinearOrder κ] := Std.ExtTreeMap κ ν compare

namespace OrderedMap

variable {κ ν : Type*} [LinearOrder κ]

instance : Std.LawfulEqCmp (compare : κ → κ → Ordering) where
  eq_of_compare := compare_eq_iff_eq.mp

instance [DecidableEq ν] : DecidableEq (OrderedMap κ ν) := fun a b =>
  decidable_of_iff (a.toList = b.toList) toList_inj

variable {m n : OrderedMap κ ν} {k : κ}

section

variable [DecidableEq κ] {a : κ} {v w : ν}

theorem getElem?_insert (m : OrderedMap κ ν) (k a : κ) (v : ν) :
    (m.insert k v)[a]? = if k = a then some v else m[a]? := by
  by_cases h : k = a <;> simp [Std.ExtTreeMap.getElem?_insert, h]

theorem getElem?_erase (m : OrderedMap κ ν) (k a : κ) :
    (m.erase k)[a]? = if k = a then none else m[a]? := by
  by_cases h : k = a <;> simp [Std.ExtTreeMap.getElem?_erase, h]

theorem getElem?_insert_of_ne (other : k ≠ a) : (m.insert k v)[a]? = m[a]? := by
  rw [getElem?_insert, if_neg other]

theorem getElem?_erase_of_ne (other : k ≠ a) : (m.erase k)[a]? = m[a]? := by
  rw [getElem?_erase, if_neg other]

theorem getElem?_insert_eq_none :
    (m.insert k v)[a]? = none ↔ k ≠ a ∧ m[a]? = none := by
  rw [getElem?_insert]
  split <;> simp [*]

theorem getElem?_erase_of_none (gone : m[a]? = none) : (m.erase k)[a]? = none := by
  rw [getElem?_erase, gone, ite_self]

/-- A fold over distinct keys whose step on a key changes what that key is mapped to. -/
theorem getElem?_foldl {step : OrderedMap κ ν → κ → OrderedMap κ ν}
    {f : κ → Option ν → Option ν}
    (each : ∀ m k a, (step m k)[a]? = if k = a then f a m[a]? else m[a]?) {l : List κ}
    (nodup : l.Nodup) (m : OrderedMap κ ν) (a : κ) :
    (l.foldl step m)[a]? = if a ∈ l then f a m[a]? else m[a]? := by
  induction l generalizing m with
  | nil => simp
  | cons k rest ih =>
    rw [List.nodup_cons] at nodup
    rw [List.foldl_cons, ih nodup.2, each]
    by_cases same : k = a
    · subst same
      simp [nodup.1]
    · simp [same, Ne.symm same]

theorem getElem?_insert_eq_some :
    (m.insert k v)[a]? = some w ↔ a = k ∧ w = v ∨ a ≠ k ∧ m[a]? = some w := by
  rw [getElem?_insert]
  by_cases h : k = a
  · simp [h, eq_comm]
  · simp [h, Ne.symm h]

/-- What holds of an entry that is inserted, and of one that was there, holds of one that is there
now. -/
@[elab_as_elim]
theorem insert_rec {P : κ → ν → Prop} (there : (m.insert k v)[a]? = some w) (new : P k v)
    (old : m[a]? = some w → P a w) : P a w := by
  obtain ⟨rfl, rfl⟩ | ⟨-, there⟩ := getElem?_insert_eq_some.mp there
  · exact new
  · exact old there

theorem getElem?_erase_eq_some : (m.erase k)[a]? = some w ↔ a ≠ k ∧ m[a]? = some w := by
  rw [getElem?_erase]
  by_cases h : k = a
  · simp [h]
  · simp [h, Ne.symm h]

/-- What a map without a key is mapped to, the map is. -/
theorem getElem?_of_erase (a : κ) (w : ν) (there : (m.erase k)[a]? = some w) :
    m[a]? = some w :=
  (getElem?_erase_eq_some.mp there).2

end

theorem contains_eq_isSome (m : OrderedMap κ ν) (k : κ) : m.contains k = m[k]?.isSome := by
  simp

/-- A map with as many keys as another, all of which the other has, has all of them. -/
theorem isSome_of_size_eq {μ : Type*} {n : OrderedMap κ μ} (size : m.size = n.size)
    (sub : ∀ k : κ, m[k]?.isSome = true → n[k]?.isSome = true) (h : n[k]?.isSome = true) :
    m[k]?.isSome = true := by
  have keys : m.keys ⊆ n.keys := fun k hk => by
    rw [mem_keys, mem_iff_isSome_getElem?] at hk ⊢
    exact sub k hk
  have same : m.keys.Perm n.keys :=
    (List.subperm_of_subset nodup_keys keys).perm_of_length_le (by simp [size])
  rw [← mem_iff_isSome_getElem?, ← mem_keys] at h ⊢
  exact same.mem_iff.mpr h

/-- A map has at most as many keys as a list that contains them all. -/
theorem size_le_length {l : List κ} (sub : ∀ k : κ, m[k]?.isSome = true → k ∈ l) :
    m.size ≤ l.length := by
  have keys : m.keys ⊆ l := fun k hk => by
    rw [mem_keys, mem_iff_isSome_getElem?] at hk
    exact sub k hk
  simpa using (List.subperm_of_subset nodup_keys keys).length_le

def valuesInOrder (m : OrderedMap κ ν) : List ν := m.toList.map Prod.snd

@[simp] theorem valuesInOrder_empty : (∅ : OrderedMap κ ν).valuesInOrder = [] := by
  simp [valuesInOrder, ← List.length_eq_zero_iff]

theorem mem_valuesInOrder {v : ν} : v ∈ m.valuesInOrder ↔ ∃ k : κ, m[k]? = some v := by
  simp [valuesInOrder, mem_toList_iff_getElem?_eq_some]

def keysWhere (p : ν → Bool) (m : OrderedMap κ ν) : List κ := m.keys.filter fun k => m[k]?.any p

theorem mem_keysWhere {p : ν → Bool} : k ∈ m.keysWhere p ↔ m[k]?.any p = true := by
  rw [keysWhere, List.mem_filter, mem_keys,
    mem_iff_isSome_getElem?, and_iff_right_iff_imp]
  cases m[k]? <;> simp

theorem length_valuesInOrder (m : OrderedMap κ ν) : m.valuesInOrder.length = m.size := by
  simp [valuesInOrder]

def sumOf (f : ν → ℕ) (m : OrderedMap κ ν) : ℕ := (m.valuesInOrder.map f).sum

@[simp] theorem sumOf_empty (f : ν → ℕ) : (∅ : OrderedMap κ ν).sumOf f = 0 := by
  simp [sumOf]

/-- A sum over the values of a map is one over any keys that contain those of the map. -/
theorem sumOf_eq_sum (f : ν → ℕ) {s : Finset κ} (sub : ∀ k ∈ m.keys, k ∈ s) :
    m.sumOf f = ∑ k ∈ s, m[k]?.elim 0 f := by
  have keys : m.sumOf f = (m.keys.map fun k => m[k]?.elim 0 f).sum := by
    rw [sumOf, valuesInOrder, ← map_fst_toList_eq_keys, List.map_map, List.map_map]
    refine congrArg List.sum (List.map_congr_left fun entry member => ?_)
    have stored : m[entry.1]? = some entry.2 :=
      mem_toList_iff_getElem?_eq_some.mp member
    simp [stored]
  rw [keys, ← List.sum_toFinset _ nodup_keys]
  refine Finset.sum_subset (fun k member => sub k (List.mem_toFinset.mp member)) ?_
  intro k _ outside
  rw [List.mem_toFinset, mem_keys, mem_iff_isSome_getElem?,
    Option.not_isSome_iff_eq_none] at outside
  rw [outside]
  rfl

/-- How a sum changes when the weights of two maps are known to agree at all keys but one. -/
theorem sumOf_of_agree {f : ν → ℕ} (agree : ∀ a : κ, a ≠ k → n[a]?.elim 0 f = m[a]?.elim 0 f) :
    n.sumOf f + m[k]?.elim 0 f = m.sumOf f + n[k]?.elim 0 f := by
  let s := insert k (m.keys ++ n.keys).toFinset
  have inside : k ∈ s := Finset.mem_insert_self _ _
  have others : ∑ a ∈ s.erase k, n[a]?.elim 0 f = ∑ a ∈ s.erase k, m[a]?.elim 0 f :=
    Finset.sum_congr rfl fun a member => agree a (Finset.ne_of_mem_erase member)
  rw [sumOf_eq_sum f (s := s) fun a member => by simp [s, member],
    sumOf_eq_sum f (s := s) fun a member => by simp [s, member],
    ← Finset.sum_erase_add s _ inside, ← Finset.sum_erase_add s _ inside, others]
  omega

theorem sumOf_insert (f : ν → ℕ) (m : OrderedMap κ ν) (k : κ) (v : ν) :
    sumOf f (m.insert k v) + m[k]?.elim 0 f = m.sumOf f + f v := by
  have agree (a : κ) (other : a ≠ k) : (m.insert k v)[a]?.elim 0 f = m[a]?.elim 0 f := by
    rw [getElem?_insert, if_neg other.symm]
  simpa [getElem?_insert] using sumOf_of_agree agree

theorem sumOf_erase (f : ν → ℕ) (m : OrderedMap κ ν) (k : κ) :
    sumOf f (m.erase k) + m[k]?.elim 0 f = m.sumOf f := by
  have agree (a : κ) (other : a ≠ k) : (m.erase k)[a]?.elim 0 f = m[a]?.elim 0 f := by
    rw [getElem?_erase, if_neg other.symm]
  simpa [getElem?_erase] using sumOf_of_agree agree

/-! ## Counts -/

theorem countP_eq_sumOf (p : ν → Bool) (m : OrderedMap κ ν) :
    m.valuesInOrder.countP p = m.sumOf fun v => (p v).toNat := by
  rw [sumOf]
  induction m.valuesInOrder with
  | nil => rfl
  | cons v rest ih => cases h : p v <;> simp [h, ih, Nat.add_comm]

theorem elim_toNat (p : ν → Bool) (v : Option ν) :
    v.elim 0 (fun v => (p v).toNat) = (v.any p).toNat := by
  cases v <;> rfl

theorem countP_valuesInOrder_of_agree {p : ν → Bool}
    (agree : ∀ a : κ, a ≠ k → n[a]?.any p = m[a]?.any p) :
    n.valuesInOrder.countP p + (m[k]?.any p).toNat =
      m.valuesInOrder.countP p + (n[k]?.any p).toNat := by
  simp only [countP_eq_sumOf, ← elim_toNat]
  exact sumOf_of_agree fun a other => by rw [elim_toNat, elim_toNat, agree a other]

variable (p : ν → Bool) {v : ν}

theorem countP_insert_new (unused : m[k]? = none) :
    (valuesInOrder (m.insert k v)).countP p = m.valuesInOrder.countP p + (p v).toNat := by
  have change := sumOf_insert (fun v => (p v).toNat) m k v
  rw [unused] at change
  simp only [countP_eq_sumOf]
  exact change

theorem countP_insert_used {w : ν} (used : m[k]? = some w) :
    (valuesInOrder (m.insert k v)).countP p + (p w).toNat =
      m.valuesInOrder.countP p + (p v).toNat := by
  have change := sumOf_insert (fun v => (p v).toNat) m k v
  rw [used] at change
  simp only [countP_eq_sumOf]
  exact change

theorem countP_erase (used : m[k]? = some v) :
    (valuesInOrder (m.erase k)).countP p + (p v).toNat = m.valuesInOrder.countP p := by
  have change := sumOf_erase (fun v => (p v).toNat) m k
  rw [used] at change
  simp only [countP_eq_sumOf]
  exact change

end OrderedMap

end Ariax
