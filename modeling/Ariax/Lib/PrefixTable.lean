import Mathlib.Data.BitVec
import Mathlib.Data.List.Pairwise

/-!
# Tables of address prefixes

A row of a table covers the addresses that agree with its network in as many
leading bits as its length says. A table that lists longer networks first is
searched from the front: the first row that matches is a longest one, and if
no network is listed twice with different contents it says what every
longest row says.
-/

namespace Ariax

open BitVec

/-- The masked address is the network. -/
def prefixMatches {w : ℕ} (value network : BitVec w) (length : ℕ) : Bool :=
  if length = 0 then true else value &&& (allOnes w <<< (w - length)) == network

structure PrefixRow (w : ℕ) (κ : Type) where
  network : BitVec w
  length : ℕ
  kind : κ
  deriving DecidableEq

namespace PrefixRow

variable {w : ℕ} {κ : Type}

/-- The leading bits of the address are those of the network. -/
def Covers (row : PrefixRow w κ) (value : BitVec w) : Prop :=
  value.toNat / 2 ^ (w - row.length) = row.network.toNat / 2 ^ (w - row.length)

instance (row : PrefixRow w κ) (value : BitVec w) : Decidable (row.Covers value) :=
  inferInstanceAs (Decidable (_ = _))

/-- The network has no bit outside its length. -/
def Canonical (row : PrefixRow w κ) : Prop :=
  row.length ≤ w ∧ row.network.toNat % 2 ^ (w - row.length) = 0

instance (row : PrefixRow w κ) : Decidable row.Canonical := inferInstanceAs (Decidable (_ ∧ _))

end PrefixRow

section Masks

variable {w : ℕ}

theorem toNat_and_allOnes_shiftLeft (value : BitVec w) (k : ℕ) :
    (value &&& (allOnes w <<< k)).toNat = value.toNat / 2 ^ k * 2 ^ k := by
  rw [← shiftLeft_ushiftRight, toNat_shiftLeft, toNat_ushiftRight,
    Nat.shiftRight_eq_div_pow, Nat.shiftLeft_eq]
  exact Nat.mod_eq_of_lt ((Nat.div_mul_le_self _ _).trans_lt value.isLt)

theorem toNat_shiftLeft_of_lt {value : BitVec w} {k : ℕ} (fits : value.toNat * 2 ^ k < 2 ^ w) :
    (value <<< k).toNat = value.toNat * 2 ^ k := by
  rw [toNat_shiftLeft, Nat.shiftLeft_eq, Nat.mod_eq_of_lt fits]

/-- Fields that do not overlap are joined by adding them. -/
theorem toNat_or_of_aligned {high low : BitVec w} (k : ℕ) (aligned : high.toNat % 2 ^ k = 0)
    (small : low.toNat < 2 ^ k) : (high ||| low).toNat = high.toNat + low.toNat := by
  have shifted : high.toNat = (high.toNat / 2 ^ k) <<< k := by
    rw [Nat.shiftLeft_eq, Nat.div_mul_cancel (Nat.dvd_of_mod_eq_zero aligned)]
  rw [toNat_or, shifted, Nat.shiftLeft_add_eq_or_of_lt small]

theorem prefixMatches_iff {κ : Type} {row : PrefixRow w κ} (canonical : row.Canonical)
    (value : BitVec w) : prefixMatches value row.network row.length = true ↔ row.Covers value := by
  obtain ⟨short, low⟩ := canonical
  rw [prefixMatches, PrefixRow.Covers]
  by_cases empty : row.length = 0
  · have zero (x : BitVec w) : x.toNat / 2 ^ w = 0 := Nat.div_eq_of_lt x.isLt
    simp [empty, zero]
  · rw [if_neg empty, beq_iff_eq, ← toNat_inj, toNat_and_allOnes_shiftLeft]
    have network := Nat.div_mul_cancel (Nat.dvd_of_mod_eq_zero low)
    constructor
    · intro same
      rw [← same, Nat.mul_div_cancel _ (Nat.two_pow_pos _)]
    · intro same
      rw [same, network]

end Masks

namespace PrefixRow

variable {w : ℕ} {κ : Type} {table : List (PrefixRow w κ)} {value : BitVec w}

/-- Of the rows that cover an address this one has the longest network. -/
structure Longest (table : List (PrefixRow w κ)) (value : BitVec w) (row : PrefixRow w κ) :
    Prop where
  listed : row ∈ table
  covers : row.Covers value
  longest : ∀ other ∈ table, other.Covers value → other.length ≤ row.length

/-- A table that is searched from the front: networks have no stray bits,
longer ones come first, and one that is listed twice has one kind. -/
structure Searchable (table : List (PrefixRow w κ)) : Prop where
  canonical : ∀ row ∈ table, row.Canonical
  ordered : table.Pairwise fun row later => later.length ≤ row.length
  single : ∀ row ∈ table, ∀ other ∈ table,
    row.length = other.length → row.network = other.network → row.kind = other.kind

/-- The first row of the table that the address matches. -/
def lookup (table : List (PrefixRow w κ)) (value : BitVec w) : Option (PrefixRow w κ) :=
  table.find? fun row => prefixMatches value row.network row.length

variable (searchable : Searchable table)
include searchable

theorem longest_of_lookup {row : PrefixRow w κ} (found : lookup table value = some row) :
    Longest table value row := by
  obtain ⟨matched, earlier, later, split, unmatched⟩ := List.find?_eq_some_iff_append.mp found
  have listed : row ∈ table := List.mem_of_find?_eq_some found
  refine ⟨listed, (prefixMatches_iff (searchable.canonical row listed) value).mp matched, ?_⟩
  intro other member covers
  have matching := (prefixMatches_iff (searchable.canonical other member) value).mpr covers
  rw [split, List.mem_append, List.mem_cons] at member
  rcases member with before | rfl | after
  · have missed := unmatched other before
    rw [matching] at missed
    cases missed
  · exact le_rfl
  · have ordered := searchable.ordered
    rw [split, List.pairwise_append, List.pairwise_cons] at ordered
    exact ordered.2.1.1 other after

theorem not_covers_of_lookup (missing : lookup table value = none) :
    ∀ row ∈ table, ¬row.Covers value := by
  intro row member covers
  have matching := (prefixMatches_iff (searchable.canonical row member) value).mpr covers
  exact List.find?_eq_none.mp missing row member matching

/-- Two longest rows are one network, so they say the same. -/
theorem Longest.kind_eq {row other : PrefixRow w κ} (first : Longest table value row)
    (second : Longest table value other) : row.kind = other.kind := by
  have length : row.length = other.length :=
    le_antisymm (second.longest row first.listed first.covers)
      (first.longest other second.listed second.covers)
  have high : row.network.toNat / 2 ^ (w - row.length) =
      other.network.toNat / 2 ^ (w - other.length) :=
    first.covers.symm.trans (by rw [length]; exact second.covers)
  refine searchable.single row first.listed other second.listed length ?_
  apply eq_of_toNat_eq
  have low := (searchable.canonical row first.listed).2
  have low' := (searchable.canonical other second.listed).2
  rw [← Nat.div_mul_cancel (Nat.dvd_of_mod_eq_zero low),
    ← Nat.div_mul_cancel (Nat.dvd_of_mod_eq_zero low'), high, length]

end PrefixRow

end Ariax
