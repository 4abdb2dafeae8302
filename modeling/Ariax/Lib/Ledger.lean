import Ariax.Lib.Machine

/-!
# Numbers in one place

Numbers are given out in order. Each of them waits in a queue, is with one
holder, or is spent: what leaves the queue or a holder can be spent once.
-/

namespace Ariax

open List

structure Ledger {κ : Type} (queued spent : List ℕ) (holds : κ → ℕ → Prop) (next : ℕ) : Prop where
  once : (queued ++ spent).Nodup
  elsewhere : ∀ holder number, holds holder number → number ∉ queued ++ spent
  alone : ∀ holder other number, holds holder number → holds other number → holder = other
  queued_lt : ∀ number ∈ queued, number < next
  held_lt : ∀ holder number, holds holder number → number < next

namespace Ledger

variable {κ : Type} {queued queued' before after spent : List ℕ} {holds holds' : κ → ℕ → Prop}
  {next number : ℕ} (ledger : Ledger queued spent holds next)

section

include ledger

section

variable (fewer : queued'.Sublist queued)
  (sub : ∀ holder number, holds' holder number → holds holder number)
include fewer sub

theorem mono : Ledger queued' spent holds' next where
  once := (fewer.append_right spent).nodup ledger.once
  elsewhere holder number held member :=
    ledger.elsewhere holder number (sub holder number held)
      ((fewer.append_right spent).subset member)
  alone holder other number one two :=
    ledger.alone holder other number (sub holder number one) (sub other number two)
  queued_lt number member := ledger.queued_lt number (fewer.subset member)
  held_lt holder number held := ledger.held_lt holder number (sub holder number held)

/-- Numbers that have left the queue or their holders are spent. -/
theorem spend {more : List ℕ} (nodup : more.Nodup)
    (gone : ∀ number ∈ more, number ∈ queued ∧ number ∉ queued' ∨
      ∃ holder, holds holder number ∧ ¬holds' holder number) :
    Ledger queued' (spent ++ more) holds' next := by
  have left := ledger.mono fewer sub
  have apart : ∀ number ∈ more, number ∉ queued' ++ spent ∧ ∀ holder, ¬holds' holder number := by
    intro number member
    rcases gone number member with ⟨waited, taken⟩ | ⟨holder, held, free⟩
    · have unspent := (nodup_append.mp ledger.once).2.2 number waited number
      refine ⟨fun there => (mem_append.mp there).elim taken (unspent · rfl), fun holder held => ?_⟩
      exact ledger.elsewhere holder number (sub holder number held) (mem_append_left _ waited)
    · refine ⟨fun there => ?_, fun other kept => free ?_⟩
      · exact ledger.elsewhere holder number held ((fewer.append_right spent).subset there)
      · rwa [ledger.alone holder other number held (sub other number kept)]
  refine ⟨?_, fun holder number held => ?_, left.alone, left.queued_lt, left.held_lt⟩
  · rw [← append_assoc]
    refine nodup_append.mpr ⟨left.once, nodup, ?_⟩
    rintro number earlier _ later rfl
    exact (apart number later).1 earlier
  · rw [← append_assoc, mem_append, not_or]
    exact ⟨left.elsewhere holder number held, fun member => (apart number member).2 holder held⟩

end

theorem succ : Ledger queued spent holds (next + 1) :=
  { ledger with
    queued_lt := fun number member => Nat.lt_succ_of_lt (ledger.queued_lt number member)
    held_lt := fun holder number held => Nat.lt_succ_of_lt (ledger.held_lt holder number held) }

/-- The next number enters the queue. -/
theorem enter (spent_lt : ∀ number ∈ spent, number < next) :
    Ledger (queued ++ [next]) spent holds (next + 1) := by
  have moved : (queued ++ [next] ++ spent).Perm (next :: (queued ++ spent)) := by
    rw [append_assoc]
    exact perm_middle
  have fresh : next ∉ queued ++ spent := fun member =>
    (mem_append.mp member).elim (fun waits => (ledger.queued_lt next waits).ne rfl)
      fun gone => (spent_lt next gone).ne rfl
  refine ⟨moved.nodup_iff.mpr (nodup_cons.mpr ⟨fresh, ledger.once⟩), fun holder number held => ?_,
    ledger.alone, forall_mem_snoc.mpr ⟨ledger.succ.queued_lt, Nat.lt_succ_self next⟩,
    ledger.succ.held_lt⟩
  rw [moved.mem_iff, mem_cons, not_or]
  exact ⟨(ledger.held_lt holder number held).ne, ledger.elsewhere holder number held⟩

end

/-- A number goes from the queue to a holder. -/
theorem take (holder : κ) (ledger : Ledger (before ++ number :: after) spent holds next)
    (adds : ∀ other taken, holds' other taken → holds other taken ∨ other = holder ∧
      taken = number) : Ledger (before ++ after) spent holds' next := by
  have moved : (before ++ number :: after ++ spent).Perm
      (number :: (before ++ after ++ spent)) := by
    rw [append_assoc, append_assoc, cons_append]
    exact perm_middle
  have left := ledger.mono ((Sublist.refl before).append (sublist_cons_self number after))
    fun _ _ => id
  have vacant (other : κ) : ¬holds other number := fun held =>
    ledger.elsewhere other number held (by simp)
  refine ⟨left.once, fun other taken held => ?_, fun one two taken held held' => ?_, left.queued_lt,
    fun other taken held => ?_⟩
  · rcases adds other taken held with earlier | ⟨-, rfl⟩
    · exact left.elsewhere other taken earlier
    · exact (nodup_cons.mp (moved.nodup_iff.mp ledger.once)).1
  · rcases adds one taken held with earlier | ⟨mine, same⟩ <;>
      rcases adds two taken held' with earlier' | ⟨mine', same'⟩
    · exact ledger.alone one two taken earlier earlier'
    · exact absurd (same' ▸ earlier) (vacant one)
    · exact absurd (same ▸ earlier') (vacant two)
    · exact mine.trans mine'.symm
  · rcases adds other taken held with earlier | ⟨-, rfl⟩
    · exact ledger.held_lt other taken earlier
    · exact ledger.queued_lt taken (by simp)

end Ledger

/-!
## Lists in which one thing goes ahead of another

In a list that is only appended to, a thing of one kind is preceded by a
thing of another as soon as it was so when it was appended.
-/

/-- An element with a property has one of the heralds before it. -/
def Heralded {α : Type} (p herald : α → Prop) (l : List α) : Prop :=
  ∀ before a after, l = before ++ a :: after → p a → ∃ b ∈ before, herald b

variable {α : Type} {herald p : α → Prop}

theorem Heralded.nil : Heralded p herald [] := by
  intro before a after empty
  simp at empty

theorem Heralded.append {l more : List α} (h : Heralded p herald l)
    (announced : (∃ b ∈ l, herald b) ∨ ∀ a ∈ more, ¬p a) : Heralded p herald (l ++ more) := by
  intro before a after whole holds
  rcases append_eq_append_iff.mp whole with ⟨earlier, rfl, rest⟩ | ⟨later, rfl, rest⟩
  · rcases announced with ⟨b, member, heralds⟩ | none
    · exact ⟨b, mem_append_left _ member, heralds⟩
    · exact absurd holds (none a (by rw [rest]; simp))
  · cases later with
    | nil =>
      rw [append_nil] at announced
      rcases announced with announced | none
      · exact announced
      · exact absurd holds (none a (by rw [← nil_append more, ← rest]; simp))
    | cons c later =>
      obtain ⟨rfl, -⟩ := cons.inj rest
      exact h before _ later rfl holds

theorem Heralded.of_initial {l whole : List α} (h : Heralded p herald whole) (part : l <+: whole) :
    Heralded p herald l := by
  obtain ⟨more, rfl⟩ := part
  intro before a after split holds
  exact h before a (after ++ more) (by rw [split, append_assoc, cons_append]) holds

end Ariax
