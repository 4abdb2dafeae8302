import Mathlib.Algebra.Order.Ring.Int

/-!
# The books of a token bucket

A token bucket starts full, accrues tokens as time passes and never holds
more than its burst. Tokens are taken out when bytes are granted, given back
when fewer are used, and charged beyond what was granted when more are. The
bucket may stop counting its debt at a floor. Its books are covered when the
tokens it holds and the tokens it is owed are backed by the burst and by
what accrued; once the floor has cut a debt short, what is left to come in
cannot lift the bucket above zero again unless more accrues than the floor
is deep.
-/

namespace Ariax

/-- The tokens held, accrued, taken on balance and taken by work in flight, against a burst
and a floor. -/
structure TokenCover (burst floor tokens accrued net inFlight : ℤ) : Prop where
  inFlight_le : inFlight ≤ burst + accrued
  inFlight_le_net : inFlight ≤ net
  tokens_le : tokens ≤ burst
  balance : tokens + net ≤ burst + accrued ∨ tokens + inFlight ≤ burst + accrued - floor

namespace TokenCover

variable {burst floor tokens accrued net inFlight : ℤ}

/-- A full bucket of which nothing was taken. -/
theorem full (positive : 0 ≤ burst) : TokenCover burst floor burst 0 0 0 :=
  ⟨by omega, le_rfl, le_rfl, .inl (by omega)⟩

variable (cover : TokenCover burst floor tokens accrued net inFlight)
include cover

/-- Time passes; what overflows the bucket is lost. -/
theorem accrue {added held : ℤ} (positive : 0 ≤ added) (held_le : held ≤ tokens + added)
    (capped : held ≤ burst) : TokenCover burst floor held (accrued + added) net inFlight := by
  obtain ⟨backed, kept, -, balance⟩ := cover
  exact ⟨by omega, kept, capped, balance.imp (by omega) (by omega)⟩

/-- While a bucket is not in debt, everything taken so far is backed by the burst and by what
accrued. -/
theorem solvent (held : 0 ≤ tokens) (shallow : burst + accrued < floor)
    (inFlight_nonneg : 0 ≤ inFlight) : tokens + net ≤ burst + accrued :=
  cover.balance.resolve_right (by omega)

/-- Tokens are granted only when the bucket holds them. -/
theorem grant {taken : ℤ} (positive : 0 ≤ taken) (held : taken ≤ tokens)
    (shallow : burst + accrued < floor) (inFlight_nonneg : 0 ≤ inFlight) :
    TokenCover burst floor (tokens - taken) accrued (net + taken) (inFlight + taken) := by
  have solvent := cover.solvent (by omega) shallow inFlight_nonneg
  obtain ⟨backed, kept, capped, -⟩ := cover
  exact ⟨by omega, by omega, by omega, .inl (by omega)⟩

/-- Work in flight ends and gives back what it did not use. -/
theorem giveBack {reserved unused held : ℤ} (unused_le : unused ≤ reserved)
    (held_le : held ≤ tokens + unused) (capped : held ≤ burst) (unused_nonneg : 0 ≤ unused) :
    TokenCover burst floor held accrued (net - unused) (inFlight - reserved) := by
  obtain ⟨backed, kept, -, balance⟩ := cover
  exact ⟨by omega, by omega, capped, balance.imp (by omega) (by omega)⟩

/-- Work in flight ends and is charged for what it used beyond its grant; the debt may be cut
short at the floor. -/
theorem overcharge {reserved extra : ℤ} (reserved_nonneg : 0 ≤ reserved) (extra_nonneg : 0 ≤ extra)
    (deep : -floor ≤ tokens) :
    TokenCover burst floor (max (-floor) (tokens - extra)) accrued (net + extra)
      (inFlight - reserved) := by
  obtain ⟨backed, kept, capped, balance⟩ := cover
  rcases le_total (-floor) (tokens - extra) with whole | cut
  · exact ⟨by omega, by omega, by omega, balance.imp (by omega) (by omega)⟩
  · exact ⟨by omega, by omega, by omega, .inr (by omega)⟩

/-- Work in flight is lost track of. -/
theorem lose {fewer : ℤ} (fewer_le : fewer ≤ inFlight) :
    TokenCover burst floor tokens accrued net fewer := by
  obtain ⟨backed, kept, capped, balance⟩ := cover
  exact ⟨by omega, by omega, capped, balance.imp id (by omega)⟩

end TokenCover

end Ariax
