import Ariax.Storage.Steps

/-!
# Overlapping leases

What every move keeps. A group that is registered has its two members, each
of which is not yet committed and, if it is active, writes the span of the
group under one validator; an inactive member has written nothing. When a
group is gone, one of its members is out: it is not committed, and if it is
still active it is stuck in the group that is gone. Either the other member
is out as well, or the one that is out has written nothing.
-/

namespace Ariax

open Finset StorageEngine

namespace LeaseBook

open OrderedMap

variable (b : LeaseBook)

def Quiet (lease : LeaseId) : Prop := ∀ p ∈ b.placements, p.lease = lease → p.bytes = []

/-- A lease is not committed, and at most active in a group. -/
def Out (id : OverlapGroupId) (lease : LeaseId) : Prop :=
  lease ∉ b.committed ∧
    ∀ entry, b.active[lease]? = some entry → entry.plan.overlapGroup = some id

/-- What became of the members of a group that is gone. -/
def Fate (r : OverlapRegistration) : Prop :=
  (b.Out r.group r.original ∧ b.Out r.group r.duplicate) ∨
    (b.Out r.group r.original ∧ b.Quiet r.original) ∨
    (b.Out r.group r.duplicate ∧ b.Quiet r.duplicate)

/-- What holds of each active lease and of each group. -/
structure Ledgered : Prop where
  seen : ∀ {lease : LeaseId} {entry}, b.active[lease]? = some entry → lease ∈ b.seenLeases
  fits : ∀ {lease : LeaseId} {entry}, b.active[lease]? = some entry → entry.plan.span.Fits
  unwritten : ∀ {lease : LeaseId} {entry}, b.active[lease]? = some entry → entry.writtenLen = 0 →
    b.Quiet lease
  placed : ∀ p ∈ b.placements, p.bytes ≠ [] → p.lease ∈ b.seenLeases
  distinct : ∀ r ∈ b.registrations, r.original ≠ r.duplicate ∧ r.original ∈ b.seenLeases
  unique : ∀ r ∈ b.registrations, ∀ r' ∈ b.registrations,
    r.group = r'.group ∨ r.duplicate = r'.duplicate → r = r'
  origin : ∀ {id : OverlapGroupId} {group}, b.overlapGroups[id]? = some group →
    ∃ r ∈ b.registrations, r.group = id ∧ group.members = {r.original, r.duplicate}
  grouped : ∀ {lease : LeaseId} {entry id}, b.active[lease]? = some entry →
    entry.plan.overlapGroup = some id →
      ∃ r ∈ b.registrations, r.group = id ∧ lease ∈ ({r.original, r.duplicate} : Finset LeaseId)
  member : ∀ {id : OverlapGroupId} {group} {lease : LeaseId} {entry},
    b.overlapGroups[id]? = some group → lease ∈ group.members → b.active[lease]? = some entry →
      entry.plan.overlapGroup = some id ∧ entry.plan.span = group.span
  validator : ∀ {id : OverlapGroupId} {group} {lease lease' : LeaseId} {entry entry'},
    b.overlapGroups[id]? = some group → lease ∈ group.members → lease' ∈ group.members →
      b.active[lease]? = some entry → b.active[lease']? = some entry' →
      entry.plan.validator = entry'.plan.validator

structure Settled : Prop where
  committed : ∀ lease ∈ b.committed, lease ∈ b.seenLeases ∧ b.active[lease]? = none
  candidate : ∀ {id : OverlapGroupId} {group commit}, b.overlapGroups[id]? = some group →
    group.candidate = some commit →
      group.frozen = true ∧ commit.lease ∈ group.members ∧ (b.active[commit.lease]?).isSome
  absent : ∀ {id : OverlapGroupId} {group} {lease : LeaseId}, b.overlapGroups[id]? = some group →
    lease ∈ group.members → b.active[lease]? = none → b.Quiet lease
  uncommitted : ∀ {id : OverlapGroupId} {group} {lease : LeaseId},
    b.overlapGroups[id]? = some group → lease ∈ group.members → lease ∉ b.committed
  apart : ∀ {lease lease' : LeaseId} {entry entry'}, lease ≠ lease' →
    b.active[lease]? = some entry → b.active[lease']? = some entry' →
      entry.plan.span.Meets entry'.plan.span → ∃ (id : OverlapGroupId) (group : OverlapGroup),
        b.overlapGroups[id]? = some group ∧ lease ∈ group.members ∧ lease' ∈ group.members
  fate : ∀ r ∈ b.registrations, b.overlapGroups[r.group]? = none → b.Fate r

variable {b} {b' : LeaseBook} {id id' : OverlapGroupId} {group group' : OverlapGroup}
  {lease lease' : LeaseId} {entry : ActiveLease}

namespace Ledgered

section

variable (h : b.Ledgered) (live : b.overlapGroups[id]? = some group)
include h live

theorem one_group (live' : b.overlapGroups[id']? = some group') (member : lease ∈ group.members)
    (member' : lease ∈ group'.members) (found : b.active[lease]? = some entry) : id = id' := by
  have first := (h.member live member found).1
  have second := (h.member live' member' found).1
  exact Option.some.inj (first.symm.trans second)

theorem mem_members (found : b.active[lease]? = some entry)
    (grouped : entry.plan.overlapGroup = some id) : lease ∈ group.members := by
  obtain ⟨r, registered, named, member⟩ := h.grouped found grouped
  obtain ⟨r', registered', named', members⟩ := h.origin live
  obtain rfl := h.unique r registered r' registered' (.inl (named.trans named'.symm))
  rwa [members]

theorem card_members : group.members.card ≤ 2 := by
  obtain ⟨r, -, -, members⟩ := h.origin live
  rw [members]
  exact card_le_two

end

theorem members_eq (h : b.Ledgered) {r : OverlapRegistration} (registered : r ∈ b.registrations)
    (live : b.overlapGroups[r.group]? = some group) :
    group.members = {r.original, r.duplicate} := by
  obtain ⟨r', registered', named', members⟩ := h.origin live
  obtain rfl := h.unique r registered r' registered' (.inl named'.symm)
  exact members

/-- What holds of each active lease and each group holds when there are fewer of them. -/
theorem shrink (h : b.Ledgered) {active : OrderedMap LeaseId ActiveLease}
    {groups : OrderedMap OverlapGroupId OverlapGroup} {committed : List LeaseId}
    (fewer : ∀ (lease : LeaseId) entry, active[lease]? = some entry → b.active[lease]? = some entry)
    (without : ∀ (id : OverlapGroupId) group, groups[id]? = some group →
      b.overlapGroups[id]? = some group) :
    { b with active := active, overlapGroups := groups, committed := committed }.Ledgered :=
  { h with
    seen := fun found => h.seen (fewer _ _ found)
    fits := fun found => h.fits (fewer _ _ found)
    unwritten := fun found => h.unwritten (fewer _ _ found)
    origin := fun live => h.origin (without _ _ live)
    grouped := fun found => h.grouped (fewer _ _ found)
    member := fun live member found => h.member (without _ _ live) member (fewer _ _ found)
    validator := fun live member member' found found' =>
      h.validator (without _ _ live) member member' (fewer _ _ found) (fewer _ _ found') }

end Ledgered

/-! ## Entries of a changed map -/

variable {active : OrderedMap LeaseId ActiveLease} {value : Option OverlapGroupId}
  {entry' : ActiveLease}

theorem regroup_eq_some (found : (regroup active lease value)[lease']? = some entry') :
    ∃ entry, active[lease']? = some entry ∧ entry'.plan.span = entry.plan.span ∧
      entry'.plan.validator = entry.plan.validator ∧ entry'.writtenLen = entry.writtenLen ∧
      (lease' = lease → entry'.plan.overlapGroup = value) ∧
      (lease' ≠ lease → entry'.plan.overlapGroup = entry.plan.overlapGroup) := by
  unfold regroup at found
  split at found
  · rename_i entry there
    obtain ⟨rfl, rfl⟩ | ⟨other, found⟩ := getElem?_insert_eq_some.mp found
    · exact ⟨entry, there, rfl, rfl, rfl, fun _ => rfl, fun other => (other rfl).elim⟩
    · exact ⟨entry', found, rfl, rfl, rfl, fun same => (other same).elim, fun _ => rfl⟩
  · rename_i absent
    refine ⟨entry', found, rfl, rfl, rfl, fun same => ?_, fun _ => rfl⟩
    rw [same, absent] at found
    cases found

theorem regroup_isSome :
    ((regroup active lease value)[lease']?).isSome = (active[lease']?).isSome := by
  unfold regroup
  split
  · rename_i entry there
    rw [getElem?_insert]
    split
    · rename_i same
      rw [← same, there]
      rfl
    · rfl
  · rfl

theorem regroup_eq_none :
    (regroup active lease value)[lease']? = none ↔ active[lease']? = none := by
  rw [← Option.not_isSome_iff_eq_none, regroup_isSome, Option.not_isSome_iff_eq_none]

theorem wrote_eq_some {bytes : Bytes} (found : b.active[lease]? = some entry)
    (there : (b.wrote lease entry bytes).active[lease']? = some entry') :
    ∃ before, b.active[lease']? = some before ∧ entry'.plan = before.plan ∧
      (lease' = lease → entry'.writtenLen = before.writtenLen + bytes.length) ∧
      (lease' ≠ lease → entry'.writtenLen = before.writtenLen) := by
  obtain ⟨rfl, rfl⟩ | ⟨other, there⟩ := getElem?_insert_eq_some.mp there
  · exact ⟨entry, found, rfl, fun _ => rfl, fun other => (other rfl).elim⟩
  · exact ⟨entry', there, rfl, fun same => (other same).elim, fun _ => rfl⟩

variable {placement : Placement}

theorem quiet_placed : (b.placed placement).Quiet lease ↔
      b.Quiet lease ∧ (placement.lease = lease → placement.bytes = []) := by
  simp [Quiet, placed, or_imp, forall_and]

theorem Ledgered.quiet_of_unseen (h : b.Ledgered) (unseen : lease ∉ b.seenLeases) :
    b.Quiet lease := by
  intro p member same
  by_contra some
  exact unseen (same ▸ h.placed p member some)

/-! ## Active leases and groups, move by move -/

namespace Ledgered

variable (h : b.Ledgered)
include h

variable {plan : LeaseWritePlan} {piece : PieceId}

/-- The other member of the group of a lease that is opened has its validator. -/
theorem peer_validator (allowed : b.Allows plan) (fits : plan.span.Fits)
    (named : plan.overlapGroup = some id) (live : b.overlapGroups[id]? = some group)
    (member : lease ∈ group.members) (found : b.active[lease]? = some entry) :
    entry.plan.validator = plan.validator := by
  obtain ⟨group', peer, other, live', -, span, -, there, -, -, validator, only⟩ :=
    allowed.paired _ named
  cases live.symm.trans live'
  have same : entry.plan.span = plan.span := (h.member live member found).2.trans span
  obtain rfl := only lease entry found (same ▸ fits.overlaps_self)
  cases there.symm.trans found
  exact validator

section

variable (unseen : plan.lease ∉ b.seenLeases)
  (reserved : ∀ r ∈ b.registrations, r.duplicate = plan.lease → plan.overlapGroup = some r.group)
include unseen reserved

/-- A lease that is opened while it is a member of a group is its duplicate, and names it. -/
theorem names_group (live : b.overlapGroups[id]? = some group)
    (member : plan.lease ∈ group.members) :
    plan.overlapGroup = some id := by
  obtain ⟨r, registered, rfl, members⟩ := h.origin live
  rw [members, mem_insert, mem_singleton] at member
  have original : plan.lease ≠ r.original := fun same =>
    unseen (same ▸ (h.distinct r registered).2)
  exact reserved r registered (member.resolve_left original).symm

theorem opened (allowed : b.Allows plan) (fits : plan.span.Fits) :
    (b.opened plan piece).Ledgered where
  seen found := insert_rec found (mem_insert_self ..) fun found => mem_insert_of_mem (h.seen found)
  fits found := insert_rec found fits h.fits
  unwritten found := insert_rec found (fun _ => h.quiet_of_unseen unseen) h.unwritten
  placed p member some := mem_insert_of_mem (h.placed p member some)
  distinct r registered := (h.distinct r registered).imp_right mem_insert_of_mem
  unique := h.unique
  origin := h.origin
  grouped found := by
    refine insert_rec found (fun named => ?_) h.grouped
    obtain ⟨group, -, -, live, -, -, member, -⟩ := allowed.paired _ named
    obtain ⟨r, registered, rfl, members⟩ := h.origin live
    exact ⟨r, registered, rfl, members ▸ member⟩
  member {id group lease entry} live member found := by
    obtain ⟨rfl, rfl⟩ | ⟨-, found⟩ := getElem?_insert_eq_some.mp found
    · have named := h.names_group unseen reserved live member
      obtain ⟨group', -, -, live', -, span, -⟩ := allowed.paired _ named
      cases live.symm.trans live'
      exact ⟨named, span.symm⟩
    · exact h.member live member found
  validator live member member' found found' := by
    obtain ⟨rfl, rfl⟩ | ⟨-, found⟩ := getElem?_insert_eq_some.mp found
    · obtain ⟨-, rfl⟩ | ⟨-, found'⟩ := getElem?_insert_eq_some.mp found'
      · rfl
      · have named := h.names_group unseen reserved live member
        exact (h.peer_validator allowed fits named live member' found').symm
    · obtain ⟨rfl, rfl⟩ | ⟨-, found'⟩ := getElem?_insert_eq_some.mp found'
      · have named := h.names_group unseen reserved live member'
        exact h.peer_validator allowed fits named live member found
      · exact h.validator live member member' found found'

end

theorem regrouped (there : (regroup b.active lease value)[lease']? = some entry') :
    lease' ∈ b.seenLeases ∧ entry'.plan.span.Fits ∧ (entry'.writtenLen = 0 → b.Quiet lease') := by
  obtain ⟨_, there, span, -, written, -⟩ := regroup_eq_some there
  exact ⟨h.seen there, span ▸ h.fits there, fun zero => h.unwritten there (written ▸ zero)⟩

theorem registered {r : OverlapRegistration} (distinct : r.original ≠ r.duplicate)
    (found : b.active[r.original]? = some entry) (free : entry.plan.overlapGroup = none)
    (unseen : r.duplicate ∉ b.seenLeases)
    (unused : ∀ r' ∈ b.registrations, r'.group ≠ r.group ∧ r'.duplicate ≠ r.duplicate) :
    (b.registered r piece entry.plan.span).Ledgered where
  seen there := (h.regrouped there).1
  fits there := (h.regrouped there).2.1
  unwritten there := (h.regrouped there).2.2
  placed := h.placed
  distinct := forall_mem_snoc.mpr ⟨h.distinct, distinct, h.seen found⟩
  unique := by
    intro a memberA c memberC same
    rcases mem_snoc.mp memberA with earlierA | rfl <;>
      rcases mem_snoc.mp memberC with earlierC | rfl
    · exact h.unique a earlierA c earlierC same
    · exact (same.elim (unused a earlierA).1 (unused a earlierA).2).elim
    · exact (same.elim (unused c earlierC).1.symm (unused c earlierC).2.symm).elim
    · rfl
  origin live := by
    refine insert_rec live ⟨r, mem_snoc.mpr (.inr rfl), rfl, rfl⟩ fun live => ?_
    obtain ⟨r', member, rest⟩ := h.origin live
    exact ⟨r', List.mem_append_left _ member, rest⟩
  grouped {lease entry' id} there named := by
    obtain ⟨before, there, -, -, -, mine, others⟩ := regroup_eq_some there
    by_cases same : lease = r.original
    · have id_eq := Option.some.inj ((mine same).symm.trans named)
      exact ⟨r, mem_snoc.mpr (.inr rfl), id_eq, by simp [same]⟩
    · obtain ⟨r', member, rest⟩ := h.grouped there ((others same).symm.trans named)
      exact ⟨r', List.mem_append_left _ member, rest⟩
  member {id group lease entry'} live member there := by
    obtain ⟨before, there, span, -, -, mine, others⟩ := regroup_eq_some there
    obtain ⟨rfl, rfl⟩ | ⟨-, live⟩ := getElem?_insert_eq_some.mp live
    · -- The duplicate was never opened, so the active member is the original.
      rw [mem_insert, mem_singleton] at member
      have original := member.resolve_right fun same => unseen (same ▸ h.seen there)
      subst original
      cases found.symm.trans there
      exact ⟨mine rfl, span⟩
    · have old := h.member live member there
      have other : lease ≠ r.original := by
        rintro rfl
        cases found.symm.trans there
        cases free.symm.trans old.1
      exact ⟨(others other).trans old.1, span.trans old.2⟩
  validator {id group lease lease' entry' entry''} live member member' there there' := by
    obtain ⟨before, there, -, validator, -⟩ := regroup_eq_some there
    obtain ⟨before', there', -, validator', -⟩ := regroup_eq_some there'
    rw [validator, validator']
    obtain ⟨rfl, rfl⟩ | ⟨-, live⟩ := getElem?_insert_eq_some.mp live
    · rw [mem_insert, mem_singleton] at member member'
      obtain rfl := member.resolve_right fun same => unseen (same ▸ h.seen there)
      obtain rfl := member'.resolve_right fun same => unseen (same ▸ h.seen there')
      cases there.symm.trans there'
      rfl
    · exact h.validator live member member' there there'

theorem saw (lease : LeaseId) : (b.saw lease).Ledgered :=
  { h with
    seen := fun found => mem_insert_of_mem (h.seen found)
    placed := fun p member some => mem_insert_of_mem (h.placed p member some)
    distinct := fun r member => (h.distinct r member).imp_right mem_insert_of_mem }

theorem placedNothing (empty : placement.bytes = []) : (b.placed placement).Ledgered :=
  { h with
    unwritten := fun found zero => quiet_placed.mpr ⟨h.unwritten found zero, fun _ => empty⟩
    placed := by
      intro p member some
      rcases mem_snoc.mp member with earlier | rfl
      · exact h.placed p earlier some
      · exact (some empty).elim }

theorem wrote {offset : U64} {bytes : Bytes} (found : b.active[lease]? = some entry) :
    ((b.placed ⟨lease, offset, bytes⟩).wrote lease entry bytes).Ledgered where
  seen there := by
    obtain ⟨_, there, -⟩ := wrote_eq_some found there
    exact h.seen there
  fits there := by
    obtain ⟨_, there, plan, -⟩ := wrote_eq_some found there
    exact plan ▸ h.fits there
  unwritten {lease' entry'} there zero := by
    obtain ⟨before, there, -, mine, others⟩ := wrote_eq_some found there
    refine quiet_placed.mpr ?_
    by_cases same : lease' = lease
    · have sum : before.writtenLen + bytes.length = 0 := (mine same).symm.trans zero
      refine ⟨h.unwritten there (by omega), fun _ => List.length_eq_zero_iff.mp ?_⟩
      change bytes.length = 0
      omega
    · exact ⟨h.unwritten there ((others same).symm.trans zero), fun same' => (same same'.symm).elim⟩
  placed p member some := by
    rcases mem_snoc.mp member with earlier | rfl
    · exact h.placed p earlier some
    · exact h.seen found
  distinct := h.distinct
  unique := h.unique
  origin := h.origin
  grouped there named := by
    obtain ⟨_, there, plan, -⟩ := wrote_eq_some found there
    exact h.grouped there (plan ▸ named)
  member live member there := by
    obtain ⟨_, there, plan, -⟩ := wrote_eq_some found there
    exact plan ▸ h.member live member there
  validator live member member' there there' := by
    obtain ⟨_, there, plan, -⟩ := wrote_eq_some found there
    obtain ⟨_, there', plan', -⟩ := wrote_eq_some found there'
    rw [plan, plan']
    exact h.validator live member member' there there'

theorem withGroup {changed : OverlapGroup} (live : b.overlapGroups[id]? = some group)
    (members : changed.members = group.members) (span : changed.span = group.span) :
    (b.withGroup id changed).Ledgered :=
  { h with
    origin := fun there => insert_rec there (members ▸ h.origin live) h.origin
    member := by
      intro id' group' lease entry there
      refine insert_rec there ?_ h.member
      rw [members, span]
      exact h.member live
    validator := by
      intro id' group' lease lease' entry entry' there
      refine insert_rec there ?_ h.validator
      rw [members]
      exact h.validator live }

theorem freed (live : b.overlapGroups[id]? = some group) (rest : lease ∈ group.members) :
    ((b.withoutGroup id).freed lease).Ledgered where
  seen there := (h.regrouped there).1
  fits there := (h.regrouped there).2.1
  unwritten there := (h.regrouped there).2.2
  placed := h.placed
  distinct := h.distinct
  unique := h.unique
  origin there := h.origin (getElem?_of_erase _ _ there)
  grouped {lease' entry' id'} there named := by
    obtain ⟨before, there, -, -, -, mine, others⟩ := regroup_eq_some there
    by_cases same : lease' = lease
    · cases (mine same).symm.trans named
    · exact h.grouped there ((others same).symm.trans named)
  member {id' group' lease' entry'} there member found := by
    obtain ⟨other, there⟩ := getElem?_erase_eq_some.mp there
    obtain ⟨before, found, span, -, -, mine, others⟩ := regroup_eq_some found
    have old := h.member there member found
    have others := others fun same => other (h.one_group live there (same ▸ rest) member found).symm
    exact ⟨others.trans old.1, span.trans old.2⟩
  validator there member member' found found' := by
    obtain ⟨other, there⟩ := getElem?_erase_eq_some.mp there
    obtain ⟨_, found, -, validator, -⟩ := regroup_eq_some found
    obtain ⟨_, found', -, validator', -⟩ := regroup_eq_some found'
    rw [validator, validator']
    exact h.validator there member member' found found'

end Ledgered

end LeaseBook

end Ariax
