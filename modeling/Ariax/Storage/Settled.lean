import Ariax.Storage.Overlap

/-!
# The members of overlap groups

Each move keeps the account of what became of the members of every group.
Where a group goes, the lease that it is settled for has written nothing, so
it may be followed by the commit of the other member or by its return to the
leases without a group; a group that is rolled back leaves both members out.
-/

namespace Ariax

open LeaseBook

namespace LeaseBook

open OrderedMap

variable {b b' : LeaseBook} {id : OverlapGroupId} {group : OverlapGroup} {lease : LeaseId}
  {entry : ActiveLease} {r : OverlapRegistration}

/-! ## Leases that are out -/

theorem Fate.imp (fate : b.Fate r)
    (out : ∀ lease, lease = r.original ∨ lease = r.duplicate → b.Out r.group lease →
      b'.Out r.group lease)
    (quiet : ∀ lease, b.Out r.group lease → b.Quiet lease → b'.Quiet lease) : b'.Fate r := by
  obtain ⟨first, second⟩ | ⟨first, silent⟩ | ⟨second, silent⟩ := fate
  · exact .inl ⟨out _ (.inl rfl) first, out _ (.inr rfl) second⟩
  · exact .inr (.inl ⟨out _ (.inl rfl) first, quiet _ first silent⟩)
  · exact .inr (.inr ⟨out _ (.inr rfl) second, quiet _ second silent⟩)

theorem Fate.of_member (members : group.members = {r.original, r.duplicate})
    (member : lease ∈ group.members) (out : b.Out r.group lease) (quiet : b.Quiet lease) :
    b.Fate r := by
  rw [members, Finset.mem_insert, Finset.mem_singleton] at member
  obtain rfl | rfl := member
  · exact .inr (.inl ⟨out, quiet⟩)
  · exact .inr (.inr ⟨out, quiet⟩)

theorem Fate.of_members (members : group.members = {r.original, r.duplicate})
    (out : ∀ lease ∈ group.members, b.Out r.group lease) : b.Fate r :=
  .inl ⟨out _ (by simp [members]), out _ (by simp [members])⟩

/-- A lease that is out of a group that is gone is no active member of another. -/
theorem Out.inactive (out : b.Out r.group lease) (dead : b.overlapGroups[r.group]? = none)
    (h : b.Ledgered) (live : b.overlapGroups[id]? = some group) (member : lease ∈ group.members) :
    b.active[lease]? = none := by
  cases found : b.active[lease]? with
  | none => rfl
  | some entry =>
    have same := (h.member live member found).1.symm.trans (out.2 entry found)
    obtain rfl := Option.some.inj same
    rw [live] at dead
    cases dead

theorem Out.not_free (out : b.Out id lease) (found : b.active[lease]? = some entry)
    (free : entry.plan.overlapGroup = none) : False := by
  cases free.symm.trans (out.2 entry found)

namespace Settled

variable (settled : b.Settled)
include settled

theorem saw (lease : LeaseId) : (b.saw lease).Settled :=
  { settled with
    committed := fun lease member =>
      (settled.committed lease member).imp_left Finset.mem_insert_of_mem }

theorem placedNothing {placement : Placement} (empty : placement.bytes = []) :
    (b.placed placement).Settled :=
  { settled with
    absent := fun live member gone =>
      quiet_placed.mpr ⟨settled.absent live member gone, fun _ => empty⟩
    fate := fun r registered dead => (settled.fate r registered dead).imp (fun _ _ out => out)
      fun _ _ quiet => quiet_placed.mpr ⟨quiet, fun _ => empty⟩ }

theorem wrote {offset : U64} {bytes : Bytes} (found : b.active[lease]? = some entry)
    (thawed : ∀ id, entry.plan.overlapGroup = some id → ∃ group, b.overlapGroups[id]? = some group ∧
      group.frozen = false) :
    ((b.placed ⟨lease, offset, bytes⟩).wrote lease entry bytes).Settled where
  committed lease' member := by
    obtain ⟨seen, gone⟩ := settled.committed lease' member
    refine ⟨seen, getElem?_insert_eq_none.mpr ⟨?_, gone⟩⟩
    rintro rfl
    cases found.symm.trans gone
  candidate live chosen := by
    obtain ⟨frozen, member, there⟩ := settled.candidate live chosen
    refine ⟨frozen, member, ?_⟩
    rw [LeaseBook.wrote, getElem?_insert]
    split
    · rfl
    · exact there
  absent live member gone := by
    obtain ⟨other, gone⟩ := getElem?_insert_eq_none.mp gone
    exact quiet_placed.mpr ⟨settled.absent live member gone, fun same => (other same).elim⟩
  uncommitted := settled.uncommitted
  apart distinct there there' meets := by
    obtain ⟨_, there, plan, -⟩ := wrote_eq_some found there
    obtain ⟨_, there', plan', -⟩ := wrote_eq_some found there'
    rw [plan, plan'] at meets
    exact settled.apart distinct there there' meets
  fate r registered dead := by
    -- A lease that is out is not written: its group is gone.
    have silent (out : b.Out r.group lease) : False := by
      obtain ⟨group, live, -⟩ := thawed _ (out.2 entry found)
      cases dead.symm.trans live
    refine (settled.fate r registered dead).imp (fun lease' _ out => ⟨out.1, ?_⟩)
      fun lease' out quiet => quiet_placed.mpr ⟨quiet, ?_⟩
    · intro entry' there
      obtain ⟨before, there, plan, -⟩ := wrote_eq_some found there
      exact plan ▸ out.2 before there
    · rintro rfl
      exact (silent out).elim

theorem froze {commit : LeaseCommit} (live : b.overlapGroups[id]? = some group)
    (found : b.active[commit.lease]? = some entry) (member : commit.lease ∈ group.members) :
    (b.withGroup id { group with frozen := true, candidate := some commit }).Settled where
  committed := settled.committed
  candidate there := by
    refine insert_rec there ?_ settled.candidate
    rintro ⟨⟩
    exact ⟨rfl, member, Option.isSome_iff_exists.mpr ⟨entry, found⟩⟩
  absent there := insert_rec there (fun member => settled.absent live member) settled.absent
  uncommitted there :=
    insert_rec there (fun member => settled.uncommitted live member) settled.uncommitted
  apart distinct there there' meets := by
    obtain ⟨id', group', live', members⟩ := settled.apart distinct there there' meets
    by_cases same : id = id'
    · subst same
      cases live.symm.trans live'
      exact ⟨id, _, Std.ExtTreeMap.getElem?_insert_self, members⟩
    · exact ⟨id', group', (getElem?_insert_of_ne same).trans live', members⟩
  fate r registered dead := settled.fate r registered (getElem?_insert_eq_none.mp dead).2

variable (h : b.Ledgered)
include h

theorem opened {plan : LeaseWritePlan} {piece : PieceId}
    (unseen : plan.lease ∉ b.seenLeases) (allowed : b.Allows plan)
    (reserved : ∀ r ∈ b.registrations, r.duplicate = plan.lease → plan.overlapGroup =
      some r.group) :
    (b.opened plan piece).Settled where
  committed lease member := by
    obtain ⟨seen, gone⟩ := settled.committed lease member
    have other : plan.lease ≠ lease := fun same => unseen (same ▸ seen)
    exact ⟨Finset.mem_insert_of_mem seen, getElem?_insert_eq_none.mpr ⟨other, gone⟩⟩
  candidate live chosen := by
    obtain ⟨frozen, member, there⟩ := settled.candidate live chosen
    refine ⟨frozen, member, ?_⟩
    rw [LeaseBook.opened, getElem?_insert]
    split
    · rfl
    · exact there
  absent live member gone := settled.absent live member (getElem?_insert_eq_none.mp gone).2
  uncommitted := settled.uncommitted
  apart {lease lease' entry entry'} distinct found found' meets := by
    have pair {lease : LeaseId} {entry : ActiveLease} (found : b.active[lease]? = some entry)
        (meets : entry.plan.span.Meets plan.span) : ∃ (id : OverlapGroupId) (group : OverlapGroup),
          b.overlapGroups[id]? = some group ∧ lease ∈ group.members ∧
            plan.lease ∈ group.members := by
      have overlaps := meets.overlaps (h.fits found)
      cases named : plan.overlapGroup with
      | none => exact (allowed.alone named lease entry found overlaps).elim
      | some id =>
        obtain ⟨group, peer, other, live, -, -, member, there, same, -, -, only⟩ :=
          allowed.paired id named
        obtain rfl := only lease entry found overlaps
        exact ⟨id, group, live, h.mem_members live there same, member⟩
    obtain ⟨rfl, rfl⟩ | ⟨-, found⟩ := getElem?_insert_eq_some.mp found
    · obtain ⟨rfl, -⟩ | ⟨-, found'⟩ := getElem?_insert_eq_some.mp found'
      · exact (distinct rfl).elim
      · obtain ⟨id, group, live, second, first⟩ := pair found' meets.symm
        exact ⟨id, group, live, first, second⟩
    · obtain ⟨rfl, rfl⟩ | ⟨-, found'⟩ := getElem?_insert_eq_some.mp found'
      · exact pair found meets
      · exact settled.apart distinct found found' meets
  fate r registered dead := by
    refine (settled.fate r registered dead).imp (fun lease named out => ⟨out.1, ?_⟩)
      fun _ _ quiet => quiet
    intro entry found
    obtain ⟨rfl, rfl⟩ | ⟨-, found⟩ := getElem?_insert_eq_some.mp found
    · have original : plan.lease ≠ r.original := fun same =>
        unseen (same ▸ (h.distinct r registered).2)
      exact reserved r registered (named.resolve_left original).symm
    · exact out.2 entry found

theorem registered {piece : PieceId} (found : b.active[r.original]? = some entry)
    (free : entry.plan.overlapGroup = none) (unseen : r.duplicate ∉ b.seenLeases)
    (unused : ∀ r' ∈ b.registrations, r'.group ≠ r.group ∧ r'.duplicate ≠ r.duplicate) :
    (b.registered r piece entry.plan.span).Settled where
  committed lease member := by
    obtain ⟨seen, gone⟩ := settled.committed lease member
    exact ⟨seen, regroup_eq_none.mpr gone⟩
  candidate live := by
    refine insert_rec live (by rintro ⟨⟩) fun live chosen => ?_
    obtain ⟨frozen, member, there⟩ := settled.candidate live chosen
    exact ⟨frozen, member, regroup_isSome.trans there⟩
  absent live member gone := by
    have gone := regroup_eq_none.mp gone
    obtain ⟨rfl, rfl⟩ | ⟨-, live⟩ := getElem?_insert_eq_some.mp live
    · rw [Finset.mem_insert, Finset.mem_singleton] at member
      obtain rfl | rfl := member
      · cases found.symm.trans gone
      · exact h.quiet_of_unseen unseen
    · exact settled.absent live member gone
  uncommitted live member := by
    obtain ⟨rfl, rfl⟩ | ⟨-, live⟩ := getElem?_insert_eq_some.mp live
    · intro committed
      obtain ⟨seen, gone⟩ := settled.committed _ committed
      rw [Finset.mem_insert, Finset.mem_singleton] at member
      obtain rfl | rfl := member
      · cases found.symm.trans gone
      · exact unseen seen
    · exact settled.uncommitted live member
  apart distinct there there' meets := by
    obtain ⟨_, there, span, -⟩ := regroup_eq_some there
    obtain ⟨_, there', span', -⟩ := regroup_eq_some there'
    rw [span, span'] at meets
    obtain ⟨id, group, live, members⟩ := settled.apart distinct there there' meets
    have other : r.group ≠ id := by
      rintro rfl
      obtain ⟨r', member, same, -⟩ := h.origin live
      exact (unused r' member).1 same
    exact ⟨id, group, (getElem?_insert_of_ne other).trans live, members⟩
  fate r' member dead := by
    obtain ⟨other, dead⟩ := getElem?_insert_eq_none.mp dead
    rcases mem_snoc.mp member with earlier | rfl
    · refine (settled.fate r' earlier dead).imp (fun lease _ out => ⟨out.1, ?_⟩)
        fun _ _ quiet => quiet
      intro entry' there
      obtain ⟨before, there, -, -, -, -, others⟩ := regroup_eq_some there
      have distinct : lease ≠ r.original := by
        rintro rfl
        exact out.not_free found free
      exact (others distinct).trans (out.2 before there)
    · exact (other rfl).elim

/-- A lease goes, committed or not. If it is a member of a group that is registered or out of one
that is gone, it is not committed; a group that stays has another candidate. -/
theorem erased {leases : List LeaseId} (found : b.active[lease]? = some entry)
    (only : ∀ x ∈ leases, x = lease)
    (inside : ∀ {id : OverlapGroupId} {group}, b.overlapGroups[id]? = some group →
      lease ∈ group.members → leases = [] ∧ b.Quiet lease ∧
        ∀ candidate, group.candidate = some candidate → candidate.lease ≠ lease)
    (outside : ∀ {id}, b.Out id lease → leases = []) :
    ((b.withoutLease lease).recorded leases).Settled where
  committed lease' member := by
    rcases List.mem_append.mp member with earlier | last
    · obtain ⟨seen, gone⟩ := settled.committed lease' earlier
      exact ⟨seen, getElem?_erase_of_none gone⟩
    · obtain rfl := only lease' last
      exact ⟨h.seen found, Std.ExtTreeMap.getElem?_erase_self⟩
  candidate {id group commit} live chosen := by
    obtain ⟨frozen, member, there⟩ := settled.candidate live chosen
    have other : lease ≠ commit.lease := by
      rintro rfl
      exact (inside live member).2.2 commit chosen rfl
    refine ⟨frozen, member, ?_⟩
    rw [recorded, withoutLease, getElem?_erase_of_ne other]
    exact there
  absent {id group lease'} live member gone := by
    by_cases same : lease = lease'
    · exact same ▸ (inside live (same ▸ member)).2.1
    · exact settled.absent live member ((getElem?_erase_of_ne same).symm.trans gone)
  uncommitted live member := by
    intro committed
    rcases List.mem_append.mp committed with earlier | last
    · exact settled.uncommitted live member earlier
    · obtain rfl := only _ last
      rw [(inside live member).1] at last
      cases last
  apart distinct there there' meets :=
    settled.apart distinct (getElem?_of_erase _ _ there) (getElem?_of_erase _ _ there') meets
  fate r registered dead := by
    refine (settled.fate r registered dead).imp (fun lease' _ out => ⟨?_, ?_⟩)
      fun _ _ quiet => quiet
    · intro committed
      rcases List.mem_append.mp committed with earlier | last
      · exact out.1 earlier
      · obtain rfl := only _ last
        rw [outside out] at last
        cases last
    · intro entry' there
      exact out.2 entry' (getElem?_of_erase _ _ there)

variable {active : OrderedMap LeaseId ActiveLease} {recorded : List LeaseId}
  (live : b.overlapGroups[id]? = some group)
  (entries : ∀ (lease : LeaseId) entry', active[lease]? = some entry' → ∃ entry,
    b.active[lease]? = some entry ∧ entry'.plan.span = entry.plan.span ∧ (lease ∉ group.members →
    entry'.plan.overlapGroup = entry.plan.overlapGroup))
  (others : ∀ lease : LeaseId, lease ∉ group.members → (b.active[lease]?).isSome →
    (active[lease]?).isSome)
  (committed : ∀ lease ∈ recorded, lease ∈ b.committed ∨ lease ∈ group.members ∧ (∃ entry,
    b.active[lease]? = some entry) ∧ active[lease]? = none)
include live entries others committed

/-- A group goes. Only its members change, not both of them stay active, and one of them may have
been committed; the other leases and groups are as before. -/
theorem dissolved (apart : Apart group.members active)
    (fate : ∀ r ∈ b.registrations, r.group = id →
      { b.withoutGroup id with active := active, committed := recorded }.Fate r) :
    { b.withoutGroup id with active := active, committed := recorded }.Settled where
  committed lease member := by
    rcases committed lease member with earlier | ⟨-, ⟨entry, found⟩, gone⟩
    · obtain ⟨seen, gone⟩ := settled.committed lease earlier
      refine ⟨seen, ?_⟩
      cases there : active[lease]? with
      | none => rfl
      | some entry' =>
        obtain ⟨entry, found, -⟩ := entries lease entry' there
        cases gone.symm.trans found
    · exact ⟨h.seen found, gone⟩
  candidate {id' group' commit} live' chosen := by
    obtain ⟨other, live'⟩ := getElem?_erase_eq_some.mp live'
    obtain ⟨frozen, member', there⟩ := settled.candidate live' chosen
    obtain ⟨entry, found⟩ := Option.isSome_iff_exists.mp there
    refine ⟨frozen, member', others _ (fun member => ?_) there⟩
    exact other (h.one_group live live' member member' found).symm
  absent {id' group' lease'} live' member' gone := by
    obtain ⟨other, live'⟩ := getElem?_erase_eq_some.mp live'
    apply settled.absent live' member'
    cases found : b.active[lease']? with
    | none => rfl
    | some entry =>
      have outside : lease' ∉ group.members := fun member =>
        other (h.one_group live live' member member' found).symm
      have there := others lease' outside (Option.isSome_iff_exists.mpr ⟨entry, found⟩)
      rw [gone] at there
      cases there
  uncommitted {id' group' lease'} live' member' := by
    obtain ⟨other, live'⟩ := getElem?_erase_eq_some.mp live'
    intro recorded
    rcases committed lease' recorded with earlier | ⟨member, ⟨entry, found⟩, -⟩
    · exact settled.uncommitted live' member' earlier
    · exact other (h.one_group live live' member member' found).symm
  apart {lease lease' entry entry'} distinct there there' meets := by
    obtain ⟨_, found, span, -⟩ := entries _ _ there
    obtain ⟨_, found', span', -⟩ := entries _ _ there'
    rw [span, span'] at meets
    obtain ⟨id', group', live', member, member'⟩ := settled.apart distinct found found' meets
    refine ⟨id', group', ?_, member, member'⟩
    refine getElem?_erase_eq_some.mpr ⟨?_, live'⟩
    rintro rfl
    cases live.symm.trans live'
    rcases apart lease member lease' member' distinct with gone | gone
    · cases there.symm.trans gone
    · cases there'.symm.trans gone
  fate r registered dead := by
    by_cases same : r.group = id
    · exact fate r registered same
    have dead := (getElem?_erase_of_ne (Ne.symm same)).symm.trans dead
    refine (settled.fate r registered dead).imp (fun lease _ out => ⟨?_, ?_⟩) fun _ _ quiet => quiet
    · intro recorded
      rcases committed lease recorded with earlier | ⟨member, ⟨entry, found⟩, -⟩
      · exact out.1 earlier
      · cases found.symm.trans (out.inactive dead h live member)
    · intro entry' there
      obtain ⟨entry, found, -, kept⟩ := entries lease entry' there
      refine (kept fun member => ?_).trans (out.2 entry found)
      cases found.symm.trans (out.inactive dead h live member)

/-- A group goes one of whose members was not active, and is not committed. -/
theorem dissolved_of_gone (member : lease ∈ group.members) (absent : b.active[lease]? = none)
    (gone : active[lease]? = none) (kept : lease ∈ recorded → lease ∈ b.committed) :
    { b.withoutGroup id with active := active, committed := recorded }.Settled := by
  refine settled.dissolved h live entries others committed
    (.of_gone (h.card_members live) member gone) ?_
  rintro r registered rfl
  refine .of_member (h.members_eq registered live) member ⟨fun recorded => ?_, ?_⟩ ?_
  · exact settled.uncommitted live member (kept recorded)
  · intro entry found
    cases gone.symm.trans found
  · exact settled.absent live member absent

end Settled

/-! ## Moves -/

/-- The account of the active leases, the groups and their members. -/
structure Sound (b : LeaseBook) : Prop where
  ledgered : b.Ledgered
  settled : b.Settled

namespace Sound

section

variable (h : b.Sound) (live : b.overlapGroups[id]? = some group) (member : lease ∈ group.members)
  (gone : b.active[lease]? = none)
include h live member gone

theorem orphaned : (b.withoutGroup id).Sound where
  ledgered := h.ledgered.shrink (fun _ _ found => found) getElem?_of_erase
  settled := h.settled.dissolved_of_gone h.ledgered live
    (fun _ entry found => ⟨entry, found, rfl, fun _ => rfl⟩) (fun _ _ there => there)
    (fun _ recorded => .inl recorded) member gone gone fun recorded => recorded

theorem freed {remaining : LeaseId} (rest : remaining ∈ group.members.erase lease) :
    ((b.withoutGroup id).freed remaining).Sound where
  ledgered := h.ledgered.freed live (Finset.mem_of_mem_erase rest)
  settled := by
    refine h.settled.dissolved_of_gone h.ledgered live ?_ ?_ (fun _ recorded => .inl recorded)
      member
      gone (regroup_eq_none.mpr gone) fun recorded => recorded
    · intro lease' entry' found
      obtain ⟨before, there, span, -, -, -, others⟩ := regroup_eq_some found
      refine ⟨before, there, span, fun outside => others ?_⟩
      rintro rfl
      exact outside (Finset.mem_of_mem_erase rest)
    · intro lease' _ there
      exact regroup_isSome.trans there

theorem concluded {remaining : LeaseId} {leases : List LeaseId}
    (rest : remaining ∈ group.members.erase lease) (found : b.active[remaining]? = some entry)
    (only : ∀ x ∈ leases, x = remaining) :
    (((b.withoutGroup id).withoutLease remaining).recorded leases).Sound where
  ledgered := h.ledgered.shrink getElem?_of_erase getElem?_of_erase
  settled := by
    have inside := Finset.mem_of_mem_erase rest
    refine h.settled.dissolved_of_gone h.ledgered live ?_ ?_ ?_ member gone
      (getElem?_erase_of_none gone) ?_
    · intro lease' entry' there
      exact ⟨entry', getElem?_of_erase _ _ there, rfl, fun _ => rfl⟩
    · intro lease' outside there
      have other : remaining ≠ lease' := by
        rintro rfl
        exact outside inside
      rw [withoutLease, getElem?_erase_of_ne other]
      exact there
    · intro lease' recorded
      rcases List.mem_append.mp recorded with earlier | last
      · exact .inl earlier
      · obtain rfl := only lease' last
        exact .inr ⟨inside, ⟨entry, found⟩, Std.ExtTreeMap.getElem?_erase_self⟩
    · intro recorded
      rcases List.mem_append.mp recorded with earlier | last
      · exact earlier
      · exact (Finset.ne_of_mem_erase rest (only lease last).symm).elim

end

theorem rolledBack (h : b.Sound) {active : OrderedMap LeaseId ActiveLease}
    (live : b.overlapGroups[id]? = some group)
    (fewer : ∀ (lease : LeaseId) entry, active[lease]? = some entry →
      b.active[lease]? = some entry)
    (others : ∀ lease : LeaseId, lease ∉ group.members → active[lease]? = b.active[lease]?)
    (apart : Apart group.members active) : { b.withoutGroup id with active := active }.Sound where
  ledgered := h.ledgered.shrink fewer getElem?_of_erase
  settled := by
    refine h.settled.dissolved h.ledgered live
      (fun lease entry found => ⟨entry, fewer lease entry found, rfl, fun _ => rfl⟩) ?_
      (fun _ recorded => .inl recorded) apart ?_
    · intro lease outside there
      exact (others lease outside).symm ▸ there
    · rintro r registered rfl
      refine .of_members (h.ledgered.members_eq registered live) fun lease member => ⟨?_, ?_⟩
      · exact h.settled.uncommitted live member
      · intro entry found
        exact (h.ledgered.member live member (fewer lease entry found)).1

theorem move (h : b.Sound) (move : LeaseMove b b') : b'.Sound := by
  have l := h.ledgered
  have s := h.settled
  cases move with
  | opened unseen _ allowed fits reserved =>
    exact ⟨l.opened unseen reserved allowed fits, s.opened l unseen allowed reserved⟩
  | registered distinct found free unseen unused =>
    exact ⟨l.registered distinct found free unseen unused, s.registered l found free unseen unused⟩
  | saw lease => exact ⟨l.saw lease, s.saw lease⟩
  | placedNothing empty => exact ⟨l.placedNothing empty, s.placedNothing empty⟩
  | wrote found thawed => exact ⟨l.wrote found, s.wrote found thawed⟩
  | froze live _ found member => exact ⟨l.withGroup live rfl rfl, s.froze live found member⟩
  | ended found free only =>
    refine ⟨l.shrink getElem?_of_erase fun _ _ there => there, s.erased l found only ?_ ?_⟩
    · intro id group live member
      cases free.symm.trans (l.member live member found).1
    · exact fun out => (out.not_free found free).elim
  | @withdrew lease _ _ _ found live member unwritten other =>
    have erased : ((b.withoutLease lease).recorded []).Settled := by
      refine s.erased l found (by simp) (fun live' member' => ⟨rfl, ?_, ?_⟩) fun _ => rfl
      · exact l.unwritten found unwritten
      · obtain rfl := l.one_group live live' member member' found
        cases live.symm.trans live'
        exact other
    rw [recorded, List.append_nil] at erased
    exact ⟨l.shrink getElem?_of_erase fun _ _ there => there, erased⟩
  | orphaned live member gone => exact h.orphaned live member gone
  | freed live member gone _ rest => exact h.freed live member gone rest
  | concluded live member gone rest found only => exact h.concluded live member gone rest found only
  | rolledBack live fewer others apart => exact h.rolledBack live fewer others apart

end Sound

end LeaseBook

end Ariax
