import Ariax.Storage.Settled

/-!
# Groups with a candidate

What lasts once a group has a candidate: its members are not active outside
the group, the group is frozen or gone, and so no further byte of a member is
accepted. What lasts once a group was rolled back: neither member commits.
Both are carried along every sequence of moves.
-/

namespace Ariax

open OrderedMap

namespace LeaseBook

variable {b b' : LeaseBook} {r : OverlapRegistration} {id : OverlapGroupId} {group : OverlapGroup}
  {lease : LeaseId} {entry : ActiveLease}

/-- The group of a registration has a candidate or is gone, and its members are not active
outside it. -/
structure Held (b : LeaseBook) (r : OverlapRegistration) : Prop where
  registered : r ∈ b.registrations
  frozen : ∀ group, b.overlapGroups[r.group]? = some group →
    group.frozen = true ∧ group.candidate.isSome
  bound : ∀ lease ∈ ({r.original, r.duplicate} : Finset LeaseId), ∀ entry,
    b.active[lease]? = some entry → entry.plan.overlapGroup = some r.group

/-- The group of a registration is gone, and neither of its members committed. -/
structure Barred (b : LeaseBook) (r : OverlapRegistration) : Prop extends Held b r where
  gone : b.overlapGroups[r.group]? = none
  uncommitted : ∀ lease ∈ ({r.original, r.duplicate} : Finset LeaseId), lease ∉ b.committed

namespace Held

variable (held : b.Held r)
include held

theorem shrink (registrations : b'.registrations = b.registrations)
    (groups : ∀ (id : OverlapGroupId) group, b'.overlapGroups[id]? = some group →
      b.overlapGroups[id]? = some group)
    (active : ∀ (lease : LeaseId) entry, b'.active[lease]? = some entry → b.active[lease]? =
      some entry) :
    b'.Held r where
  registered := registrations ▸ held.registered
  frozen group live := held.frozen group (groups _ group live)
  bound lease member entry found := held.bound lease member entry (active lease entry found)

theorem opened (h : b.Ledgered) {plan : LeaseWritePlan} {piece : PieceId}
    (unseen : plan.lease ∉ b.seenLeases)
    (reserved : ∀ r ∈ b.registrations, r.duplicate = plan.lease → plan.overlapGroup =
      some r.group) :
    (b.opened plan piece).Held r where
  registered := held.registered
  frozen := held.frozen
  bound lease member entry found := by
    obtain ⟨rfl, rfl⟩ | ⟨-, found⟩ := getElem?_insert_eq_some.mp found
    · rw [Finset.mem_insert, Finset.mem_singleton] at member
      obtain original | duplicate := member
      · exact (unseen (original ▸ (h.distinct r held.registered).2)).elim
      · exact reserved r held.registered duplicate.symm
    · exact held.bound lease member entry found

theorem enrolled {r' : OverlapRegistration} {piece : PieceId}
    (found : b.active[r'.original]? = some entry) (free : entry.plan.overlapGroup = none)
    (unused : ∀ r ∈ b.registrations, r.group ≠ r'.group ∧ r.duplicate ≠ r'.duplicate) :
    (b.registered r' piece entry.plan.span).Held r where
  registered := List.mem_append_left _ held.registered
  frozen group live := by
    obtain ⟨same, -⟩ | ⟨-, live⟩ := getElem?_insert_eq_some.mp live
    · exact ((unused r held.registered).1 same).elim
    · exact held.frozen group live
  bound lease member entry' there := by
    obtain ⟨before, there, -, -, -, -, others⟩ := regroup_eq_some there
    have grouped := held.bound lease member before there
    have other : lease ≠ r'.original := by
      rintro rfl
      cases found.symm.trans there
      cases free.symm.trans grouped
    rw [others other, grouped]

theorem wrote {offset : U64} {bytes : Bytes} (found : b.active[lease]? = some entry) :
    ((b.placed ⟨lease, offset, bytes⟩).wrote lease entry bytes).Held r where
  registered := held.registered
  frozen := held.frozen
  bound lease' member entry' there := by
    obtain ⟨before, there, same, -⟩ := wrote_eq_some found there
    rw [same]
    exact held.bound lease' member before there

theorem freed (h : b.Ledgered) {remaining : LeaseId} (live : b.overlapGroups[id]? = some group)
    (uncommitted : group.candidate = none) (member : remaining ∈ group.members) :
    ((b.withoutGroup id).freed remaining).Held r where
  registered := held.registered
  frozen group live := held.frozen group (getElem?_of_erase _ _ live)
  bound lease member' entry' there := by
    obtain ⟨before, earlier, -, -, -, -, others⟩ := regroup_eq_some there
    have grouped := held.bound lease member' before earlier
    have other : lease ≠ remaining := by
      rintro rfl
      -- A held group has a candidate, so it is another group that goes.
      cases (h.member live member earlier).1.symm.trans grouped
      have chosen := (held.frozen group live).2
      rw [uncommitted] at chosen
      cases chosen
    rw [others other, grouped]

theorem move (h : b.Ledgered) (move : LeaseMove b b') : b'.Held r := by
  cases move with
  | opened unseen _ _ _ reserved => exact held.opened h unseen reserved
  | registered _ found free _ unused => exact held.enrolled found free unused
  | saw | placedNothing =>
    exact held.shrink rfl (fun _ _ there => there) fun _ _ there => there
  | wrote found => exact held.wrote found
  | froze =>
    exact ⟨held.registered, fun group live => insert_rec live ⟨rfl, rfl⟩ (held.frozen group),
      held.bound⟩
  | ended | withdrew => exact held.shrink rfl (fun _ _ there => there) getElem?_of_erase
  | orphaned => exact held.shrink rfl getElem?_of_erase fun _ _ there => there
  | freed live _ _ uncommitted rest =>
    exact held.freed h live uncommitted (Finset.mem_of_mem_erase rest)
  | concluded => exact held.shrink rfl getElem?_of_erase getElem?_of_erase
  | rolledBack _ fewer => exact held.shrink rfl getElem?_of_erase fewer

theorem refuses (member : lease ∈ ({r.original, r.duplicate} : Finset LeaseId))
    (found : b.active[lease]? = some entry)
    (thawed : ∀ id, entry.plan.overlapGroup = some id → ∃ group, b.overlapGroups[id]? = some group ∧
      group.frozen = false) :
    False := by
  obtain ⟨group, live, open'⟩ := thawed r.group (held.bound lease member entry found)
  cases open'.symm.trans (held.frozen group live).1

end Held

/-- The bytes of a lease that reached a file, in the order in which they were written. -/
def bytesOf (b : LeaseBook) (lease : LeaseId) : Bytes :=
  (b.placements.filter (·.lease = lease)).flatMap (·.bytes)

theorem bytesOf_placed {placement : Placement} : (b.placed placement).bytesOf lease =
      b.bytesOf lease ++ if placement.lease = lease then placement.bytes else [] := by
  by_cases same : placement.lease = lease <;> simp [bytesOf, placed, same]

theorem bytesOf_eq_nil : b.bytesOf lease = [] ↔ b.Quiet lease := by
  simp [bytesOf, Quiet]

theorem Held.bytesOf_eq (held : b.Held r)
    (member : lease ∈ ({r.original, r.duplicate} : Finset LeaseId)) (move : LeaseMove b b') :
    b'.bytesOf lease = b.bytesOf lease := by
  cases move with
  | placedNothing empty => rw [bytesOf_placed, empty, ite_self, List.append_nil]
  | @wrote lease' entry offset bytes found thawed =>
    have other : lease' ≠ lease := by
      rintro rfl
      exact held.refuses member found thawed
    have placed : (b.placed ⟨lease', offset, bytes⟩).bytesOf lease = b.bytesOf lease := by
      rw [bytesOf_placed, if_neg other, List.append_nil]
    exact placed
  | opened | registered | saw | froze | ended | withdrew | orphaned | freed | concluded
  | rolledBack =>
    rfl

namespace Barred

theorem of_held (barred : b.Barred r) (held : b'.Held r)
    (groups : b'.overlapGroups[r.group]? = none)
    (committed : ∀ lease ∈ ({r.original, r.duplicate} : Finset LeaseId), lease ∈ b'.committed →
      lease ∈ b.committed) : b'.Barred r :=
  ⟨held, groups, fun lease member recorded =>
    barred.uncommitted lease member (committed lease member recorded)⟩

/-- Every move leaves the members of a group that was rolled back without a commit. -/
theorem move (barred : b.Barred r) (h : b.Ledgered) (move : LeaseMove b b') : b'.Barred r := by
  have held := barred.toHeld.move h move
  cases move with
  | registered _ _ _ _ unused =>
    exact barred.of_held held (getElem?_insert_eq_none.mpr
      ⟨(unused r barred.registered).1.symm, barred.gone⟩) fun _ _ recorded => recorded
  | froze live =>
    refine barred.of_held held (getElem?_insert_eq_none.mpr ⟨?_, barred.gone⟩)
      fun _ _ recorded => recorded
    rintro rfl
    cases barred.gone.symm.trans live
  | ended found free only =>
    refine barred.of_held held barred.gone fun lease member recorded => ?_
    refine (List.mem_append.mp recorded).resolve_right fun last => ?_
    obtain rfl := only lease last
    cases free.symm.trans (barred.bound _ member _ found)
  | concluded live _ _ rest found only =>
    refine barred.of_held held (getElem?_erase_of_none barred.gone) fun lease member recorded => ?_
    refine (List.mem_append.mp recorded).resolve_right fun last => ?_
    obtain rfl := only lease last
    have grouped := (h.member live (Finset.mem_of_mem_erase rest) found).1
    cases grouped.symm.trans (barred.bound _ member _ found)
    cases barred.gone.symm.trans live
  | orphaned | freed | rolledBack =>
    exact barred.of_held held (getElem?_erase_of_none barred.gone) fun _ _ recorded => recorded
  | opened | saw | placedNothing | wrote | withdrew =>
    exact barred.of_held held barred.gone fun _ _ recorded => recorded

end Barred

/-! ## Sequences of moves -/

section Moves

variable (sound : b.Sound) (path : Relation.ReflTransGen LeaseMove b b')

include sound path

theorem Sound.moves : b'.Sound := by
  induction path with
  | refl => exact sound
  | tail _ move ih => exact ih.move move

theorem Held.moves (held : b.Held r) :
    b'.Held r ∧ ∀ lease ∈ ({r.original, r.duplicate} : Finset LeaseId),
      b'.bytesOf lease = b.bytesOf lease := by
  induction path with
  | refl => exact ⟨held, fun _ _ => rfl⟩
  | tail earlier move ih =>
    obtain ⟨held, same⟩ := ih
    refine ⟨held.move (sound.moves earlier).ledgered move, fun lease member => ?_⟩
    rw [held.bytesOf_eq member move, same lease member]

theorem Barred.moves (barred : b.Barred r) : b'.Barred r := by
  induction path with
  | refl => exact barred
  | tail earlier move ih => exact ih.move (sound.moves earlier).ledgered move

end Moves

theorem Sound.held (h : b.Sound) {commit : LeaseCommit}
    (live : b.overlapGroups[id]? = some group) (chosen : group.candidate = some commit) :
    ∃ r, b.Held r ∧ r.group = id ∧ group.members = {r.original, r.duplicate} := by
  obtain ⟨r, registered, rfl, members⟩ := h.ledgered.origin live
  refine ⟨r, ⟨registered, fun group' live' => ?_, fun lease member entry found => ?_⟩, rfl, members⟩
  · cases live.symm.trans live'
    exact ⟨(h.settled.candidate live chosen).1, by rw [chosen]; rfl⟩
  · exact (h.ledgered.member live (members ▸ member) found).1

theorem Sound.exclusive (h : b.Sound) (registered : r ∈ b.registrations) :
    (r.original ∉ b.committed ∧ r.duplicate ∉ b.committed) ∨
      (r.original ∉ b.committed ∧ b.Quiet r.original) ∨
      (r.duplicate ∉ b.committed ∧ b.Quiet r.duplicate) := by
  cases live : b.overlapGroups[r.group]? with
  | some =>
    have members := h.ledgered.members_eq registered live
    exact .inl ⟨h.settled.uncommitted live (by simp [members]),
      h.settled.uncommitted live (by simp [members])⟩
  | none =>
    obtain ⟨first, second⟩ | ⟨first, quiet⟩ | ⟨second, quiet⟩ := h.settled.fate r registered live
    · exact .inl ⟨first.1, second.1⟩
    · exact .inr (.inl ⟨first.1, quiet⟩)
    · exact .inr (.inr ⟨second.1, quiet⟩)

theorem Sound.barred (h : b.Sound) {active : OrderedMap LeaseId ActiveLease}
    (live : b.overlapGroups[r.group]? = some group) (held : b.Held r)
    (members : group.members = {r.original, r.duplicate})
    (fewer : ∀ (lease : LeaseId) entry, active[lease]? = some entry →
      b.active[lease]? = some entry) :
    { b.withoutGroup r.group with active := active }.Barred r where
  registered := held.registered
  frozen group live := held.frozen group (getElem?_of_erase _ _ live)
  bound lease member entry found := held.bound lease member entry (fewer lease entry found)
  gone := Std.ExtTreeMap.getElem?_erase_self
  uncommitted _ member := h.settled.uncommitted live (members ▸ member)

end LeaseBook

end Ariax
