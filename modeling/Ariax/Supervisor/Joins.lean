import Ariax.Supervisor.Moves

/-!
# The workers and their places

The join set, the map from its numbers to tasks and the map of active
workers agree: every worker that runs is the active worker of its task, and
a task has at most one.
-/

namespace Ariax

open OrderedMap Prod

namespace HttpWorkerSupervisor

structure Joined (joins : JoinSet) (byJoin : OrderedMap ℕ TaskId)
    (active : OrderedMap TaskId ActiveWorker) (nextJoin : ℕ) : Prop where
  distinct : (joins.running.map fst ++ joins.ended.map fst).Nodup
  below : ∀ joinId ∈ joins.running.map fst ++ joins.ended.map fst, joinId < nextJoin
  running : ∀ worker ∈ joins.running, byJoin[worker.1]? = some worker.2.taskId ∧
    ∃ current : ActiveWorker, active[worker.2.taskId]? = some current ∧
      current.identity = worker.2
  unique : ∀ (joinId joinId' : ℕ) (task : TaskId), byJoin[joinId]? = some task →
    byJoin[joinId']? = some task → joinId = joinId'
  working : ∀ (joinId : ℕ) (task : TaskId), byJoin[joinId]? = some task →
    joinId < nextJoin ∧ (active[task]?).isSome

/-- A supervisor whose join set agrees with its active workers. -/
def Staffed (s : HttpWorkerSupervisor) : Prop := Joined s.joins s.byJoin s.active s.nextJoin

theorem Emits.staffed {s s' : HttpWorkerSupervisor} {events : List RuntimeEventSubmission}
    (emits : Emits s s' events) (staffed : s.Staffed) : s'.Staffed := by
  rw [Staffed, emits.joins, emits.byJoin, emits.active, emits.nextJoin]
  exact staffed

theorem Staffed.alone {s : HttpWorkerSupervisor} (staffed : s.Staffed)
    {worker worker' : ℕ × RuntimeIdentity} (one : worker ∈ s.joins.running)
    (two : worker' ∈ s.joins.running) (same : worker.2.taskId = worker'.2.taskId) :
    worker = worker' := by
  obtain ⟨known, current, active, own⟩ := staffed.running worker one
  obtain ⟨known', current', active', own'⟩ := staffed.running worker' two
  rw [same] at known active
  rw [active] at active'
  cases active'
  exact Prod.ext (staffed.unique _ _ _ known known') (own.symm.trans own')

variable {s s' : HttpWorkerSupervisor}

theorem Staffed.replace (staffed : s.Staffed) {active : OrderedMap TaskId ActiveWorker}
    (same : ∀ (task : TaskId) (worker : ActiveWorker), s.active[task]? = some worker →
      ∃ worker' : ActiveWorker, active[task]? = some worker' ∧
        worker'.identity = worker.identity) :
    Joined s.joins s.byJoin active s.nextJoin := by
  refine { staffed with running := fun worker member => ?_, working := fun joinId task known => ?_ }
  · obtain ⟨known, current, there, own⟩ := staffed.running worker member
    obtain ⟨current', there', own'⟩ := same _ _ there
    exact ⟨known, current', there', own'.trans own⟩
  · obtain ⟨below, some⟩ := staffed.working joinId task known
    obtain ⟨worker, there⟩ := Option.isSome_iff_exists.mp some
    obtain ⟨worker', there', -⟩ := same _ _ there
    exact ⟨below, by rw [there']; rfl⟩

theorem Staffed.spawn (staffed : s.Staffed) {authority : ActiveTransferRequest}
    (free : s.active[authority.identity.taskId]? = none) : (s.spawn authority).Staffed := by
  have idle (joinId : ℕ) (task : TaskId) (known : s.byJoin[joinId]? = some task) :
      authority.identity.taskId ≠ task := by
    rintro rfl
    have some := (staffed.working joinId _ known).2
    rw [free] at some
    cases some
  have moved : ((s.joins.running ++ [(s.nextJoin, authority.identity)]).map fst ++
      s.joins.ended.map fst).Perm
        (s.nextJoin :: (s.joins.running.map fst ++ s.joins.ended.map fst)) := by
    rw [List.map_append, List.append_assoc]
    exact List.perm_middle
  constructor
  · refine moved.nodup_iff.mpr (List.nodup_cons.mpr ⟨fun member => ?_, staffed.distinct⟩)
    exact absurd (staffed.below _ member) (lt_irrefl _)
  · intro joinId member
    rcases List.mem_cons.mp (moved.mem_iff.mp member) with rfl | member
    · exact Nat.lt_succ_self _
    · exact Nat.lt_succ_of_lt (staffed.below joinId member)
  · intro worker member
    change (s.byJoin.insert _ _)[worker.1]? = _ ∧ ∃ current : ActiveWorker,
      (s.active.insert _ _)[worker.2.taskId]? = _ ∧ _
    rcases mem_snoc.mp member with earlier | rfl
    · obtain ⟨known, current, there, own⟩ := staffed.running worker earlier
      have old : s.nextJoin ≠ worker.1 := (staffed.working _ _ known).1.ne'
      rw [getElem?_insert, getElem?_insert, if_neg old, if_neg (idle _ _ known)]
      exact ⟨known, current, there, own⟩
    · rw [getElem?_insert, getElem?_insert, if_pos rfl, if_pos rfl]
      exact ⟨rfl, _, rfl, rfl⟩
  · intro joinId joinId' task known known'
    rcases getElem?_insert_eq_some.mp known with ⟨rfl, rfl⟩ | ⟨-, there⟩ <;>
      rcases getElem?_insert_eq_some.mp known' with ⟨rfl, same⟩ | ⟨-, there'⟩
    · rfl
    · exact absurd rfl (idle _ _ there')
    · exact absurd same.symm (idle _ _ there)
    · exact staffed.unique _ _ _ there there'
  · intro joinId task known
    rcases getElem?_insert_eq_some.mp known with ⟨rfl, rfl⟩ | ⟨-, there⟩
    · refine ⟨Nat.lt_succ_self _, ?_⟩
      change ((s.active.insert _ _)[authority.identity.taskId]?).isSome
      rw [getElem?_insert, if_pos rfl]
      rfl
    · obtain ⟨below, some⟩ := staffed.working joinId task there
      refine ⟨Nat.lt_succ_of_lt below, ?_⟩
      change ((s.active.insert _ _)[task]?).isSome
      rw [getElem?_insert, if_neg (idle _ _ there)]
      exact some

variable {rest : List (ℕ × Option WorkerCompletion)}

theorem Joined.drop {ended : ℕ × Option WorkerCompletion}
    (joined : Joined s.joins s.byJoin s.active s.nextJoin) (first : s.joins.ended = ended :: rest) :
    (s.joins.running.map fst ++ rest.map fst).Nodup ∧
      (∀ joinId ∈ s.joins.running.map fst ++ rest.map fst, joinId < s.nextJoin) ∧
      ∀ worker ∈ s.joins.running, worker.1 ≠ ended.1 := by
  have part : (s.joins.running.map fst ++ rest.map fst).Sublist
      (s.joins.running.map fst ++ s.joins.ended.map fst) := by
    rw [first, List.map_cons]
    exact (List.Sublist.refl _).append (List.sublist_cons_self _ _)
  refine ⟨part.nodup joined.distinct, fun joinId member => joined.below joinId (part.subset member),
    fun worker member same => ?_⟩
  have apart := (List.nodup_append.mp joined.distinct).2.2
  exact apart worker.1 (List.mem_map_of_mem member) ended.1 (by rw [first]; simp) same

theorem Staffed.release (staffed : s.Staffed) {joinId : ℕ} {completion : Option WorkerCompletion}
    {task : TaskId} (ended : s.joins.ended = (joinId, completion) :: rest)
    (known : s.byJoin[joinId]? = some task) : (s.released joinId task rest).Staffed := by
  obtain ⟨distinct, below, apart⟩ := Joined.drop staffed ended
  -- the task of another number is another task, so its worker stays
  have other {joinId' : ℕ} {task' : TaskId} (different : joinId ≠ joinId')
      (known' : s.byJoin[joinId']? = some task') : task ≠ task' := by
    rintro rfl
    exact different (staffed.unique _ _ _ known known')
  refine ⟨distinct, below, fun worker member => ?_, fun one two task' there there' => ?_,
    fun joinId' task' there => ?_⟩
  · obtain ⟨known', current, there, own⟩ := staffed.running worker member
    have different : joinId ≠ worker.1 := (apart worker member).symm
    change (s.byJoin.erase joinId)[worker.1]? = _ ∧ ∃ current : ActiveWorker,
      (s.active.erase task)[worker.2.taskId]? = _ ∧ _
    rw [getElem?_erase, getElem?_erase, if_neg different, if_neg (other different known')]
    exact ⟨known', current, there, own⟩
  · exact staffed.unique one two task' (getElem?_erase_eq_some.mp there).2
      (getElem?_erase_eq_some.mp there').2
  · obtain ⟨different, known'⟩ := getElem?_erase_eq_some.mp there
    obtain ⟨below', some⟩ := staffed.working joinId' task' known'
    refine ⟨below', ?_⟩
    change ((s.active.erase task)[task']?).isSome
    rw [getElem?_erase, if_neg (other different.symm known')]
    exact some

theorem Move.staffed (move : Move s s') (staffed : s.Staffed) : s'.Staffed := by
  cases move with
  | emitted emits => exact emits.staffed staffed
  | refused _ _ _ emits =>
    exact emits.staffed (show (s.withAllocations _).Staffed from staffed)
  | @started allocation before after s' queued free emits =>
    have started : s'.Staffed := emits.staffed (show (s.withAllocations _).Staffed from staffed)
    refine started.spawn ?_
    rw [emits.active]
    exact free
  | drained _ _ _ emits =>
    exact emits.staffed (show (s.withCancellations _).Staffed from staffed)
  | @held request before after worker queued working =>
    refine staffed.replace fun task current there => ?_
    change ∃ worker' : ActiveWorker, (s.active.insert request.identity.taskId _)[task]? =
      some worker' ∧ _
    rw [getElem?_insert]
    split
    · rename_i same
      rw [← same, working] at there
      cases there
      exact ⟨_, rfl, rfl⟩
    · exact ⟨current, there, rfl⟩
  | @joined joinId completion rest task worker events _ ended known working made emits =>
    exact emits.staffed (staffed.release ended known)
  | unknown ended =>
    obtain ⟨distinct, below, -⟩ := Joined.drop staffed ended
    exact ⟨distinct, below, staffed.running, staffed.unique, staffed.working⟩
  | orphaned _ known idle =>
    have some := (staffed.working _ _ known).2
    rw [idle] at some
    cases some
  | told =>
    refine staffed.replace fun task worker there => ?_
    rw [cancelWorkers, Std.ExtTreeMap.getElem?_map, there]
    exact ⟨_, rfl, rfl⟩

theorem Staffed.endWorker (staffed : s.Staffed) (joinId : ℕ)
    (result : Option (Except PublicError HttpWorkerSuccess)) :
    (s.endWorker joinId result).Staffed := by
  unfold HttpWorkerSupervisor.endWorker
  split
  · exact staffed
  · rename_i worker found
    have member := List.mem_of_find?_eq_some found
    have here : worker.1 = joinId := by simpa using List.find?_some found
    have part : (s.joins.running.filter fun other => other.1 ≠ joinId).Sublist s.joins.running :=
      List.filter_sublist
    have ran : joinId ∈ s.joins.running.map fst := here ▸ List.mem_map_of_mem member
    obtain ⟨nodup, nodup', apart⟩ := List.nodup_append.mp staffed.distinct
    refine { staffed with
      distinct := ?_
      below := ?_
      running := fun other member => staffed.running other (part.subset member) }
    · rw [List.map_append, ← List.append_assoc]
      refine List.nodup_append.mpr ⟨?_, by simp, ?_⟩
      · exact ((part.map _).append_right _).nodup staffed.distinct
      · intro other earlier last listed same
        rw [same, List.mem_singleton.mp listed] at earlier
        rcases List.mem_append.mp earlier with running | ended
        · obtain ⟨other, kept, same⟩ := List.mem_map.mp running
          have different := (List.mem_filter.mp kept).2
          simp [same] at different
        · exact apart joinId ran joinId ended rfl
    · intro other member
      rw [List.map_append, ← List.append_assoc] at member
      rcases mem_snoc.mp member with earlier | rfl
      · exact staffed.below other (((part.map _).append_right _).subset earlier)
      · exact staffed.below _ (List.mem_append_left _ ran)

end HttpWorkerSupervisor

end Ariax
