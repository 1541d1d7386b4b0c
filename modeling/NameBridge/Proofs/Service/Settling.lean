import Mathlib.Algebra.BigOperators.Group.List.Basic
import Mathlib.Algebra.Group.Action.Defs
import Mathlib.Algebra.Order.BigOperators.Group.List
import Mathlib.Algebra.Order.Ring.Nat
import NameBridge.Proofs.Service.Claiming
import NameBridge.Proofs.Service.Moves

/-!
The service comes to rest.

Without another request a task builds once more only if the requested profile has the id of what it builds and other
sources; the build that is started then is the requested one, so nothing comes after it (`Task.rebuilds`). Of the tasks
that hold a claim at most one builds under the requested id. So from the last request on at most one more build is
started, and the moves that are left are counted by the tasks (`Task.movesLeft`).
-/

namespace NameBridge

namespace Task

/-- The requested profile has the id of this one, and other sources. -/
def outdated (requested : Option Profile) (q : Profile) : Bool := requested.any fun p => p.id = q.id ∧ p ≠ q

/-- How many builds a task can start at most while the request stays as it is. -/
def rebuilds (requested : Option Profile) : Task → Nat
  | .building q | .built q | .released q => (outdated requested q).toNat
  | .superseded q => 1 + (outdated requested q).toNat

/-- How many moves a task has before it ends or builds again. -/
def stage : Task → Nat
  | .building _ => 3
  | .built _ => 2
  | .released _ => 1
  | .superseded _ => 0

/-- How many moves a task has at most while the request stays as it is: four to a build. -/
def movesLeft (requested : Option Profile) (task : Task) : Nat := task.stage + 4 * task.rebuilds requested

end Task

namespace Service

variable {s : Service} {event : Event} {i : Nat} {old : Task} {new? : Option Task}

/-! ## Counting -/

/-- How many builds the tasks can start at most while the request stays as it is. -/
def rebuilds (s : Service) : Nat := (s.tasks.map (Task.rebuilds s.requested)).sum

/-- How many moves the tasks have at most while the request stays as it is. -/
def movesLeft (s : Service) : Nat := (s.tasks.map (Task.movesLeft s.requested)).sum

theorem outdated_iff {requested : Option Profile} {q : Profile} :
    Task.outdated requested q ↔ ∃ p, requested = some p ∧ p.id = q.id ∧ p ≠ q := by
  simp [Task.outdated, Option.any_eq_true]

theorem outdated_of_successor? {q next : Profile} (h : s.successor? q = some next) :
    Task.outdated s.requested q = true ∧ Task.outdated s.requested next = false := by
  obtain ⟨hrequested, hid, hne, -⟩ := successor?_eq_some_iff.1 h
  rw [hrequested]
  exact ⟨outdated_iff.2 ⟨next, rfl, hid, hne⟩, by simp [Task.outdated]⟩

/-- The builds that a task can start are used up one by one. -/
theorem Moves.rebuilds_le (h : Moves s i event old new?) :
    (new?.bind Task.building?).toList.length + (new?.toList.map (Task.rebuilds s.requested)).sum ≤
      old.rebuilds s.requested := by
  cases h with
  | finish q outcome => simp [Task.building?, Task.rebuilds]
  | release q => simp [Task.building?, Task.rebuilds]
  | supersede hnext => simp [Task.building?, Task.rebuilds, outdated_of_successor? hnext]
  | leave hnext => simp
  | claim hfree => simp [Task.building?, Task.rebuilds]
  | yield hclaimed => simp

theorem Moves.movesLeft_lt (h : Moves s i event old new?) :
    (new?.toList.map (Task.movesLeft s.requested)).sum < old.movesLeft s.requested := by
  cases h with
  | finish q outcome => simp [Task.movesLeft, Task.stage, Task.rebuilds]
  | release q => simp [Task.movesLeft, Task.stage, Task.rebuilds]
  | supersede hnext => simp [Task.movesLeft, Task.stage, Task.rebuilds, outdated_of_successor? hnext]
  | leave hnext =>
    simp only [Option.toList_none, List.map_nil, List.sum_nil, Task.movesLeft, Task.stage]
    omega
  | claim hfree =>
    simp only [Option.toList_some, List.map_singleton, List.sum_singleton, Task.movesLeft, Task.stage, Task.rebuilds]
    omega
  | yield hclaimed =>
    simp only [Option.toList_none, List.map_nil, List.sum_nil, Task.movesLeft, Task.stage, Task.rebuilds]
    omega

theorem Moves.sum_step (h : Moves s i event old new?) (hi : s.tasks[i]? = some old) (f : Task → Nat) :
    ∃ rest, (s.tasks.map f).sum = f old + rest ∧
      ((s.step event).tasks.map f).sum = (new?.toList.map f).sum + rest := by
  obtain ⟨others, hbefore, hafter⟩ := h.perm_step hi
  refine ⟨(others.map f).sum, ?_, ?_⟩
  · rw [(hbefore.map f).sum_eq, List.map_cons, List.sum_cons]
  · rw [(hafter.map f).sum_eq, List.map_append, List.sum_append]

theorem rebuilds_step (h : ¬event.IsRequest) : (s.newBuilds event).length + (s.step event).rebuilds ≤ s.rebuilds := by
  rcases s.moves_or_eq_self h with ⟨i, old, new?, hi, hmoves⟩ | hself
  · obtain ⟨rest, hbefore, hafter⟩ := hmoves.sum_step hi (Task.rebuilds s.requested)
    have hle := hmoves.rebuilds_le
    rw [hmoves.newBuilds_eq hi, rebuilds, rebuilds, requested_step h, hbefore, hafter]
    omega
  · rw [newBuilds_eq_nil hself, hself, List.length_nil, Nat.zero_add]

/-- Whatever happens while the request stays as it is, the builds started are among those counted. -/
theorem rebuilds_run {later : List Event} (h : ∀ event ∈ later, ¬event.IsRequest) :
    (s.started later).length + (s.run later).rebuilds ≤ s.rebuilds := by
  induction later generalizing s with
  | nil => exact Nat.le_of_eq (Nat.zero_add _)
  | cons event later ih =>
    have hstep := rebuilds_step (s := s) (h event List.mem_cons_self)
    have hrun : (started (s.step event) later).length + ((s.step event).run later).rebuilds ≤ (s.step event).rebuilds :=
      ih fun x hx => h x (List.mem_cons_of_mem _ hx)
    have hcons : s.run (event :: later) = (s.step event).run later := rfl
    rw [started, List.length_append, hcons]
    omega

theorem movesLeft_step (h : Moves s i event old new?) (hi : s.tasks[i]? = some old) :
    (s.step event).movesLeft < s.movesLeft := by
  obtain ⟨rest, hbefore, hafter⟩ := h.sum_step hi (Task.movesLeft s.requested)
  have hlt := h.movesLeft_lt
  rw [movesLeft, movesLeft, requested_step h.not_isRequest, hbefore, hafter]
  omega

/-- The moves of a run are among those counted. -/
theorem Advances.length_add_le {later : List Event} (h : s.Advances later) :
    later.length + (s.run later).movesLeft ≤ s.movesLeft := by
  induction later generalizing s with
  | nil => exact Nat.le_of_eq (Nat.zero_add _)
  | cons event later ih =>
    obtain ⟨⟨i, old, new?, hi, hmoves⟩, hlater⟩ := h
    have hstep := movesLeft_step hmoves hi
    have hrun : later.length + ((s.step event).run later).movesLeft ≤ (s.step event).movesLeft := ih hlater
    have hcons : s.run (event :: later) = (s.step event).run later := rfl
    rw [List.length_cons, hcons]
    omega

/-! ## How much is left -/

theorem movesLeft_le (s : Service) : s.movesLeft ≤ 8 * s.tasks.length := by
  have htask : ∀ n ∈ s.tasks.map (Task.movesLeft s.requested), n ≤ 8 := by
    simp only [List.forall_mem_map]
    intro task _
    cases task with
    | building q | built q | released q | superseded q =>
      have hle := Bool.toNat_le (Task.outdated s.requested q)
      simp only [Task.movesLeft, Task.stage, Task.rebuilds]
      omega
  have hsum := List.sum_le_card_nsmul _ 8 htask
  rwa [List.length_map, smul_eq_mul, Nat.mul_comm] at hsum

/-- A task that holds a claim can start one build, and only under one id. -/
theorem exists_id_rebuilds_le (requested : Option Profile) : ∃ id, ∀ task : Task,
    task.rebuilds requested ≤ task.claim?.toList.count id + if task.claim? = none then 2 else 0 := by
  have hle (q : Profile) := Bool.toNat_le (Task.outdated requested q)
  cases requested with
  | none =>
    -- nothing is out of date then, under any id
    refine ⟨"", fun task => ?_⟩
    cases task <;> simp [Task.rebuilds, Task.outdated, Task.claim?]
  | some p =>
    refine ⟨p.id, fun task => ?_⟩
    cases task with
    | building q | built q =>
      by_cases hid : q.id = p.id
      · simpa [Task.rebuilds, Task.claim?, hid] using hle q
      · have hcurrent : Task.outdated (some p) q = false := by simp [Task.outdated, Ne.symm hid]
        simp [Task.rebuilds, hcurrent]
    | released q | superseded q =>
      have hq := hle q
      simp only [Task.rebuilds, Task.claim?, if_true]
      omega

theorem claims_cons (task : Task) (tasks : List Task) : claims (task :: tasks) = task.claim?.toList ++ claims tasks := by
  rw [claims, List.filterMap_cons]
  cases task.claim? <;> rfl

theorem sum_rebuilds_le (requested : Option Profile) : ∃ id, ∀ tasks : List Task,
    (tasks.map (Task.rebuilds requested)).sum ≤ (claims tasks).count id + 2 * tasks.countP (·.claim? = none) := by
  obtain ⟨id, hid⟩ := exists_id_rebuilds_le requested
  refine ⟨id, fun tasks => ?_⟩
  induction tasks with
  | nil => simp
  | cons task tasks ih =>
    have htask := hid task
    rw [List.map_cons, List.sum_cons, claims_cons, List.count_append, List.countP_cons]
    by_cases hnone : task.claim? = none
    · rw [if_pos hnone] at htask
      rw [if_pos (decide_eq_true hnone)]
      omega
    · rw [if_neg hnone] at htask
      omega

/-- At most one of the tasks that hold a claim can start a build. -/
theorem Exclusive.rebuilds_le (h : s.Exclusive) : s.rebuilds ≤ 1 + 2 * s.tasks.countP (·.claim? = none) := by
  obtain ⟨id, hid⟩ := sum_rebuilds_le s.requested
  have hnodup : (claims s.tasks).Nodup := h.held.nodup_iff.2 h.nodup
  have hcount := List.nodup_iff_count_le_one.1 hnodup id
  exact (hid s.tasks).trans (by omega)

theorem Exclusive.claimed_eq_nil (h : s.Exclusive) (hnone : s.tasks = []) : s.claimed = [] := by
  have hheld := h.held
  rw [hnone, claims, List.filterMap_nil] at hheld
  exact List.nil_perm.1 hheld

/-! ## Turns -/

theorem AllBuilding.length_builds (h : s.AllBuilding) : s.builds.length = s.tasks.length := by
  rw [builds, List.length_filterMap_eq_countP, List.countP_eq_length]
  intro task htask
  obtain ⟨p, rfl⟩ := h task htask
  rfl

/-- The completion of a build ends a task, unless it starts another build. -/
theorem AllBuilding.length_complete (h : s.AllBuilding) (hlt : i < s.tasks.length)
    (outcome : Except TableError (Table × Table)) :
    (s.takeTurn (.complete i outcome)).tasks.length + 1 =
      s.tasks.length + (s.started (Turn.complete i outcome).events).length := by
  obtain ⟨p, hi⟩ := (h.getElem? i).resolve_left (by simp [hlt])
  obtain ⟨hfinish, hnone⟩ := length_builds_finish hi outcome
  have hrelease := length_builds_step (s.step (.finish i outcome)) (.release i) id nofun
  have hdecide := length_builds_step ((s.step (.finish i outcome)).step (.release i)) (.decide i) id nofun
  have hreclaim := length_builds_step (((s.step (.finish i outcome)).step (.release i)).step (.decide i)) (.reclaim i)
    id nofun
  have hturn : s.takeTurn (.complete i outcome) =
      (((s.step (.finish i outcome)).step (.release i)).step (.decide i)).step (.reclaim i) := rfl
  rw [← h.length_builds, ← (h.takeTurn _).length_builds, hturn]
  simp only [Turn.events, started, List.length_append, hnone, List.length_nil]
  omega

/-- Each of these turns is the completion of a build in flight. -/
def Completes (s : Service) : List Turn → Prop
  | [] => True
  | turn :: later => (∃ i outcome, turn = .complete i outcome ∧ i < s.tasks.length) ∧ Completes (s.takeTurn turn) later

/-- The builds that these turns start. -/
def startedIn (s : Service) (later : List Turn) : List Profile := s.started (later.flatMap Turn.events)

/-- Each completion ends a task or starts a build. -/
theorem AllBuilding.length_completes {later : List Turn} (h : s.AllBuilding) (hlater : s.Completes later) :
    later.length + (later.foldl Service.takeTurn s).tasks.length = s.tasks.length + (s.startedIn later).length := by
  induction later generalizing s with
  | nil => exact Nat.add_comm ..
  | cons turn later ih =>
    obtain ⟨⟨i, outcome, rfl, hlt⟩, hlater⟩ := hlater
    have hturn := h.length_complete hlt outcome
    have hrun := ih (h.takeTurn _) hlater
    rw [startedIn, List.flatMap_cons, started_append, List.length_append, List.length_cons, List.foldl_cons]
    have hafter : s.run (Turn.complete i outcome).events = s.takeTurn (.complete i outcome) := rfl
    rw [startedIn] at hrun
    rw [hafter]
    omega

theorem Completes.not_isRequest {later : List Turn} (h : s.Completes later) :
    ∀ event ∈ later.flatMap Turn.events, ¬event.IsRequest := by
  induction later generalizing s with
  | nil => exact fun _ hevent => absurd hevent List.not_mem_nil
  | cons turn later ih =>
    obtain ⟨⟨i, outcome, rfl, -⟩, hlater⟩ := h
    rw [List.flatMap_cons]
    intro event hevent
    rcases List.mem_append.1 hevent with hevent | hevent
    · simp only [Turn.events, List.mem_cons, List.not_mem_nil, or_false] at hevent
      rcases hevent with rfl | rfl | rfl | rfl <;> exact id
    · exact ih hlater event hevent

theorem Completes.concat {later : List Turn} (h : s.Completes later) (hi : i < (later.foldl takeTurn s).tasks.length)
    (outcome : Except TableError (Table × Table)) : s.Completes (later ++ [.complete i outcome]) := by
  induction later generalizing s with
  | nil => exact ⟨⟨i, outcome, rfl, hi⟩, trivial⟩
  | cons turn later ih => exact ⟨h.1, ih h.2 hi⟩

/-- While every task is building, at most one of them has another build to start. -/
theorem AllBuilding.rebuilds_le (h : s.AllBuilding) (hexclusive : s.Exclusive) : s.rebuilds ≤ 1 := by
  have hclaims : s.tasks.countP (·.claim? = none) = 0 := by
    refine List.countP_eq_zero.2 fun task htask => ?_
    obtain ⟨p, rfl⟩ := h task htask
    simp [Task.claim?]
  have hle := hexclusive.rebuilds_le
  omega

/-- What is started then is the requested profile, in place of an older build under its id. -/
theorem AllBuilding.replaces {later : List Event} (h : s.AllBuilding) (hlater : ∀ event ∈ later, ¬event.IsRequest)
    {p : Profile} (hp : p ∈ s.started later) :
    s.requested = some p ∧ ∃ q, .building q ∈ s.tasks ∧ q.id = p.id ∧ q ≠ p := by
  have hrequested : s.requested = some p := by
    refine (requested_of_mem_started hlater hp).resolve_right fun hsuperseded => ?_
    obtain ⟨q, hq⟩ := h _ hsuperseded
    cases hq
  -- a build can only be started if some task has one to start
  have hpositive : s.rebuilds ≠ 0 := by
    have hle := rebuilds_run (s := s) hlater
    have hlength := List.length_pos_of_mem hp
    omega
  obtain ⟨task, htask, hne⟩ : ∃ task ∈ s.tasks, task.rebuilds s.requested ≠ 0 := by
    by_contra hnone
    refine hpositive (List.sum_eq_zero fun n hn => ?_)
    obtain ⟨task, htask, rfl⟩ := List.mem_map.1 hn
    exact not_not.1 fun hne => hnone ⟨task, htask, hne⟩
  obtain ⟨q, rfl⟩ := h task htask
  have houtdated : Task.outdated s.requested q := by
    by_contra hnot
    exact hne (by simp [Task.rebuilds, hnot])
  obtain ⟨p', hp', hid, hother⟩ := outdated_iff.1 houtdated
  obtain rfl := Option.some.inj (hrequested.symm.trans hp')
  exact ⟨hrequested, q, htask, hid.symm, hother.symm⟩

end Service

end NameBridge
