import Mathlib.Data.Multiset.AddSub
import NameBridge.Proofs.Service.Publishing

/-!
Moves of tasks.

An event that is no request moves one task on and leaves the others where they are, or does nothing
(`Service.moves_or_eq_self`, `Service.Moves.tasks_step`). The build that a task comes to is the one that the event
starts (`Service.newBuilds`). Without another request all that is started is the requested profile, or a task was about
to start it already.
-/

namespace NameBridge

namespace Task

/-- The profile that a task is building. -/
def building? : Task → Option Profile
  | .building p => some p
  | .built _ | .released _ | .superseded _ => none

/-- The event that moves a task on, and takes this outcome if it ends a build. -/
def next (i : Nat) (outcome : Except TableError (Table × Table)) : Task → Service.Event
  | .building _ => .finish i outcome
  | .built _ => .release i
  | .released _ => .decide i
  | .superseded _ => .reclaim i

end Task

namespace Service

variable {s : Service} {event : Event} {i : Nat} {old : Task} {new? : Option Task}

/-! ## Moves -/

/-- The event moves task `i` on, from this task to that one or to its end. -/
inductive Moves (s : Service) (i : Nat) : Event → Task → Option Task → Prop
  | finish (q : Profile) (outcome : Except TableError (Table × Table)) :
    Moves s i (.finish i outcome) (.building q) (some (.built q))
  | release (q : Profile) : Moves s i (.release i) (.built q) (some (.released q))
  | supersede {q next : Profile} (h : s.successor? q = some next) :
    Moves s i (.decide i) (.released q) (some (.superseded next))
  | leave {q : Profile} (h : s.successor? q = none) : Moves s i (.decide i) (.released q) none
  | claim {q : Profile} (h : q.id ∉ s.claimed) : Moves s i (.reclaim i) (.superseded q) (some (.building q))
  | yield {q : Profile} (h : q.id ∈ s.claimed) : Moves s i (.reclaim i) (.superseded q) none

theorem Moves.not_isRequest (h : Moves s i event old new?) : ¬event.IsRequest := by
  cases h <;> exact id

/-- A task can be moved on, whatever its build comes to. -/
theorem exists_moves (s : Service) (i : Nat) (old : Task) (outcome : Except TableError (Table × Table)) :
    ∃ new?, Moves s i (old.next i outcome) old new? := by
  cases old with
  | building q => exact ⟨_, .finish q outcome⟩
  | built q => exact ⟨_, .release q⟩
  | released q =>
    cases hnext : s.successor? q with
    | some next => exact ⟨_, .supersede hnext⟩
    | none => exact ⟨_, .leave hnext⟩
  | superseded q =>
    by_cases hclaimed : q.id ∈ s.claimed
    · exact ⟨_, .yield hclaimed⟩
    · exact ⟨_, .claim hclaimed⟩

/-- An event that is no request moves one task on, or does nothing. -/
theorem moves_or_eq_self (s : Service) (h : ¬event.IsRequest) :
    (∃ i old new?, s.tasks[i]? = some old ∧ Moves s i event old new?) ∨ s.step event = s := by
  cases event with
  | request profile => exact absurd trivial h
  | finish i outcome =>
    rw [step, finish]
    split
    · exact .inl ⟨i, _, _, ‹_›, .finish _ outcome⟩
    · exact .inr rfl
  | release i =>
    rw [step, release]
    split
    · exact .inl ⟨i, _, _, ‹_›, .release _⟩
    · exact .inr rfl
  | decide i =>
    rw [step, Service.decide]
    split
    · rename_i q hi
      obtain ⟨new?, hmoves⟩ := s.exists_moves i (.released q) (.ok (.empty, .empty))
      exact .inl ⟨i, _, new?, hi, hmoves⟩
    · exact .inr rfl
  | reclaim i =>
    rw [step, reclaim]
    split
    · rename_i q hi
      obtain ⟨new?, hmoves⟩ := s.exists_moves i (.superseded q) (.ok (.empty, .empty))
      exact .inl ⟨i, _, new?, hi, hmoves⟩
    · exact .inr rfl

/-- A move changes its own task and leaves the others where they are. -/
theorem Moves.tasks_step (h : Moves s i event old new?) (hi : s.tasks[i]? = some old) :
    ∃ before after, before.length = i ∧ s.tasks = before ++ old :: after ∧
      (s.step event).tasks = before ++ (new?.toList ++ after) := by
  obtain ⟨before, after, hlength, htasks, hset, herase⟩ := exists_around hi
  refine ⟨before, after, hlength, htasks, ?_⟩
  cases h with
  | finish q outcome =>
    simp only [step, Service.finish, hi, moveTask, tasks_conclude]
    exact hset _
  | release q =>
    simp only [step, Service.release, hi]
    exact hset _
  | supersede hnext =>
    simp only [step, Service.decide, hi, hnext]
    exact hset _
  | leave hnext =>
    simp only [step, Service.decide, hi, hnext]
    exact herase
  | claim hfree =>
    simp only [step, reclaim, hi, if_neg hfree]
    exact hset _
  | yield hclaimed =>
    simp only [step, reclaim, hi, if_pos hclaimed]
    exact herase

theorem Moves.perm_step (h : Moves s i event old new?) (hi : s.tasks[i]? = some old) :
    ∃ others, s.tasks.Perm (old :: others) ∧ (s.step event).tasks.Perm (new?.toList ++ others) := by
  obtain ⟨before, after, -, hbefore, hafter⟩ := h.tasks_step hi
  exact ⟨before ++ after, hbefore ▸ List.perm_middle, hafter ▸ List.perm_append_comm_assoc ..⟩

/-- A task that is released gives its id up, and one that builds again claims it; no other move touches a claim. -/
theorem Moves.claimed_step (h : Moves s i event old new?) (hi : s.tasks[i]? = some old) :
    (s.step event).claimed =
      match new? with
      | some (.released q) => s.claimed.erase q.id
      | some (.building q) => q.id :: s.claimed
      | _ => s.claimed := by
  cases h with
  | finish q outcome => simp only [step, Service.finish, hi, moveTask, claimed_conclude]
  | release q => simp only [step, Service.release, hi, moveTask]
  | supersede hnext => simp only [step, Service.decide, hi, hnext, moveTask]
  | leave hnext => simp only [step, Service.decide, hi, hnext, endTask]
  | claim hfree => simp only [step, reclaim, hi, if_neg hfree, moveTask]
  | yield hclaimed => simp only [step, reclaim, hi, if_pos hclaimed, endTask]

/-! ## Runs of moves -/

/-- Each of these events moves a task on. -/
def Advances (s : Service) : List Event → Prop
  | [] => True
  | event :: later => (∃ i old new?, s.tasks[i]? = some old ∧ Moves s i event old new?) ∧ Advances (s.step event) later

/-- As long as a task is left a run can go on, with any outcome of a build. -/
theorem Advances.concat {later : List Event} (h : s.Advances later) (hi : (s.run later).tasks[i]? = some old)
    (hmoves : Moves (s.run later) i event old new?) : s.Advances (later ++ [event]) := by
  induction later generalizing s with
  | nil => exact ⟨⟨i, old, new?, hi, hmoves⟩, trivial⟩
  | cons first later ih => exact ⟨h.1, ih h.2 hi hmoves⟩

/-! ## Builds -/

/-- What the tasks are building. -/
def builds (s : Service) : List Profile := s.tasks.filterMap Task.building?

/-- The builds that are under way after an event and were not before. -/
def newBuilds (s : Service) (event : Event) : List Profile := (s.step event).builds.diff s.builds

/-- The builds that these events start, in order. -/
def started (s : Service) : List Event → List Profile
  | [] => []
  | event :: later => s.newBuilds event ++ started (s.step event) later

theorem started_append (s : Service) (events later : List Event) :
    s.started (events ++ later) = s.started events ++ (s.run events).started later := by
  induction events generalizing s with
  | nil => rfl
  | cons event events ih =>
    rw [List.cons_append, started, started, ih, List.append_assoc]
    rfl

theorem count_diff (l l' : List Profile) (p : Profile) : (l.diff l').count p = l.count p - l'.count p := by
  rw [← Multiset.coe_count, ← Multiset.coe_sub, Multiset.count_sub, Multiset.coe_count, Multiset.coe_count]

theorem diff_perm {l extra l' : List Profile} (h : l.Perm (extra ++ l')) : (l.diff l').Perm extra :=
  List.perm_iff_count.2 fun p => by rw [count_diff, h.count_eq, List.count_append, Nat.add_sub_cancel]

theorem diff_eq_nil {l extra l' : List Profile} (h : l'.Perm (extra ++ l)) : l.diff l' = [] := by
  refine List.perm_nil.1 (List.perm_iff_count.2 fun p => ?_)
  rw [count_diff, h.count_eq, List.count_append, List.count_nil]
  omega

/-- A move starts the build that its task comes to. -/
theorem Moves.newBuilds_eq (h : Moves s i event old new?) (hi : s.tasks[i]? = some old) :
    s.newBuilds event = (new?.bind Task.building?).toList := by
  obtain ⟨others, hbefore, hafter⟩ := h.perm_step hi
  have hbefore' := hbefore.filterMap Task.building?
  have hafter' := hafter.filterMap Task.building?
  rw [newBuilds, builds, builds]
  -- the end of a build takes one away, a new claim adds one, and no other move touches the builds
  cases h with
  | finish q outcome => exact diff_eq_nil (hbefore'.trans (.append_left [q] hafter'.symm))
  | claim hfree => exact List.perm_singleton.1 (diff_perm (hafter'.trans (.append_left [_] hbefore'.symm)))
  | _ => exact List.perm_nil.1 (diff_perm (hafter'.trans hbefore'.symm))

theorem newBuilds_eq_nil (hself : s.step event = s) : s.newBuilds event = [] := by
  have hperm : s.builds.Perm ([] ++ s.builds) := .refl _
  rw [newBuilds, hself]
  exact diff_eq_nil hperm

/-- Only the end of a build takes one away. -/
theorem length_builds_step (s : Service) (event : Event) (h : ¬event.IsRequest)
    (hother : ∀ i outcome, event ≠ .finish i outcome) :
    (s.step event).builds.length = s.builds.length + (s.newBuilds event).length := by
  rcases s.moves_or_eq_self h with ⟨i, old, new?, hi, hmoves⟩ | hself
  · obtain ⟨others, hbefore, hafter⟩ := hmoves.perm_step hi
    rw [hmoves.newBuilds_eq hi, builds, builds, (hbefore.filterMap _).length_eq, (hafter.filterMap _).length_eq]
    cases hmoves with
    | finish q outcome => exact absurd rfl (hother i outcome)
    | _ => rfl
  · rw [newBuilds_eq_nil hself, hself, List.length_nil, Nat.add_zero]

theorem length_builds_finish {p : Profile} (hi : s.tasks[i]? = some (.building p))
    (outcome : Except TableError (Table × Table)) :
    (s.step (.finish i outcome)).builds.length + 1 = s.builds.length ∧ s.newBuilds (.finish i outcome) = [] := by
  have hmoves : Moves s i (.finish i outcome) (.building p) (some (.built p)) := .finish p outcome
  obtain ⟨others, hbefore, hafter⟩ := hmoves.perm_step hi
  refine ⟨?_, hmoves.newBuilds_eq hi⟩
  rw [builds, builds, (hbefore.filterMap _).length_eq, (hafter.filterMap _).length_eq]
  rfl

/-- What an event starts, a task was about to build. -/
theorem superseded_of_mem_newBuilds {p : Profile} (h : ¬event.IsRequest) (hp : p ∈ s.newBuilds event) :
    .superseded p ∈ s.tasks := by
  rcases s.moves_or_eq_self h with ⟨i, old, new?, hi, hmoves⟩ | hself
  · rw [hmoves.newBuilds_eq hi] at hp
    cases hmoves with
    | claim hfree =>
      obtain rfl := List.mem_singleton.1 hp
      exact List.mem_of_getElem? hi
    | _ => cases hp
  · rw [newBuilds_eq_nil hself] at hp
    cases hp

/-- What a task is about to build is requested at the moment at which it is chosen. -/
theorem superseded_of_mem_step {p : Profile} (h : ¬event.IsRequest) (hp : .superseded p ∈ (s.step event).tasks) :
    .superseded p ∈ s.tasks ∨ s.requested = some p := by
  rcases s.moves_or_eq_self h with ⟨i, old, new?, hi, hmoves⟩ | hself
  · obtain ⟨others, hbefore, hafter⟩ := hmoves.perm_step hi
    rcases List.mem_append.1 (hafter.mem_iff.1 hp) with hnew | hother
    · cases hmoves with
      | supersede hnext =>
        obtain ⟨rfl⟩ := List.mem_singleton.1 hnew
        exact .inr (successor?_eq_some hnext).1
      | _ => simp at hnew
    · exact .inl (hbefore.mem_iff.2 (List.mem_cons_of_mem _ hother))
  · exact .inl (hself ▸ hp)

/-- Every build that is started is of the requested profile, or a task was about to start it already. -/
theorem requested_of_mem_started {later : List Event} (h : ∀ event ∈ later, ¬event.IsRequest) {p : Profile}
    (hp : p ∈ s.started later) : s.requested = some p ∨ .superseded p ∈ s.tasks := by
  induction later generalizing s with
  | nil => cases hp
  | cons event later ih =>
    have hevent := h event List.mem_cons_self
    rcases List.mem_append.1 hp with hp | hp
    · exact .inr (superseded_of_mem_newBuilds hevent hp)
    · rcases ih (fun x hx => h x (List.mem_cons_of_mem _ hx)) hp with hrequested | hsuperseded
      · exact .inl ((requested_step hevent).symm.trans hrequested)
      · exact (superseded_of_mem_step hevent hsuperseded).symm

end Service

end NameBridge
