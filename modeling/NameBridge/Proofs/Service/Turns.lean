import Mathlib.Data.List.Induction
import NameBridge.Service.State

/-!
Runs of the service in whole turns.

The events of `Service.step` let a request come between the end of a build and the release of its claim.
A turn is coarser: a request, or the completion of a build with everything its task does after it. Between
turns every task is building, so `requested`, `claimed` and the tasks tell where each request stands.
-/

namespace NameBridge.Service

/-- A request, or the completion of the build of one task. -/
inductive Turn where
  | request (profile : Option Profile)
  | complete (i : Nat) (outcome : Except TableError (Table × Table))

/-- What happens in a turn, in order. -/
def Turn.events : Turn → List Event
  | .request profile => [.request profile]
  | .complete i outcome => [.finish i outcome, .release i, .decide i, .reclaim i]

def takeTurn (s : Service) (turn : Turn) : Service := s.run turn.events

/-- The state after these turns, from the initial one. -/
def afterTurns (turns : List Turn) : Service := turns.foldl takeTurn initial

theorem afterTurns_concat (turns : List Turn) (turn : Turn) :
    afterTurns (turns ++ [turn]) = (afterTurns turns).takeTurn turn := by
  simp [afterTurns]

theorem run_concat (s : Service) (events : List Event) (event : Event) :
    s.run (events ++ [event]) = (s.run events).step event := by
  simp [run]

theorem afterTurns_eq_run (turns : List Turn) : afterTurns turns = initial.run (turns.flatMap Turn.events) := by
  induction turns using List.reverseRecOn with
  | nil => rfl
  | append_singleton turns turn ih =>
    rw [afterTurns_concat, ih]
    simp [takeTurn, run]

/-! ## Histories -/

/-- A profile with this id that reads both sides from one place. -/
def profileAt (id location : String) : Profile where
  id := id
  community := { location }
  canonical := { location }

def Event.IsRequest : Event → Prop
  | .request _ => True
  | _ => False

def Turn.IsRequest : Turn → Prop
  | .request _ => True
  | _ => False

/-- Something of a kind has happened, and no request after it. Whether it is of that kind may depend on what
came before it. -/
def Since {α : Type} (isRequest : α → Prop) (kind : List α → α → Prop) (history : List α) : Prop :=
  ∃ before x after, history = before ++ x :: after ∧ (∀ y ∈ after, ¬isRequest y) ∧ kind before x

section

variable {α : Type} {isRequest : α → Prop} {kind : List α → α → Prop} {history : List α} {x : α}

theorem Since.concat (h : Since isRequest kind history) (hx : ¬isRequest x) :
    Since isRequest kind (history ++ [x]) := by
  obtain ⟨before, y, after, rfl, hafter, hy⟩ := h
  refine ⟨before, y, after ++ [x], by simp, fun z hz => ?_, hy⟩
  rcases List.mem_append.1 hz with hz | hz
  · exact hafter z hz
  · rwa [List.mem_singleton.1 hz]

theorem since_last (hx : kind history x) : Since isRequest kind (history ++ [x]) :=
  ⟨history, x, [], rfl, fun _ hy => absurd hy List.not_mem_nil, hx⟩

end

/-! ## Tasks -/

/-- Taking an outcome touches what is shown, and nothing else. -/
theorem conclude_eq (s : Service) (outcome : Except TableError MappingPair) :
    ∃ published lastError generation, s.conclude outcome = { s with published, lastError, generation } := by
  cases outcome with
  | error e => exact ⟨_, _, _, rfl⟩
  | ok pair =>
    rw [conclude, publish]
    split
    · exact ⟨_, _, _, rfl⟩
    · exact ⟨_, _, _, rfl⟩

theorem tasks_conclude (s : Service) (outcome : Except TableError MappingPair) :
    (s.conclude outcome).tasks = s.tasks := by
  obtain ⟨_, _, _, h⟩ := s.conclude_eq outcome
  rw [h]

theorem claimed_conclude (s : Service) (outcome : Except TableError MappingPair) :
    (s.conclude outcome).claimed = s.claimed := by
  obtain ⟨_, _, _, h⟩ := s.conclude_eq outcome
  rw [h]

theorem requested_conclude (s : Service) (outcome : Except TableError MappingPair) :
    (s.conclude outcome).requested = s.requested := by
  obtain ⟨_, _, _, h⟩ := s.conclude_eq outcome
  rw [h]

/-- What stands before and after a task, and stays there when the task changes or ends. -/
theorem exists_around {tasks : List Task} {i : Nat} {old : Task} (hi : tasks[i]? = some old) :
    ∃ before after, before.length = i ∧ tasks = before ++ old :: after ∧
      (∀ new, tasks.set i new = before ++ new :: after) ∧ tasks.eraseIdx i = before ++ after := by
  obtain ⟨hlt, rfl⟩ := List.getElem?_eq_some_iff.1 hi
  refine ⟨tasks.take i, tasks.drop (i + 1), List.length_take_of_le (Nat.le_of_lt hlt), ?_, fun new => ?_, ?_⟩
  · rw [List.getElem_cons_drop, List.take_append_drop]
  · rw [List.set_eq_take_append_cons_drop, if_pos hlt]
  · rw [List.eraseIdx_eq_take_drop_succ]

theorem mem_set_of_ne {tasks : List Task} {i : Nat} {old task : Task} (new : Task) (hi : tasks[i]? = some old)
    (htask : task ∈ tasks) (hne : task ≠ old) : task ∈ tasks.set i new := by
  obtain ⟨j, hj⟩ := List.mem_iff_getElem?.1 htask
  have hij : i ≠ j := by
    rintro rfl
    exact hne (Option.some.inj (hj.symm.trans hi))
  exact List.mem_iff_getElem?.2 ⟨j, by rw [List.getElem?_set_ne hij, hj]⟩

theorem mem_eraseIdx_of_ne {tasks : List Task} {i : Nat} {old task : Task} (hi : tasks[i]? = some old)
    (htask : task ∈ tasks) (hne : task ≠ old) : task ∈ tasks.eraseIdx i := by
  obtain ⟨j, hj⟩ := List.mem_iff_getElem?.1 htask
  refine List.mem_eraseIdx_iff_getElem?.2 ⟨j, ?_, hj⟩
  rintro rfl
  exact hne (Option.some.inj (hj.symm.trans hi))

theorem mem_set_self {tasks : List Task} {i : Nat} {old : Task} (new : Task) (hi : tasks[i]? = some old) :
    new ∈ tasks.set i new :=
  List.mem_set (List.getElem?_eq_some_iff.1 hi).1 new

/-- What is built next is requested, under the same id and with other sources, and is not published. -/
theorem successor?_eq_some_iff {s : Service} {q next : Profile} :
    s.successor? q = some next ↔ s.requested = some next ∧ next.id = q.id ∧ next ≠ q ∧ ¬s.publishes next := by
  unfold successor?
  cases hrequested : s.requested with
  | none => simp
  | some p =>
    simp only [Option.ite_none_left_eq_some, not_or, not_not, Option.some.injEq]
    constructor
    · rintro ⟨hnot, rfl⟩
      exact ⟨rfl, hnot⟩
    · rintro ⟨rfl, hnot⟩
      exact ⟨hnot, rfl⟩

theorem successor?_eq_some {s : Service} {q next : Profile} (h : s.successor? q = some next) :
    s.requested = some next ∧ next.id = q.id := by
  obtain ⟨hrequested, hid, -⟩ := successor?_eq_some_iff.1 h
  exact ⟨hrequested, hid⟩

/-- The end of a build moves its task on, and leaves claims and request as they are. -/
theorem finish_alone {s : Service} {p : Profile} (h : s.tasks = [.building p])
    (outcome : Except TableError (Table × Table)) :
    (s.finish 0 outcome).tasks = [.built p] ∧ (s.finish 0 outcome).claimed = s.claimed ∧
      (s.finish 0 outcome).requested = s.requested := by
  rw [finish, h, List.getElem?_cons_zero]
  exact ⟨congrArg (List.set · 0 _) ((tasks_conclude ..).trans h), claimed_conclude .., requested_conclude ..⟩

/-- A task builds its profile until its build ends. -/
theorem building_mem_step {s : Service} {event : Event} {q : Profile} (hq : .building q ∈ s.tasks)
    (hfinish : ∀ i outcome, event = .finish i outcome → s.tasks[i]? ≠ some (.building q)) :
    .building q ∈ (s.step event).tasks := by
  cases event with
  | request profile =>
    cases profile with
    | none =>
      rw [step, request, clear]
      split <;> exact hq
    | some p =>
      rw [step, request]
      split
      · exact hq
      · split
        · exact hq
        · exact List.mem_append_left _ hq
  | finish i outcome =>
    rw [step, finish]
    split
    · rename_i p hi
      rw [moveTask, tasks_conclude]
      exact mem_set_of_ne _ hi hq fun heq => hfinish i outcome rfl (heq ▸ hi)
    · exact hq
  | release i =>
    rw [step, release]
    split
    · rename_i p hi
      exact mem_set_of_ne _ hi hq fun heq => by cases heq
    · exact hq
  | decide i =>
    rw [step, Service.decide]
    split
    · rename_i p hi
      split
      · exact mem_set_of_ne _ hi hq fun heq => by cases heq
      · exact mem_eraseIdx_of_ne hi hq fun heq => by cases heq
    · exact hq
  | reclaim i =>
    rw [step, reclaim]
    split
    · rename_i p hi
      split
      · exact mem_eraseIdx_of_ne hi hq fun heq => by cases heq
      · exact mem_set_of_ne _ hi hq fun heq => by cases heq
    · exact hq

def AllBuilding (s : Service) : Prop := ∀ task ∈ s.tasks, ∃ p, task = .building p

theorem AllBuilding.request {s : Service} (h : s.AllBuilding) (profile : Option Profile) :
    (s.request profile).2.AllBuilding := by
  cases profile with
  | none =>
    rw [Service.request, clear]
    split <;> exact h
  | some p =>
    rw [Service.request]
    split
    · exact h
    · split
      · exact h
      · intro task htask
        rcases List.mem_append.1 htask with htask | htask
        · exact h task htask
        · exact ⟨p, List.mem_singleton.1 htask⟩

/-- What the end of a build comes to: its outcome is taken and its claim given up, and its task ends unless
it can claim the id again for what is requested by now. -/
def concluded (s : Service) (i : Nat) (p : Profile) (outcome : Except TableError (Table × Table)) : Service :=
  let s' := s.conclude (outcome.map fun (community, canonical) => ⟨p, community, canonical⟩)
  let claimed := s.claimed.erase p.id
  match s'.successor? p with
  | some next =>
    if next.id ∈ claimed then { s' with claimed, tasks := s.tasks.eraseIdx i }
    else { s' with claimed := next.id :: claimed, tasks := s.tasks.set i (.building next) }
  | none => { s' with claimed, tasks := s.tasks.eraseIdx i }

theorem reclaim_eq_self {s : Service} {i : Nat} (h : ∀ next, s.tasks[i]? ≠ some (.superseded next)) :
    s.reclaim i = s := by
  unfold reclaim
  split
  · rename_i next hi
    exact absurd hi (h next)
  · rfl

theorem takeTurn_complete {s : Service} (h : s.AllBuilding) {i : Nat} {p : Profile}
    (hi : s.tasks[i]? = some (.building p)) (outcome : Except TableError (Table × Table)) :
    s.takeTurn (.complete i outcome) = s.concluded i p outcome := by
  obtain ⟨hlt, -⟩ := List.getElem?_eq_some_iff.1 hi
  have hset (task : Task) : (s.tasks.set i task)[i]? = some task := List.getElem?_set_self hlt
  simp only [takeTurn, Turn.events, run, List.foldl_cons, List.foldl_nil, step, finish, hi, moveTask, release,
    tasks_conclude, hset, claimed_conclude, List.set_set, Service.decide]
  simp only [concluded]
  generalize s.conclude _ = c
  have hsucc (claimed : List String) (tasks : List Task) :
      { c with claimed, tasks }.successor? p = c.successor? p := rfl
  rw [hsucc]
  cases hnext : c.successor? p with
  | some next => simp only [reclaim, hset, endTask, moveTask, List.set_set, List.eraseIdx_set_eq]
  | none =>
    simp only [endTask, List.eraseIdx_set_eq]
    -- the next task has moved to place `i` by now, but it is building
    refine reclaim_eq_self fun next hnext => ?_
    obtain ⟨q, hq⟩ := h _ (List.mem_of_mem_eraseIdx (List.mem_of_getElem? hnext))
    cases hq

theorem takeTurn_complete_eq_self {s : Service} {i : Nat} (hi : s.tasks[i]? = none)
    (outcome : Except TableError (Table × Table)) : s.takeTurn (.complete i outcome) = s := by
  simp [takeTurn, Turn.events, run, step, finish, release, Service.decide, reclaim, hi]

theorem AllBuilding.getElem? {s : Service} (h : s.AllBuilding) (i : Nat) :
    s.tasks[i]? = none ∨ ∃ p, s.tasks[i]? = some (.building p) := by
  cases hi : s.tasks[i]? with
  | none => exact .inl rfl
  | some task =>
    obtain ⟨p, rfl⟩ := h task (List.mem_of_getElem? hi)
    exact .inr ⟨p, rfl⟩

theorem AllBuilding.takeTurn {s : Service} (h : s.AllBuilding) (turn : Turn) : (s.takeTurn turn).AllBuilding := by
  cases turn with
  | request profile => exact h.request profile
  | complete i outcome =>
    rcases h.getElem? i with hi | ⟨p, hi⟩
    · rwa [takeTurn_complete_eq_self hi]
    · rw [takeTurn_complete h hi, concluded]
      have herase : ∀ task ∈ s.tasks.eraseIdx i, ∃ q, task = .building q :=
        fun task htask => h task (List.mem_of_mem_eraseIdx htask)
      split
      · split
        · exact herase
        · intro task htask
          rcases List.mem_or_eq_of_mem_set htask with htask | rfl
          · exact h task htask
          · exact ⟨_, rfl⟩
      · exact herase

/-- Between turns every task is building. -/
theorem allBuilding_afterTurns (turns : List Turn) : (afterTurns turns).AllBuilding := by
  induction turns using List.reverseRecOn with
  | nil => exact fun task htask => absurd htask List.not_mem_nil
  | append_singleton turns turn ih =>
    rw [afterTurns_concat]
    exact ih.takeTurn turn

end NameBridge.Service
