import NameBridge.Proofs.Service.Moves

/-!
At most one build for each id.

A task holds a claim on the id of the profile that it builds or has just built. In every state the claims held by the
tasks are, one for one, the ids in `Service.claimed` (`Exclusive`): a request makes a claim together with the task that
holds it, a task gives up its own claim only, and it builds again only under a new one. So no two tasks hold the same
id, and an id stays claimed until the build of its task has ended.
-/

namespace NameBridge

/-- The id on which a task holds a claim. -/
def Task.claim? : Task → Option String
  | .building p | .built p => some p.id
  | .released _ | .superseded _ => none

namespace Service

variable {s : Service} {i : Nat} {id : String}

/-- The ids on which these tasks hold a claim, in their order. -/
def claims (tasks : List Task) : List String := tasks.filterMap Task.claim?

/-- The tasks hold exactly the claimed ids, each of them once. -/
structure Exclusive (s : Service) : Prop where
  held : (claims s.tasks).Perm s.claimed
  nodup : s.claimed.Nodup

theorem Exclusive.mem_claimed_iff (h : s.Exclusive) : id ∈ s.claimed ↔ ∃ task ∈ s.tasks, task.claim? = some id := by
  rw [← h.held.mem_iff, claims, List.mem_filterMap]

/-- No two tasks hold the same id. -/
theorem Exclusive.pairwise (h : s.Exclusive) :
    s.tasks.Pairwise fun t u => ∀ id, t.claim? = some id → u.claim? ≠ some id := by
  have hnodup : (claims s.tasks).Nodup := h.held.nodup_iff.2 h.nodup
  refine (List.pairwise_filterMap.1 hnodup).imp fun hne id ht hu => ?_
  exact hne id ht id hu rfl

/-! ## Events -/

theorem Exclusive.request (h : s.Exclusive) (profile : Option Profile) : (s.request profile).2.Exclusive := by
  cases profile with
  | none =>
    rw [Service.request, clear]
    split <;> exact ⟨h.held, h.nodup⟩
  | some p =>
    rw [Service.request]
    split
    · exact ⟨h.held, h.nodup⟩
    · split
      · exact ⟨h.held, h.nodup⟩
      · -- the claim is made together with the task that holds it
        refine ⟨?_, List.nodup_cons.2 ⟨‹_›, h.nodup⟩⟩
        rw [claims, List.filterMap_append]
        exact (List.perm_append_singleton ..).trans (h.held.cons p.id)

theorem Exclusive.moves {event : Event} {old : Task} {new? : Option Task} (h : s.Exclusive)
    (hmoves : Moves s i event old new?) (hi : s.tasks[i]? = some old) : (s.step event).Exclusive := by
  obtain ⟨others, hbefore, hafter⟩ := hmoves.perm_step hi
  have hheld : (claims (old :: others)).Perm s.claimed := (hbefore.filterMap _).symm.trans h.held
  have hnew : (claims (s.step event).tasks).Perm (claims (new?.toList ++ others)) := hafter.filterMap _
  have hclaimed := hmoves.claimed_step hi
  cases hmoves with
  | release q =>
    -- what is given up is the claim of this task
    have herased : ((q.id :: claims others).erase q.id).Perm (s.claimed.erase q.id) := hheld.erase q.id
    rw [List.erase_cons_head] at herased
    exact ⟨hclaimed ▸ hnew.trans herased, hclaimed ▸ h.nodup.erase _⟩
  | @claim q hfree => exact ⟨hclaimed ▸ hnew.trans (hheld.cons q.id), hclaimed ▸ List.nodup_cons.2 ⟨hfree, h.nodup⟩⟩
  | _ => exact ⟨hclaimed ▸ hnew.trans hheld, hclaimed ▸ h.nodup⟩

theorem Exclusive.step (h : s.Exclusive) (event : Event) : (s.step event).Exclusive := by
  by_cases hrequest : event.IsRequest
  · cases event with
    | request profile => exact h.request profile
    | _ => exact hrequest.elim
  · rcases s.moves_or_eq_self hrequest with ⟨i, old, new?, hi, hmoves⟩ | hself
    · exact h.moves hmoves hi
    · rwa [hself]

theorem exclusive_run (events : List Event) : (initial.run events).Exclusive := by
  induction events using List.reverseRecOn with
  | nil => exact ⟨.refl _, .nil⟩
  | append_singleton events event ih =>
    rw [run_concat]
    exact ih.step event

theorem exclusive_afterTurns (turns : List Turn) : (afterTurns turns).Exclusive := by
  rw [afterTurns_eq_run]
  exact exclusive_run _

/-! ## When an id is given up -/

/-- A request answered with `pending` leaves its id claimed; one answered with `availableNow` starts nothing. -/
theorem claimed_of_status (s : Service) (profile : Option Profile) :
    ((s.request profile).1 = .pending → ∃ p, profile = some p ∧ p.id ∈ (s.request profile).2.claimed) ∧
    ((s.request profile).1 = .availableNow →
      (s.request profile).2.tasks = s.tasks ∧ (s.request profile).2.claimed = s.claimed) := by
  cases profile with
  | none => exact ⟨fun h => (by cases h), fun h => (by cases h)⟩
  | some p =>
    rw [request]
    split
    · exact ⟨fun h => (by cases h), fun _ => ⟨rfl, rfl⟩⟩
    · split
      · exact ⟨fun _ => ⟨p, rfl, ‹_›⟩, fun h => (by cases h)⟩
      · exact ⟨fun _ => ⟨p, rfl, List.mem_cons_self⟩, fun h => (by cases h)⟩

theorem claimed_subset_request (s : Service) (profile : Option Profile) :
    s.claimed ⊆ (s.request profile).2.claimed := by
  cases profile with
  | none =>
    rw [request, clear]
    split <;> exact fun _ h => h
  | some p =>
    rw [request]
    split
    · exact fun _ h => h
    · split
      · exact fun _ h => h
      · exact fun _ h => List.mem_cons_of_mem _ h

/-- Only a task whose build has ended gives up an id, and it gives up its own. -/
theorem released_of_not_mem {event : Event} (hmem : id ∈ s.claimed) (hnot : id ∉ (s.step event).claimed) :
    ∃ i p, event = .release i ∧ s.tasks[i]? = some (.built p) ∧ p.id = id := by
  by_cases hrequest : event.IsRequest
  · cases event with
    | request profile => exact absurd (s.claimed_subset_request profile hmem) hnot
    | _ => exact hrequest.elim
  · rcases s.moves_or_eq_self hrequest with ⟨i, old, new?, hi, hmoves⟩ | hself
    · rw [hmoves.claimed_step hi] at hnot
      cases hmoves with
      | release p =>
        refine ⟨i, p, rfl, hi, ?_⟩
        by_contra hne
        exact hnot ((List.mem_erase_of_ne (Ne.symm hne)).2 hmem)
      | claim hfree => exact absurd (List.mem_cons_of_mem _ hmem) hnot
      | _ => exact absurd hmem hnot
    · rw [hself] at hnot
      exact absurd hmem hnot

/-- Between turns the end of a build ends its task and gives its id up, or the task builds what is requested under this
id by now, and keeps it claimed. -/
theorem ended_or_rebuilding (hbuilding : s.AllBuilding) (h : s.Exclusive) {p : Profile}
    (hi : s.tasks[i]? = some (.building p)) (outcome : Except TableError (Table × Table)) :
    ((s.takeTurn (.complete i outcome)).tasks = s.tasks.eraseIdx i ∧
        (s.takeTurn (.complete i outcome)).claimed = s.claimed.erase p.id) ∨
      ∃ next, next.id = p.id ∧ (s.takeTurn (.complete i outcome)).tasks = s.tasks.set i (.building next) ∧
        (s.takeTurn (.complete i outcome)).claimed.Perm s.claimed := by
  rw [takeTurn_complete hbuilding hi, concluded]
  split
  · rename_i next hnext
    obtain ⟨-, hid⟩ := successor?_eq_some hnext
    -- the id has just been given up, and is held by nobody else
    have hfree : next.id ∉ s.claimed.erase p.id := by
      rw [hid]
      exact h.nodup.not_mem_erase
    have hheld : p.id ∈ s.claimed := h.mem_claimed_iff.2 ⟨_, List.mem_of_getElem? hi, rfl⟩
    refine .inr ⟨next, hid, ?_⟩
    rw [if_neg hfree, hid]
    exact ⟨rfl, (List.perm_cons_erase hheld).symm⟩
  · exact .inl ⟨rfl, rfl⟩

/-! ## One build for each id -/

/-- No two tasks hold the same id, and the claimed ids are those that a task holds. A task holds its id from the
request or the new claim that starts it to the end of its build, and gives it up only then. A request that is pending
has its id claimed, and one that is available starts no build. In whole turns, where every task is building, an id is
given up with the end of its task, and what is built next in its place is built under the same id. -/
theorem one_build_per_id :
    (∀ events, let s := initial.run events
      (s.tasks.Pairwise fun t u => ∀ id, t.claim? = some id → u.claim? ≠ some id) ∧
      (∀ id, id ∈ s.claimed ↔ ∃ task ∈ s.tasks, task.claim? = some id) ∧ s.claimed.Nodup ∧
      (∀ profile, ((s.request profile).1 = .pending → ∃ p, profile = some p ∧ p.id ∈ (s.request profile).2.claimed) ∧
        ((s.request profile).1 = .availableNow → (s.request profile).2.tasks = s.tasks)) ∧
      ∀ event id, id ∈ s.claimed → id ∉ (s.step event).claimed →
        ∃ i p, event = .release i ∧ s.tasks[i]? = some (.built p) ∧ p.id = id) ∧
    ∀ turns, let s := afterTurns turns
      (s.tasks.Pairwise fun t u => ∃ p q, t = .building p ∧ u = .building q ∧ p.id ≠ q.id) ∧
      (∀ id, id ∈ s.claimed ↔ ∃ p, .building p ∈ s.tasks ∧ p.id = id) ∧ s.claimed.Nodup ∧
      (∀ profile, s.claimed ⊆ (s.takeTurn (.request profile)).claimed) ∧
      ∀ i outcome, let s' := s.takeTurn (.complete i outcome)
        (s.tasks[i]? = none ∧ s' = s) ∨
          ∃ p, s.tasks[i]? = some (.building p) ∧
            ((s'.tasks = s.tasks.eraseIdx i ∧ ∀ id, id ∈ s'.claimed ↔ id ∈ s.claimed ∧ id ≠ p.id) ∨
              ∃ next, next.id = p.id ∧ s'.tasks = s.tasks.set i (.building next) ∧
                ∀ id, id ∈ s'.claimed ↔ id ∈ s.claimed) := by
  refine ⟨fun events => ?_, fun turns => ?_⟩
  · have h := exclusive_run events
    refine ⟨h.pairwise, fun id => h.mem_claimed_iff, h.nodup, fun profile => ?_, fun event id => released_of_not_mem⟩
    obtain ⟨hpending, havailable⟩ := claimed_of_status (initial.run events) profile
    exact ⟨hpending, fun h => (havailable h).1⟩
  · have h := exclusive_afterTurns turns
    have hbuilding := allBuilding_afterTurns turns
    refine ⟨?_, fun id => ?_, h.nodup, claimed_subset_request _, fun i outcome => ?_⟩
    · refine h.pairwise.imp_of_mem fun ht hu hne => ?_
      obtain ⟨p, rfl⟩ := hbuilding _ ht
      obtain ⟨q, rfl⟩ := hbuilding _ hu
      exact ⟨p, q, rfl, rfl, fun hid => hne q.id (congrArg some hid) rfl⟩
    · rw [h.mem_claimed_iff]
      constructor
      · rintro ⟨task, htask, hid⟩
        obtain ⟨p, rfl⟩ := hbuilding _ htask
        exact ⟨p, htask, Option.some.inj hid⟩
      · rintro ⟨p, hp, rfl⟩
        exact ⟨_, hp, rfl⟩
    · rcases hbuilding.getElem? i with hi | ⟨p, hi⟩
      · exact .inl ⟨hi, takeTurn_complete_eq_self hi outcome⟩
      · refine .inr ⟨p, hi, ?_⟩
        rcases ended_or_rebuilding hbuilding h hi outcome with ⟨htasks, hclaimed⟩ | ⟨next, hid, htasks, hclaimed⟩
        · refine .inl ⟨htasks, fun id => ?_⟩
          rw [hclaimed, h.nodup.mem_erase_iff, and_comm]
        · exact .inr ⟨next, hid, htasks, fun id => hclaimed.mem_iff⟩

/-- A profile is requested, then other sources under its id, and the build of the first ends. -/
def builtOnce : List Event :=
  [.request (some (profileAt "a" "old")), .request (some (profileAt "a" "new")), .finish 0 (.ok (.empty, .empty))]

/-- Its task builds the other sources in turn. -/
def builtTwice : List Event :=
  builtOnce ++ [.release 0, .decide 0, .reclaim 0, .finish 0 (.ok (.empty, .empty))]

/-- A request finds the id claimed until the first build has ended; then the id is given up, and claimed again for the
other sources. Once these are published, a request for them starts nothing. -/
theorem claimed_until_built_and_again :
    "a" ∈ ((initial.run builtOnce).request (some (profileAt "a" "new"))).2.claimed ∧
    (∃ i p, Event.release 0 = .release i ∧ (initial.run builtOnce).tasks[i]? = some (.built p) ∧ p.id = "a") ∧
    "a" ∈ (initial.run builtTwice).claimed ∧
    ((initial.run builtTwice).request (some (profileAt "a" "new"))).2.tasks = (initial.run builtTwice).tasks := by
  obtain ⟨-, -, -, hrequest, hleave⟩ := one_build_per_id.1 builtOnce
  obtain ⟨-, hclaimed, -, hrequest', -⟩ := one_build_per_id.1 builtTwice
  refine ⟨?_, hleave (.release 0) "a" (by decide) (by decide), ?_, ?_⟩
  · obtain ⟨p, hp, hmem⟩ := (hrequest (some (profileAt "a" "new"))).1 rfl
    cases hp
    exact hmem
  · exact (hclaimed "a").2 ⟨_, List.mem_cons_self, rfl⟩
  · exact (hrequest' (some (profileAt "a" "new"))).2 rfl

end Service

end NameBridge
