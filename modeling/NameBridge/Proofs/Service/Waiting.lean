import NameBridge.Proofs.Service.Builds
import NameBridge.Proofs.Service.Settling

/-!
Waiting comes to an end.

A run of the tasks goes from one task to the next, and each of its steps moves a task on or leaves a build where it has
to wait (`Workshop.Goes`). So it uses up what the tasks have left, and the steps that `Workshop.wait` allows are
enough whatever is held (`runTasks_add`). Where nothing is held that a task has yet to open, no task is left after it
(`tasks_runTasks_eq_nil`).
-/

namespace NameBridge

namespace Service

variable {s : Service} {event : Service.Event} {p : Profile}

/-- The profile is requested, or a task builds it or is about to. -/
def Wants (s : Service) (p : Profile) : Prop := s.requested = some p ∨ .building p ∈ s.tasks ∨ .superseded p ∈ s.tasks

theorem Wants.of_step (h : ¬event.IsRequest) (hp : (s.step event).Wants p) : s.Wants p := by
  rcases hp with hrequested | hbuilding | hsuperseded
  · exact .inl ((requested_step h).symm.trans hrequested)
  · rcases s.moves_or_eq_self h with ⟨i, old, new?, hi, hmoves⟩ | hself
    · obtain ⟨others, hbefore, hafter⟩ := hmoves.perm_step hi
      rcases List.mem_append.1 (hafter.mem_iff.1 hbuilding) with hnew | hother
      · cases hmoves with
        | claim hfree =>
          obtain ⟨rfl⟩ := List.mem_singleton.1 hnew
          exact .inr (.inr (List.mem_of_getElem? hi))
        | _ => simp at hnew
      · exact .inr (.inl (hbefore.mem_iff.2 (List.mem_cons_of_mem _ hother)))
    · exact .inr (.inl (hself ▸ hbuilding))
  · exact (superseded_of_mem_step h hsuperseded).elim (fun h => .inr (.inr h)) .inl

end Service

namespace Workshop

variable {w w' : Workshop} {p : Profile} {i j fuel : Nat}

/-! ## One step of a run -/

/-- A run that has come to task `i` goes on: it leaves a build that has to wait, or moves the task on and stays. -/
inductive Goes (w : Workshop) (i : Nat) : Workshop → Nat → Prop
  | waits {w' : Workshop} {p : Profile} (hi : w.service.tasks[i]? = some (.building p))
    (hread : w.readPair p = (w', none)) : Goes w i w' (i + 1)
  | moves {w' : Workshop} {event : Service.Event} {old : Task} {new? : Option Task}
    (hi : w.service.tasks[i]? = some old) (hmoves : w.service.Moves i event old new?)
    (hservice : w'.service = w.service.step event) (hheld : w'.held = w.held) (hstep : Step w w') : Goes w i w' i

/-- A run is at its end, or goes on. -/
theorem runTasks_cases (w : Workshop) (i : Nat) :
    (w.service.tasks[i]? = none ∧ ∀ fuel, w.runTasks i fuel = w) ∨
      ∃ w' j, Goes w i w' j ∧ ∀ fuel, w.runTasks i (fuel + 1) = w'.runTasks j fuel := by
  cases hi : w.service.tasks[i]? with
  | none =>
    refine .inl ⟨rfl, fun fuel => ?_⟩
    cases fuel with
    | zero => rfl
    | succ fuel => rw [runTasks, hi]
  | some task =>
    right
    obtain ⟨new?, hmoves⟩ := w.service.exists_moves i task (.ok (.empty, .empty))
    cases task with
    | building p =>
      rcases hread : w.readPair p with ⟨w', outcome?⟩
      cases outcome? with
      | none => exact ⟨w', i + 1, .waits hi hread, fun fuel => by rw [runTasks, hi]; simp only [hread]⟩
      | some outcome =>
        refine ⟨{ w' with service := w'.service.finish i outcome }, i, ?_, fun fuel => ?_⟩
        · obtain ⟨-, openings, rfl⟩ := readPair_eq_some hread
          exact .moves hi (.finish p outcome) rfl rfl (.finish hi hread)
        · rw [runTasks, hi]
          simp only [hread]
    | built p =>
      exact ⟨{ w with service := w.service.release i }, i, .moves hi hmoves rfl rfl (.release w i),
        fun fuel => by rw [runTasks, hi]⟩
    | released p =>
      exact ⟨{ w with service := w.service.decide i }, i, .moves hi hmoves rfl rfl (.decide w i),
        fun fuel => by rw [runTasks, hi]⟩
    | superseded p =>
      exact ⟨{ w with service := w.service.reclaim i }, i, .moves hi hmoves rfl rfl (.reclaim w i),
        fun fuel => by rw [runTasks, hi]⟩

/-! ## Enough steps -/

/-- How many moves the tasks from task `i` on have left at most. -/
def movesFrom (w : Workshop) (i : Nat) : Nat :=
  ((w.service.tasks.drop i).map (Task.movesLeft w.service.requested)).sum

theorem Goes.movesFrom_lt (h : Goes w i w' j) : w'.movesFrom j < w.movesFrom i := by
  cases h with
  | @waits p hi hread =>
    obtain ⟨openings, rfl⟩ := readPair_eq_none hread
    obtain ⟨hlt, hp⟩ := List.getElem?_eq_some_iff.1 hi
    rw [movesFrom, movesFrom, List.drop_eq_getElem_cons hlt, hp, List.map_cons, List.sum_cons]
    exact Nat.lt_add_of_pos_left (Nat.add_pos_left (Nat.succ_pos 2) _)
  | @moves event old new? hi hmoves hservice =>
    obtain ⟨before, after, hlength, hbefore, hafter⟩ := hmoves.tasks_step hi
    have hlt := hmoves.movesLeft_lt
    rw [movesFrom, movesFrom, hservice, Service.requested_step hmoves.not_isRequest, hbefore, hafter,
      List.drop_left' hlength, List.drop_left' hlength, List.map_cons, List.sum_cons, List.map_append, List.sum_append]
    omega

/-- More steps than the tasks have moves left make no difference, whatever is held. -/
theorem runTasks_add (hfuel : w.movesFrom i < fuel) (more : Nat) : w.runTasks i (fuel + more) = w.runTasks i fuel := by
  induction fuel generalizing w i with
  | zero => cases hfuel
  | succ fuel ih =>
    rcases w.runTasks_cases i with ⟨-, hend⟩ | ⟨w', j, hgoes, hrun⟩
    · rw [hend, hend]
    · have hlt := hgoes.movesFrom_lt
      rw [Nat.add_right_comm, hrun, hrun]
      exact ih (by omega)

theorem movesFrom_lt_enoughSteps (w : Workshop) : w.movesFrom 0 < w.enoughSteps :=
  Nat.lt_succ_of_le w.service.movesLeft_le

/-! ## Nothing to wait for -/

/-- What has been read for a profile is of its sources. -/
def Sourced (w : Workshop) : Prop :=
  ∀ p, (w.reading p).community.source = p.community ∧ (w.reading p).canonical.source = p.canonical

theorem Sourced.step (h : w.Sourced) (hstep : Step w w') : w'.Sourced := by
  intro p
  rcases hstep.reading_cases p with hsame | hon | hnew
  · rw [hsame]
    exact h p
  · rw [hon]
    exact ⟨(SideReading.source_settle ..).trans ((w.source_readSide ..).trans (h p).1),
      (SideReading.source_settle ..).trans ((w.source_readSide ..).trans (h p).2)⟩
  · rw [hnew]
    exact ⟨rfl, rfl⟩

/-- Nothing is held that a build which is under way or may still come has to open. -/
def Unheld (w : Workshop) : Prop := ∀ p, w.service.Wants p → ∀ location ∈ p.locations, location ∉ w.held

/-- Then no build has to wait. -/
theorem Goes.stays (h : Goes w i w' j) (hsourced : w.Sourced) (hunheld : w.Unheld) :
    j = i ∧ w'.Sourced ∧ w'.Unheld := by
  cases h with
  | @waits p hi hread =>
    -- a build that can open all its files ends, so it does not wait
    obtain ⟨w'', outcome, hends⟩ := readPair_ends (hsourced p).1 (hsourced p).2
      (hunheld p (.inr (.inl (List.mem_of_getElem? hi))))
    rw [hread] at hends
    cases hends
  | moves hi hmoves hservice hheld hstep =>
    refine ⟨rfl, hsourced.step hstep, fun p hp => ?_⟩
    rw [hservice] at hp
    rw [hheld]
    exact hunheld p (hp.of_step hmoves.not_isRequest)

/-- The tasks come to their ends. -/
theorem tasks_runTasks_eq_nil (hsourced : w.Sourced) (hunheld : w.Unheld) (hfuel : w.movesFrom 0 < fuel) :
    (w.runTasks 0 fuel).service.tasks = [] := by
  induction fuel generalizing w with
  | zero => cases hfuel
  | succ fuel ih =>
    rcases w.runTasks_cases 0 with ⟨hnone, hend⟩ | ⟨w', j, hgoes, hrun⟩
    · rw [hend]
      exact List.eq_nil_of_length_eq_zero (Nat.le_zero.1 (List.getElem?_eq_none_iff.1 hnone))
    · obtain ⟨rfl, hsourced', hunheld'⟩ := hgoes.stays hsourced hunheld
      have hlt := hgoes.movesFrom_lt
      rw [hrun]
      exact ih hsourced' hunheld' (by omega)

/-! ## Workshops that can come about -/

theorem Reachable.sourced (h : w.Reachable) : w.Sourced := by
  obtain ⟨start, -, hnone, hrun⟩ := h
  induction hrun with
  | refl =>
    intro p
    rw [reading, hnone]
    exact ⟨rfl, rfl⟩
  | tail _ hstep ih => exact ih.step hstep

theorem steps_wait (w : Workshop) (ids : List String) : Relation.ReflTransGen Step w (w.wait ids) :=
  (run_wait (Service.profileAt "" "") w ids).lift id fun _ _ h => h.1

/-- After a wait for ids of which one is claimed no task is left. -/
theorem Reachable.wait_ends (h : w.Reachable) (hunheld : w.Unheld) {ids : List String}
    (hclaimed : ∃ id ∈ ids, id ∈ w.service.claimed) :
    (w.wait ids).service.tasks = [] ∧ (w.wait ids).service.claimed = [] := by
  have hwait : w.wait ids = w.runTasks 0 w.enoughSteps := if_pos (by simpa using hclaimed)
  have htasks : (w.wait ids).service.tasks = [] := by
    rw [hwait]
    exact tasks_runTasks_eq_nil h.sourced hunheld w.movesFrom_lt_enoughSteps
  exact ⟨htasks, (h.tail (w.steps_wait ids)).exclusive.claimed_eq_nil htasks⟩

/-! ## Rest -/

/-- Without another request the service comes to rest, in whatever order its builds end and whatever they come to.

Between turns every task is building. From there at most one more build is started, even if the tasks move by single
events in any order; it is of the requested profile, in place of an older build under its id. Each completion of a build
ends a task or starts this one. As long as a task is left its build can complete, and with the last task the last claim
is gone.

In the middle of a turn there may be tasks without a claim, which have yet to look what is requested; each of them can
start two builds besides. There are at most eight moves to a task, and each task that is left can move.

A wait has enough steps whatever is held. If nothing is held that a build has yet to open, then none of the ids waited
for is claimed after it, and no task is left if one of them was. -/
theorem comes_to_rest :
    (∀ turns,
      let s := Service.afterTurns turns
      (∀ later, (∀ event ∈ later, ¬event.IsRequest) →
        (s.started later).length ≤ 1 ∧
        ∀ p ∈ s.started later, s.requested = some p ∧ ∃ q, .building q ∈ s.tasks ∧ q.id = p.id ∧ q ≠ p) ∧
      ∀ later, s.Completes later →
        let s' := later.foldl Service.takeTurn s
        later.length + s'.tasks.length = s.tasks.length + (s.startedIn later).length ∧
        later.length ≤ s.tasks.length + 1 ∧
        (∀ i outcome, i < s'.tasks.length → s.Completes (later ++ [.complete i outcome])) ∧
        (s'.tasks = [] → s'.claimed = [])) ∧
    (∀ events later, (∀ event ∈ later, ¬event.IsRequest) →
      let s := Service.initial.run events
      let s' := s.run later
      (s.started later).length ≤ 1 + 2 * s.tasks.countP (·.claim? = none) ∧
      (∀ p ∈ s.started later, s.requested = some p ∨ .superseded p ∈ s.tasks) ∧
      (s.Advances later → later.length ≤ 8 * s.tasks.length) ∧
      (∀ (i : Nat) (task : Task) outcome, s'.tasks[i]? = some task → s.Advances later →
        s.Advances (later ++ [task.next i outcome])) ∧
      (s'.tasks = [] → s'.claimed = [])) ∧
    ∀ (w : Workshop) ids, w.Reachable →
      let s := (w.wait ids).service
      (∀ more, w.runTasks 0 (w.enoughSteps + more) = w.runTasks 0 w.enoughSteps) ∧
      (w.Unheld → (∀ id ∈ ids, id ∉ s.claimed) ∧
        ((∃ id ∈ ids, id ∈ w.service.claimed) → s.tasks = [] ∧ s.claimed = [])) := by
  refine ⟨fun turns => ?_, fun events later hlater => ?_, fun w ids hreach => ?_⟩
  · intro s
    have hbuilding : s.AllBuilding := Service.allBuilding_afterTurns turns
    have hone {later : List Service.Event} (hlater : ∀ event ∈ later, ¬event.IsRequest) :
        (s.started later).length ≤ 1 :=
      (Nat.le_of_add_right_le (Service.rebuilds_run hlater)).trans
        (hbuilding.rebuilds_le (Service.exclusive_afterTurns turns))
    refine ⟨fun later hlater => ⟨hone hlater, fun p => hbuilding.replaces hlater⟩, fun later hlater => ?_⟩
    have hlength := hbuilding.length_completes hlater
    have hnew : (s.startedIn later).length ≤ 1 := hone hlater.not_isRequest
    refine ⟨hlength, by omega, fun i outcome hi => hlater.concat hi outcome, fun hnone => ?_⟩
    have hrest : later.foldl Service.takeTurn s = Service.afterTurns (turns ++ later) := (List.foldl_append ..).symm
    rw [hrest] at hnone ⊢
    exact (Service.exclusive_afterTurns _).claimed_eq_nil hnone
  · intro s s'
    have hexclusive : s.Exclusive := Service.exclusive_run events
    refine ⟨?_, fun p => Service.requested_of_mem_started hlater, fun hadvances => ?_,
      fun i task outcome hi hadvances => ?_, fun hnone => ?_⟩
    · exact (Nat.le_of_add_right_le (Service.rebuilds_run hlater)).trans hexclusive.rebuilds_le
    · exact (Nat.le_of_add_right_le hadvances.length_add_le).trans s.movesLeft_le
    · obtain ⟨new?, hmoves⟩ := s'.exists_moves i task outcome
      exact hadvances.concat hi hmoves
    · have hrest : s' = Service.initial.run (events ++ later) := (List.foldl_append ..).symm
      rw [hrest] at hnone ⊢
      exact (Service.exclusive_run _).claimed_eq_nil hnone
  · refine ⟨runTasks_add w.movesFrom_lt_enoughSteps, fun hunheld => ⟨fun id hid => ?_, hreach.wait_ends hunheld⟩⟩
    by_cases hclaimed : ∃ id ∈ ids, id ∈ w.service.claimed
    · rw [(hreach.wait_ends hunheld hclaimed).2]
      exact List.not_mem_nil
    · have hwait : w.wait ids = w := if_neg (by simpa using hclaimed)
      rw [hwait]
      exact fun hmem => hclaimed ⟨id, hid, hmem⟩

/-- New sources are requested under an id that is being built. The builds of both end one after the other, and then
nothing is left. A build that had to wait for a location ends once the location has been let go. -/
theorem rest_after_reselection_and_hold :
    (let s := Service.afterTurns
      [.request (some (Service.profileAt "a" "old")), .request (some (Service.profileAt "a" "new"))]
    let later := [Service.Turn.complete 0 (.ok (.empty, .empty)), .complete 0 (.error (.file .notFound))]
    s.startedIn later = [Service.profileAt "a" "new"] ∧ (later.foldl Service.takeTurn s).claimed = []) ∧
    (resumed "c").service.claimed = ["a"] ∧ ((resumed "c").wait ["a"]).service.claimed = [] := by
  refine ⟨?_, ?_, ?_⟩
  · intro s later
    have hlater : s.Completes later := ⟨⟨0, _, rfl, by decide⟩, ⟨0, _, rfl, by decide⟩, trivial⟩
    obtain ⟨hlength, -, -, hclaimed⟩ := (comes_to_rest.1 _).2 later hlater
    have hstarted : s.startedIn later = [Service.profileAt "a" "new"] := by decide
    refine ⟨hstarted, hclaimed (List.eq_nil_of_length_eq_zero ?_)⟩
    have hone : s.tasks.length = 1 := by decide
    rw [hone, hstarted] at hlength
    exact Nat.add_left_cancel hlength
  · decide +kernel
  · have hreach : (resumed "c").Reachable := ⟨holding "c", rfl, rfl, (run_resumed "c").lift id fun _ _ h => h.1⟩
    have hunheld : (resumed "c").Unheld := fun p _ location _ => by
      have hheld : (resumed "c").held = [] := by decide +kernel
      rw [hheld]
      exact List.not_mem_nil
    exact (((comes_to_rest.2.2 _ ["a"] hreach).2 hunheld).2 ⟨"a", List.mem_cons_self, by decide +kernel⟩).2

end Workshop

end NameBridge
