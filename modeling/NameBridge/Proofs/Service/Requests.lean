import NameBridge.Proofs.Service.Turns

/-!
No request is lost.

Whatever is requested has something to show for it (`Kept`): its pair is published, its id is claimed, or
its build has failed, unless a task that has given up its claim will still look at it. Each event keeps
this. A request for exactly the profile that a task has just built, while the task still holds the claim, is
the one kind that may go unnoticed; it can only come in the middle of a turn. So between turns there is no
such request, and no task that has yet to look again.
-/

namespace NameBridge

/-- The task gives its claim up or has done so, and will find this profile requested. -/
def Task.Rechecks (p : Profile) : Task → Prop
  | .released q => q.id = p.id ∧ q ≠ p
  | .superseded q => q.id = p.id
  | _ => False

namespace Service

variable {failed overlooked failed' overlooked' : Profile → Prop} {s : Service}

/-- The pair of the profile is published, its failure is on record, or the request for it was overlooked. -/
def Answered (failed overlooked : Profile → Prop) (s : Service) (p : Profile) : Prop :=
  s.publishes p ∨ (failed p ∧ s.lastError.isSome) ∨ overlooked p

/-- The requested profile is answered, or its id is claimed, or a task will look at it again. If a task that
has built it still holds its claim, it is answered already. -/
structure Kept (failed overlooked : Profile → Prop) (s : Service) : Prop where
  requested : ∀ p, s.requested = some p →
    Answered failed overlooked s p ∨ p.id ∈ s.claimed ∨ ∃ task ∈ s.tasks, task.Rechecks p
  built : ∀ p, .built p ∈ s.tasks → s.requested = some p → Answered failed overlooked s p

theorem Answered.mono {p : Profile} (hf : failed p → failed' p) (ho : overlooked p → overlooked' p)
    (h : Answered failed overlooked s p) : Answered failed' overlooked' s p :=
  h.imp_right (Or.imp (And.imp_left hf) ho)

theorem Kept.mono (hf : ∀ p, failed p → failed' p) (ho : ∀ p, s.requested = some p → overlooked p → overlooked' p)
    (h : Kept failed overlooked s) : Kept failed' overlooked' s where
  requested p hp := (h.requested p hp).imp_left (.mono (hf p) (ho p hp))
  built p hb hp := (h.built p hb hp).mono (hf p) (ho p hp)

/-! ## Events -/

/-- A new request is published, or its id is claimed by now. It is overlooked if it is for what a task has
built that still holds its claim. -/
theorem kept_request (failed : Profile → Prop) (s : Service) (profile : Option Profile) :
    Kept failed (fun p => profile = some p ∧ .built p ∈ s.tasks) (s.request profile).2 := by
  cases profile with
  | none =>
    have hnone : (s.request none).2.requested = none := by
      rw [request, clear]
      split <;> rfl
    constructor
    · intro p hp
      exact absurd (hnone.symm.trans hp) (by simp)
    · intro p _ hp
      exact absurd (hnone.symm.trans hp) (by simp)
  | some q =>
    rw [request]
    split
    · rename_i hpub
      refine ⟨fun p hp => ?_, fun p hb hp => .inr (.inr ⟨hp, hb⟩)⟩
      cases hp
      exact .inl (.inl hpub)
    · split
      · rename_i hclaimed
        refine ⟨fun p hp => ?_, fun p hb hp => .inr (.inr ⟨hp, hb⟩)⟩
        cases hp
        exact .inr (.inl hclaimed)
      · refine ⟨fun p hp => ?_, fun p hb hp => .inr (.inr ⟨hp, ?_⟩)⟩
        · cases hp
          exact .inr (.inl List.mem_cons_self)
        · rcases List.mem_append.1 hb with hb | hb
          · exact hb
          · cases List.mem_singleton.1 hb

/-- Taking an outcome takes back no answer, and answers a request for the profile that was built. -/
theorem answered_conclude {q : Profile} {outcome : Except TableError (Table × Table)} {p : Profile}
    (hp : s.requested = some p) (h : p = q ∨ Answered failed overlooked s p) :
    Answered (fun x => failed x ∨ (x = q ∧ ∃ e, outcome = .error e)) overlooked
      (s.conclude (outcome.map fun (community, canonical) => ⟨q, community, canonical⟩)) p := by
  cases outcome with
  | error e =>
    rcases h with rfl | hpub | ⟨hf, _⟩ | ho
    · exact .inr (.inl ⟨.inr ⟨rfl, e, rfl⟩, rfl⟩)
    · exact .inl hpub
    · exact .inr (.inl ⟨.inl hf, rfl⟩)
    · exact .inr (.inr ho)
  | ok tables =>
    rw [Except.map, conclude, publish]
    dsimp only
    split
    · rename_i hpub
      have hpq : p = q := Option.some.inj (hp.symm.trans hpub)
      exact .inl (by simp [publishes, hpq])
    · rename_i hq
      rcases h with rfl | h
      · exact absurd hp hq
      · exact h.mono .inl id

theorem Kept.finish (h : Kept failed overlooked s) (i : Nat) (outcome : Except TableError (Table × Table)) :
    Kept (fun p => failed p ∨ (s.tasks[i]? = some (.building p) ∧ ∃ e, outcome = .error e)) overlooked
      (s.finish i outcome) := by
  rw [Service.finish]
  split
  · rename_i q hi
    have hfailed : ∀ p, failed p ∨ (p = q ∧ ∃ e, outcome = .error e) →
        failed p ∨ (s.tasks[i]? = some (.building p) ∧ ∃ e, outcome = .error e) := by
      rintro p (hp | ⟨rfl, he⟩)
      · exact .inl hp
      · exact .inr ⟨hi, he⟩
    refine .mono hfailed (fun _ _ ho => ho) ⟨fun p hp => ?_, fun p hb hp => ?_⟩
    · rw [moveTask, requested_conclude] at hp
      rcases h.requested p hp with hans | hclaimed | ⟨task, htask, hre⟩
      · exact .inl (answered_conclude hp (.inr hans))
      · exact .inr (.inl (by rwa [moveTask, claimed_conclude]))
      · refine .inr (.inr ⟨task, ?_, hre⟩)
        rw [moveTask, tasks_conclude]
        exact mem_set_of_ne _ hi htask fun heq => by rw [heq] at hre; exact hre
    · rw [moveTask, requested_conclude] at hp
      rw [moveTask, tasks_conclude] at hb
      refine answered_conclude hp ?_
      rcases List.mem_or_eq_of_mem_set hb with hb | heq
      · exact .inr (h.built p hb hp)
      · exact .inl (Task.built.inj heq)
  · exact h.mono (fun _ => .inl) fun _ _ => id

theorem Kept.release (h : Kept failed overlooked s) (i : Nat) : Kept failed overlooked (s.release i) := by
  rw [Service.release]
  split
  · rename_i q hi
    refine ⟨fun p hp => ?_, fun p hb hp => ?_⟩
    · rcases h.requested p hp with hans | hclaimed | ⟨task, htask, hre⟩
      · exact .inl hans
      · by_cases hid : q.id = p.id
        · by_cases hq : q = p
          · subst hq
            -- nobody will look again at what this task has built, so it must be answered by now
            exact .inl (h.built q (List.mem_of_getElem? hi) hp)
          · exact .inr (.inr ⟨_, mem_set_self _ hi, hid, hq⟩)
        · exact .inr (.inl ((List.mem_erase_of_ne (Ne.symm hid)).2 hclaimed))
      · exact .inr (.inr ⟨task, mem_set_of_ne _ hi htask fun heq => by rw [heq] at hre; exact hre, hre⟩)
    · rcases List.mem_or_eq_of_mem_set hb with hb | heq
      · exact h.built p hb hp
      · cases heq
  · exact h

theorem publishes_of_successor?_eq_none {p q : Profile} (h : s.successor? q = none) (hp : s.requested = some p)
    (hid : q.id = p.id) (hne : q ≠ p) : s.publishes p := by
  unfold successor? at h
  rw [hp] at h
  by_cases hpub : s.publishes p
  · exact hpub
  · simp [hid, hpub, Ne.symm hne] at h

theorem Kept.decide (h : Kept failed overlooked s) (i : Nat) : Kept failed overlooked (s.decide i) := by
  rw [Service.decide]
  split
  · rename_i q hi
    split
    · rename_i next hnext
      obtain ⟨hreq, hid⟩ := successor?_eq_some hnext
      refine ⟨fun p hp => .inr (.inr ⟨_, mem_set_self _ hi, ?_⟩), fun p hb hp => ?_⟩
      · exact congrArg Profile.id (Option.some.inj (hreq.symm.trans hp))
      · rcases List.mem_or_eq_of_mem_set hb with hb | heq
        · exact h.built p hb hp
        · cases heq
    · rename_i hnone
      refine ⟨fun p hp => ?_, fun p hb hp => h.built p (List.mem_of_mem_eraseIdx hb) hp⟩
      rcases h.requested p hp with hans | hclaimed | ⟨task, htask, hre⟩
      · exact .inl hans
      · exact .inr (.inl hclaimed)
      · by_cases heq : task = .released q
        · subst heq
          -- the task leaves without a successor only if the request is published
          exact .inl (.inl (publishes_of_successor?_eq_none hnone hp hre.1 hre.2))
        · exact .inr (.inr ⟨task, mem_eraseIdx_of_ne hi htask heq, hre⟩)
  · exact h

theorem Kept.reclaim (h : Kept failed overlooked s) (i : Nat) : Kept failed overlooked (s.reclaim i) := by
  rw [Service.reclaim]
  split
  · rename_i next hi
    split
    · rename_i hclaimed
      refine ⟨fun p hp => ?_, fun p hb hp => h.built p (List.mem_of_mem_eraseIdx hb) hp⟩
      rcases h.requested p hp with hans | hmem | ⟨task, htask, hre⟩
      · exact .inl hans
      · exact .inr (.inl hmem)
      · by_cases heq : task = .superseded next
        · subst heq
          exact .inr (.inl (hre ▸ hclaimed))
        · exact .inr (.inr ⟨task, mem_eraseIdx_of_ne hi htask heq, hre⟩)
    · refine ⟨fun p hp => ?_, fun p hb hp => ?_⟩
      · rcases h.requested p hp with hans | hmem | ⟨task, htask, hre⟩
        · exact .inl hans
        · exact .inr (.inl (List.mem_cons_of_mem _ hmem))
        · by_cases heq : task = .superseded next
          · subst heq
            exact .inr (.inl (hre ▸ List.mem_cons_self))
          · exact .inr (.inr ⟨task, mem_set_of_ne _ hi htask heq, hre⟩)
      · rcases List.mem_or_eq_of_mem_set hb with hb | heq
        · exact h.built p hb hp
        · cases heq
  · exact h

/-! ## Runs of events -/

/-- A build of exactly this profile has ended with a failure since the last request. -/
def FailedSince (events : List Event) (p : Profile) : Prop :=
  Since Event.IsRequest (fun before event =>
    ∃ i e, event = .finish i (.error e) ∧ (initial.run before).tasks[i]? = some (.building p)) events

/-- The last request is for this profile, and came between the end of a build of it and the release of its
claim. -/
def OverlookedIn (events : List Event) (p : Profile) : Prop :=
  Since Event.IsRequest (fun before event =>
    event = .request (some p) ∧ .built p ∈ (initial.run before).tasks) events

theorem kept_initial (failed overlooked : Profile → Prop) : Kept failed overlooked initial :=
  ⟨fun _ hp => absurd hp (by simp [initial]), fun _ _ hp => absurd hp (by simp [initial])⟩

theorem kept_run (events : List Event) :
    Kept (FailedSince events) (OverlookedIn events) (initial.run events) := by
  induction events using List.reverseRecOn with
  | nil => exact kept_initial _ _
  | append_singleton events event ih =>
    rw [run_concat]
    have hkeep (hevent : ¬event.IsRequest) {s : Service} (h : Kept (FailedSince events) (OverlookedIn events) s) :
        Kept (FailedSince (events ++ [event])) (OverlookedIn (events ++ [event])) s :=
      h.mono (fun _ hp => hp.concat hevent) fun _ _ hp => hp.concat hevent
    cases event with
    | request profile =>
      refine (kept_request _ _ profile).mono (fun p => id) fun p _ hp => ?_
      exact since_last ⟨by rw [hp.1], hp.2⟩
    | finish i outcome =>
      refine (ih.finish i outcome).mono (fun p hp => ?_) fun p _ hp => hp.concat id
      rcases hp with hp | ⟨hi, e, rfl⟩
      · exact hp.concat id
      · exact since_last ⟨i, e, rfl, hi⟩
    | release i => exact hkeep id (ih.release i)
    | decide i => exact hkeep id (ih.decide i)
    | reclaim i => exact hkeep id (ih.reclaim i)

/-! ## Turns -/

/-- A build of exactly this profile has failed since the last request. -/
def FailedSinceRequest (turns : List Turn) (p : Profile) : Prop :=
  Since Turn.IsRequest (fun before turn =>
    ∃ i e, turn = .complete i (.error e) ∧ (afterTurns before).tasks[i]? = some (.building p)) turns

theorem kept_afterTurns (turns : List Turn) :
    Kept (FailedSinceRequest turns) (fun _ => False) (afterTurns turns) := by
  induction turns using List.reverseRecOn with
  | nil => exact kept_initial _ _
  | append_singleton turns turn ih =>
    rw [afterTurns_concat]
    cases turn with
    | request profile =>
      -- nothing is built between turns, so no request is overlooked
      refine (kept_request _ _ profile).mono (fun p => id) fun p _ hp => ?_
      obtain ⟨q, hq⟩ := allBuilding_afterTurns turns _ hp.2
      cases hq
    | complete i outcome =>
      refine ((((ih.finish i outcome).release i).decide i).reclaim i).mono (fun p hp => ?_) fun p _ hp => hp
      rcases hp with hp | ⟨hi, e, rfl⟩
      · exact hp.concat id
      · exact since_last ⟨i, e, rfl, hi⟩

theorem publishes_iff {p : Profile} : s.publishes p ↔ ∃ pair, s.published = some pair ∧ pair.profile = p := by
  cases h : s.published <;> simp [publishes, h]

/-- No request is lost: between turns the pair of the requested profile is published, or its id is claimed, or
its build has failed since it was requested and there is an error to show. With single events in any order two
more things may be the case: a task has yet to look at the request, or the request came for what a task had
built that still held its claim. -/
theorem request_not_lost :
    (∀ turns p, (afterTurns turns).requested = some p →
      ((∃ pair, (afterTurns turns).published = some pair ∧ pair.profile = p) ∨ p.id ∈ (afterTurns turns).claimed ∨
        (FailedSinceRequest turns p ∧ (afterTurns turns).lastError.isSome)) ∧
      ((afterTurns turns).claimed = [] →
        (∃ pair, (afterTurns turns).published = some pair ∧ pair.profile = p) ∨
          (FailedSinceRequest turns p ∧ (afterTurns turns).lastError.isSome))) ∧
    ∀ events p, (initial.run events).requested = some p →
      (∃ pair, (initial.run events).published = some pair ∧ pair.profile = p) ∨ p.id ∈ (initial.run events).claimed ∨
        (FailedSince events p ∧ (initial.run events).lastError.isSome) ∨
        (∃ task ∈ (initial.run events).tasks, task.Rechecks p) ∨ OverlookedIn events p := by
  constructor
  · intro turns p hp
    have hcases : (∃ pair, (afterTurns turns).published = some pair ∧ pair.profile = p) ∨
        p.id ∈ (afterTurns turns).claimed ∨
          (FailedSinceRequest turns p ∧ (afterTurns turns).lastError.isSome) := by
      rcases (kept_afterTurns turns).requested p hp with (hpub | hfailed | hfalse) | hclaimed | ⟨task, htask, hre⟩
      · exact .inl (publishes_iff.1 hpub)
      · exact .inr (.inr hfailed)
      · exact hfalse.elim
      · exact .inr (.inl hclaimed)
      · obtain ⟨q, rfl⟩ := allBuilding_afterTurns turns task htask
        exact hre.elim
    refine ⟨hcases, fun hnone => ?_⟩
    rw [hnone] at hcases
    simpa using hcases
  · intro events p hp
    rcases (kept_run events).requested p hp with (hpub | hfailed | hover) | hclaimed | hre
    · exact .inl (publishes_iff.1 hpub)
    · exact .inr (.inr (.inl hfailed))
    · exact .inr (.inr (.inr (.inr hover)))
    · exact .inr (.inl hclaimed)
    · exact .inr (.inr (.inr (.inl hre)))

/-- A profile is requested with new sources while the old ones are built, and cannot be read. -/
def reselection : List Turn :=
  [.request (some (profileAt "a" "old")), .request (some (profileAt "a" "new")),
    .complete 0 (.ok (.empty, .empty)), .complete 0 (.error (.file .notFound))]

/-- What has been built and discarded is requested again before its claim is given up. -/
def lateRequest : List Event :=
  [.request (some (profileAt "a" "old")), .request none, .finish 0 (.ok (.empty, .empty)),
    .request (some (profileAt "a" "old")), .release 0, .decide 0]

/-- The new sources have been built in turn, with a failure. The late request is overlooked: it has nothing else
to show. -/
theorem reselection_fails_and_lateRequest_overlooked :
    (FailedSinceRequest reselection (profileAt "a" "new") ∧ (afterTurns reselection).lastError.isSome) ∧
      OverlookedIn lateRequest (profileAt "a" "old") := by
  constructor
  · have hreq : (afterTurns reselection).requested = some (profileAt "a" "new") := rfl
    have hclaimed : (afterTurns reselection).claimed = [] := by decide
    have hpub : (afterTurns reselection).published = none := rfl
    rcases (request_not_lost.1 reselection _ hreq).2 hclaimed with ⟨pair, hpair, _⟩ | hfailed
    · rw [hpub] at hpair
      cases hpair
    · exact hfailed
  · have hreq : (initial.run lateRequest).requested = some (profileAt "a" "old") := rfl
    have hclaimed : (initial.run lateRequest).claimed = [] := by decide
    have hpub : (initial.run lateRequest).published = none := rfl
    have htasks : (initial.run lateRequest).tasks = [] := by decide
    have herror : (initial.run lateRequest).lastError = none := rfl
    have h := request_not_lost.2 lateRequest _ hreq
    rw [hclaimed, hpub, htasks, herror] at h
    simpa using h

end Service

end NameBridge
