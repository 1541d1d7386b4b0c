import NameBridge.Proofs.Service.Turns

/-!
Only the requested profile is published.

Readers see the published pair and how often it has changed. An event leaves both alone, or publishes the pair
of the profile requested at that moment (`Publishes`), or withdraws the pair along with the request
(`Withdraws`): that is all a step can do to them (`shown_step`). So builds may end in any order, long after the
requests that started them; what nobody asks for any more stays unpublished, and nothing is published while
nothing is requested.
-/

namespace NameBridge.Service

variable {s : Service} {event : Event}

/-- What readers see: the published pair, and how often it has changed. -/
def shown (s : Service) : Option MappingPair × Nat := (s.published, s.generation)

/-- The event is the end of a build that has read both tables of the profile requested at this moment. -/
def Publishes (s : Service) (event : Event) (pair : MappingPair) : Prop :=
  s.requested = some pair.profile ∧
    ∃ i, s.tasks[i]? = some (.building pair.profile) ∧ event = .finish i (.ok (pair.community, pair.canonical))

/-- The event is the request for nothing, while a pair is published. -/
def Withdraws (s : Service) (event : Event) : Prop := event = .request none ∧ s.published.isSome

/-! ## What a step does to the request -/

@[simp] theorem requested_clear (s : Service) : s.clear.requested = none := by
  unfold clear
  split <;> rfl

@[simp] theorem published_clear (s : Service) : s.clear.published = none := by
  unfold clear
  split
  · rfl
  · assumption

theorem requested_request (s : Service) (profile : Option Profile) : (s.request profile).2.requested = profile := by
  cases profile with
  | none => exact requested_clear s
  | some p =>
    rw [request]
    split
    · rfl
    · split <;> rfl

/-- Only a request changes what is requested. -/
theorem requested_step (h : ¬event.IsRequest) : (s.step event).requested = s.requested := by
  cases event with
  | request profile => exact absurd trivial h
  | finish i outcome =>
    simp only [step, finish]
    split
    · exact requested_conclude s _
    · rfl
  | release i =>
    simp only [step, release]
    split <;> rfl
  | decide i =>
    simp only [step, Service.decide]
    split
    · split <;> rfl
    · rfl
  | reclaim i =>
    simp only [step, reclaim]
    split
    · split <;> rfl
    · rfl

/-! ## What a step does to what readers see -/

theorem shown_clear (s : Service) :
    s.clear.shown = if s.published.isSome then (none, s.generation + 1) else s.shown := by
  unfold clear
  split
  · simp [shown, *]
  · simp [shown, *]

theorem shown_request_some (s : Service) (p : Profile) : (s.request (some p)).2.shown = s.shown := by
  rw [request]
  split
  · rfl
  · split <;> rfl

theorem shown_finish_error {i : Nat} {p : Profile} (hi : s.tasks[i]? = some (.building p)) (e : TableError) :
    (s.finish i (.error e)).shown = s.shown := by
  rw [finish, hi]
  rfl

/-- The pair of a build is shown if its profile is requested at the moment the build ends. -/
theorem shown_finish_ok {i : Nat} {p : Profile} (hi : s.tasks[i]? = some (.building p)) (community canonical : Table) :
    (s.finish i (.ok (community, canonical))).shown =
      if s.requested = some p then (some ⟨p, community, canonical⟩, s.generation + 1) else s.shown := by
  rw [finish, hi]
  simp only [Except.map, conclude, publish]
  split <;> rfl

/-- A build that fails, or that is not requested any more, changes nothing that readers see. -/
theorem shown_finish_eq_self {i : Nat} {p : Profile} {outcome : Except TableError (Table × Table)}
    (hi : s.tasks[i]? = some (.building p)) (h : (∃ e, outcome = .error e) ∨ s.requested ≠ some p) :
    (s.finish i outcome).shown = s.shown := by
  cases outcome with
  | error e => exact shown_finish_error hi e
  | ok tables =>
    rcases h with ⟨e, he⟩ | hp
    · cases he
    · rw [shown_finish_ok hi, if_neg hp]

theorem lastError_finish_error {i : Nat} {p : Profile} (hi : s.tasks[i]? = some (.building p)) (e : TableError) :
    (s.finish i (.error e)).lastError = some e := by
  rw [finish, hi]
  rfl

theorem lastError_finish_ok {i : Nat} {p : Profile} (hi : s.tasks[i]? = some (.building p))
    (community canonical : Table) :
    (s.finish i (.ok (community, canonical))).lastError = if s.requested = some p then none else s.lastError := by
  rw [finish, hi]
  simp only [Except.map, conclude, publish]
  split <;> rfl

/-- A pair is published, and the last error forgotten, if its profile is requested; else nothing changes. -/
theorem finish_pair {i : Nat} {p : Profile} (hi : s.tasks[i]? = some (.building p)) {pair : MappingPair}
    (hprofile : pair.profile = p) :
    let s' := s.finish i (.ok (pair.community, pair.canonical))
    (s.requested = some p → s'.published = some pair ∧ s'.generation = s.generation + 1 ∧ s'.lastError = none) ∧
      (s.requested ≠ some p → s'.shown = s.shown ∧ s'.lastError = s.lastError) := by
  have hshown := shown_finish_ok hi pair.community pair.canonical
  have hlast := lastError_finish_ok hi pair.community pair.canonical
  refine ⟨fun hrequested => ?_, fun hother => ?_⟩
  · rw [if_pos hrequested, ← hprofile] at hshown
    rw [if_pos hrequested] at hlast
    exact ⟨congrArg Prod.fst hshown, congrArg Prod.snd hshown, hlast⟩
  · rw [if_neg hother] at hshown hlast
    exact ⟨hshown, hlast⟩

theorem finish_eq_self {i : Nat} (hi : ∀ p, s.tasks[i]? ≠ some (.building p))
    (outcome : Except TableError (Table × Table)) : s.finish i outcome = s := by
  unfold finish
  split
  · exact absurd ‹_› (hi _)
  · rfl

theorem shown_release (s : Service) (i : Nat) : (s.release i).shown = s.shown := by
  unfold release
  split <;> rfl

theorem shown_decide (s : Service) (i : Nat) : (s.decide i).shown = s.shown := by
  unfold Service.decide
  split
  · split <;> rfl
  · rfl

theorem shown_reclaim (s : Service) (i : Nat) : (s.reclaim i).shown = s.shown := by
  unfold reclaim
  split
  · split <;> rfl
  · rfl

/-- A step publishes the pair of the requested profile, or withdraws what is published, or leaves what readers
see alone. -/
theorem shown_step (s : Service) (event : Event) :
    (∃ pair, s.Publishes event pair ∧ (s.step event).shown = (some pair, s.generation + 1)) ∨
      (s.Withdraws event ∧ (s.step event).shown = (none, s.generation + 1)) ∨
      (s.step event).shown = s.shown := by
  cases event with
  | request profile =>
    cases profile with
    | none =>
      have hclear := s.shown_clear
      split at hclear
      · exact .inr (.inl ⟨⟨rfl, ‹_›⟩, hclear⟩)
      · exact .inr (.inr hclear)
    | some p => exact .inr (.inr (s.shown_request_some p))
  | finish i outcome =>
    by_cases hi : ∃ p, s.tasks[i]? = some (.building p)
    · obtain ⟨p, hi⟩ := hi
      by_cases h : (∃ e, outcome = .error e) ∨ s.requested ≠ some p
      · exact .inr (.inr (shown_finish_eq_self hi h))
      · rw [not_or, not_not] at h
        cases outcome with
        | error e => exact absurd ⟨e, rfl⟩ h.1
        | ok tables =>
          refine .inl ⟨⟨p, tables.1, tables.2⟩, ⟨h.2, i, hi, rfl⟩, ?_⟩
          exact (shown_finish_ok hi tables.1 tables.2).trans (if_pos h.2)
    · have hself := finish_eq_self (fun p hp => hi ⟨p, hp⟩) outcome
      exact .inr (.inr (congrArg shown hself))
  | release i => exact .inr (.inr (s.shown_release i))
  | decide i => exact .inr (.inr (s.shown_decide i))
  | reclaim i => exact .inr (.inr (s.shown_reclaim i))

/-- What a task does once its build has ended changes neither what readers see nor what is requested. -/
theorem shown_takeTurn_complete (s : Service) (i : Nat) (outcome : Except TableError (Table × Table)) :
    (s.takeTurn (.complete i outcome)).shown = (s.finish i outcome).shown ∧
      (s.takeTurn (.complete i outcome)).requested = s.requested := by
  have hturn : s.takeTurn (.complete i outcome) =
      ((((s.step (.finish i outcome)).step (.release i)).step (.decide i)).step (.reclaim i)) := rfl
  rw [hturn]
  constructor
  · simp only [step, shown_release, shown_decide, shown_reclaim]
  · iterate 4 rw [requested_step id]

/-! ## While nothing is requested -/

/-- Nothing is published unless something is requested. -/
def Unasked (s : Service) : Prop := s.requested = none → s.published = none

theorem Unasked.step (h : s.Unasked) (event : Event) : (s.step event).Unasked := by
  intro hnone
  by_cases hrequest : event.IsRequest
  · cases event with
    | request profile =>
      have hprofile : profile = none := (requested_request s profile).symm.trans hnone
      subst hprofile
      exact published_clear s
    | _ => exact absurd hrequest id
  · rw [requested_step hrequest] at hnone
    rcases shown_step s event with ⟨pair, ⟨hpair, _⟩, _⟩ | ⟨_, hshown⟩ | hshown
    · rw [hnone] at hpair
      cases hpair
    · exact congrArg Prod.fst hshown
    · exact (congrArg Prod.fst hshown).trans (h hnone)

theorem unasked_run (events : List Event) : (initial.run events).Unasked := by
  induction events using List.reverseRecOn with
  | nil => exact fun _ => rfl
  | append_singleton events event ih =>
    rw [run_concat]
    exact ih.step event

/-- Nothing is requested as long as no profile is asked for. -/
theorem requested_run_eq_none {later : List Event} (hlater : ∀ p, .request (some p) ∉ later)
    (h : s.requested = none) : (s.run later).requested = none := by
  induction later using List.reverseRecOn with
  | nil => exact h
  | append_singleton later event ih =>
    rw [run_concat]
    have hbefore : (s.run later).requested = none := ih fun p hp => hlater p (List.mem_append_left _ hp)
    by_cases hrequest : event.IsRequest
    · cases event with
      | request profile =>
        cases profile with
        | none => exact requested_clear _
        | some p => exact absurd (List.mem_append_right _ List.mem_cons_self) (hlater p)
      | _ => exact absurd hrequest id
    · rw [requested_step hrequest, hbefore]

/-! ## Every change is asked for -/

/-- Whatever happened before, a step changes what readers see in two ways only: a build of the profile requested
at that moment has ended well, and its pair is published; or nothing is requested any more, and nothing is
published until a profile is asked for again. So nothing is published while nothing is requested, and a build
that fails or is not wanted any more changes neither what readers see nor what is requested. Whole turns change
no more than the end of a build in them. -/
theorem published_only_if_requested (events : List Event) (event : Event) :
    let s := initial.run events
    let s' := s.step event
    (s'.shown ≠ s.shown →
      (∃ pair, s.Publishes event pair ∧ s'.published = some pair) ∨
        (event = .request none ∧
          ∀ later, (∀ p, .request (some p) ∉ later) → (s'.run later).published = none)) ∧
    (s.requested = none → s.published = none) ∧
    (∀ i p outcome, event = .finish i outcome → s.tasks[i]? = some (.building p) →
      ((∃ e, outcome = .error e) ∨ s.requested ≠ some p) → s'.shown = s.shown ∧ s'.requested = s.requested) ∧
    ∀ i outcome, (s.takeTurn (.complete i outcome)).shown = (s.finish i outcome).shown ∧
      (s.takeTurn (.complete i outcome)).requested = s.requested := by
  intro s s'
  refine ⟨fun hchange => ?_, unasked_run events, ?_, shown_takeTurn_complete s⟩
  · rcases shown_step s event with ⟨pair, hpair, hshown⟩ | ⟨⟨rfl, _⟩, _⟩ | hshown
    · exact .inl ⟨pair, hpair, congrArg Prod.fst hshown⟩
    · refine .inr ⟨rfl, fun later hlater => ?_⟩
      have hnone : (s'.run later).requested = none := requested_run_eq_none hlater (requested_clear s)
      have hrun : s'.run later = initial.run (events ++ .request none :: later) := by simp [s', s, run]
      rw [hrun] at hnone ⊢
      exact unasked_run _ hnone
    · exact absurd hshown hchange
  · rintro i p outcome rfl hi h
    exact ⟨shown_finish_eq_self hi h, requested_step id⟩

/-- Another profile is requested while the first is built. -/
def switched : List Event := [.request (some (profileAt "a" "old")), .request (some (profileAt "b" "new"))]

/-- Of two builds the late one is discarded, the requested one is published, and after an unload the late one
stays discarded. -/
theorem late_build_discarded_before_and_after_unload :
    ((initial.run switched).step (.finish 0 (.ok (.empty, .empty)))).published = none ∧
    (∃ pair, ((initial.run switched).step (.finish 1 (.ok (.empty, .empty)))).published = some pair ∧
      pair.profile = profileAt "b" "new") ∧
    (((initial.run (switched ++ [.finish 1 (.ok (.empty, .empty))])).step (.request none)).run
      [.finish 0 (.ok (.empty, .empty)), .release 0]).published = none := by
  refine ⟨?_, ?_, ?_⟩
  · have h := (published_only_if_requested switched (.finish 0 (.ok (.empty, .empty)))).2.2.1 0 (profileAt "a" "old") _
      rfl rfl (.inr (by decide))
    exact congrArg Prod.fst h.1
  · have hchange : ((initial.run switched).step (.finish 1 (.ok (.empty, .empty)))).shown ≠
        (initial.run switched).shown := fun h => by cases congrArg Prod.fst h
    rcases (published_only_if_requested switched (.finish 1 (.ok (.empty, .empty)))).1 hchange with
      ⟨pair, hpair, hpub⟩ | ⟨hevent, _⟩
    · exact ⟨pair, hpub, (Option.some.inj hpair.1).symm⟩
    · cases hevent
  · have hchange : ((initial.run (switched ++ [.finish 1 (.ok (.empty, .empty))])).step (.request none)).shown ≠
        (initial.run (switched ++ [.finish 1 (.ok (.empty, .empty))])).shown := fun h => by cases congrArg Prod.fst h
    rcases (published_only_if_requested _ _).1 hchange with ⟨pair, ⟨_, i, _, hevent⟩, _⟩ | ⟨_, hlater⟩
    · cases hevent
    · exact hlater _ fun p hp => by simp at hp

end NameBridge.Service
