import NameBridge.Proofs.Service.Publishing

/-!
The generation tells whether what readers see has changed.

A step that publishes a pair or withdraws one raises the generation by one, and every other step leaves both the
generation and the published pair as they are (`generation_step`). Along a run the generation therefore never falls,
and it cannot come back to a value it has left: while it is the same, so is the published pair
(`published_of_generation_eq`).
-/

namespace NameBridge.Service

variable {s : Service} {event : Event}

theorem shown_of_publishes {pair : MappingPair} (h : s.Publishes event pair) :
    (s.step event).shown = (some pair, s.generation + 1) := by
  obtain ⟨hrequested, i, hi, rfl⟩ := h
  exact (shown_finish_ok hi pair.community pair.canonical).trans (if_pos hrequested)

theorem shown_of_withdraws (h : s.Withdraws event) : (s.step event).shown = (none, s.generation + 1) := by
  obtain ⟨rfl, hpublished⟩ := h
  exact s.shown_clear.trans (if_pos hpublished)

/-- A step that neither publishes nor withdraws a pair changes nothing that readers see. -/
theorem shown_of_neither (hpublishes : ∀ pair, ¬s.Publishes event pair) (hwithdraws : ¬s.Withdraws event) :
    (s.step event).shown = s.shown := by
  rcases shown_step s event with ⟨pair, hpair, -⟩ | ⟨hwithdrawn, -⟩ | hshown
  · exact absurd hpair (hpublishes pair)
  · exact absurd hwithdrawn hwithdraws
  · exact hshown

theorem generation_eq_of_shown_eq {s s' : Service} (h : s'.shown = s.shown) : s'.generation = s.generation :=
  congrArg Prod.snd h

/-- A step raises the generation by one, or leaves what readers see alone. -/
theorem generation_step (s : Service) (event : Event) :
    (s.step event).generation = s.generation + 1 ∨ (s.step event).shown = s.shown := by
  rcases shown_step s event with ⟨pair, -, hshown⟩ | ⟨-, hshown⟩ | hshown
  · exact .inl (congrArg Prod.snd hshown)
  · exact .inl (congrArg Prod.snd hshown)
  · exact .inr hshown

/-- A run raises the generation, or leaves what readers see alone. -/
theorem generation_run (s : Service) (later : List Event) :
    s.generation < (s.run later).generation ∨ (s.run later).shown = s.shown := by
  induction later using List.reverseRecOn with
  | nil => exact .inr rfl
  | append_singleton later event ih =>
    rw [run_concat]
    rcases generation_step (s.run later) event with hraised | hsame
    · left
      rcases ih with hlt | hshown
      · omega
      · have hgeneration := generation_eq_of_shown_eq hshown
        omega
    · have hgeneration := generation_eq_of_shown_eq hsame
      rcases ih with hlt | hshown
      · left
        omega
      · exact .inr (hsame.trans hshown)

theorem generation_le_run (s : Service) (later : List Event) : s.generation ≤ (s.run later).generation := by
  rcases generation_run s later with hlt | hshown
  · exact Nat.le_of_lt hlt
  · exact Nat.le_of_eq (generation_eq_of_shown_eq hshown).symm

theorem published_of_generation_eq {later : List Event} (h : (s.run later).generation = s.generation) :
    (s.run later).published = s.published := by
  rcases generation_run s later with hlt | hshown
  · omega
  · exact congrArg Prod.fst hshown

/-- At first nothing is published and the generation is zero. A step raises it by one if it publishes the pair of the
requested profile or withdraws the one that is published; every other step leaves it and the published pair alone, and a
whole turn does to both what the request or the end of the build in it does. So the generation never falls, and two
states of a run with the same generation have the same pair. -/
theorem generation_tracks_published :
    initial.shown = (none, 0) ∧
    (∀ events event, let s := initial.run events
      (∀ pair, s.Publishes event pair → (s.step event).shown = (some pair, s.generation + 1)) ∧
        (s.Withdraws event → (s.step event).shown = (none, s.generation + 1)) ∧
        ((∀ pair, ¬s.Publishes event pair) → ¬s.Withdraws event → (s.step event).shown = s.shown)) ∧
    (∀ events later, let s := initial.run events
      s.generation ≤ (s.run later).generation ∧
        ((s.run later).generation = s.generation → (s.run later).published = s.published)) ∧
    ∀ turns, let s := afterTurns turns
      (∀ profile, (s.takeTurn (.request profile)).shown = (s.step (.request profile)).shown) ∧
      (∀ i outcome, (s.takeTurn (.complete i outcome)).shown = (s.step (.finish i outcome)).shown) ∧
      ∀ later, let s' := afterTurns (turns ++ later)
        s.generation ≤ s'.generation ∧ (s'.generation = s.generation → s'.published = s.published) := by
  refine ⟨rfl, fun events event => ⟨fun pair => shown_of_publishes, shown_of_withdraws, shown_of_neither⟩,
    fun events later => ⟨generation_le_run _ later, published_of_generation_eq⟩, fun turns => ⟨fun _ => rfl,
      fun i outcome => (shown_takeTurn_complete _ i outcome).1, fun later => ?_⟩⟩
  have hrun : afterTurns (turns ++ later) = (afterTurns turns).run (later.flatMap Turn.events) := by
    rw [afterTurns_eq_run, afterTurns_eq_run, List.flatMap_append, run, List.foldl_append]
    rfl
  rw [hrun]
  exact ⟨generation_le_run _ _, published_of_generation_eq⟩

/-- A profile is requested and built, and then requested again. -/
def publishedOnce : List Event :=
  [.request (some (profileAt "a" "old")), .finish 0 (.ok (.empty, .empty)), .request (some (profileAt "a" "old"))]

/-- The second request changes nothing, so the pair is the one of the build. The end of the build has raised the
generation, and the withdrawal raises it again. -/
theorem generation_of_publishedOnce :
    ((initial.run (publishedOnce.take 1)).step (.finish 0 (.ok (.empty, .empty)))).generation = 1 ∧
    (initial.run publishedOnce).published = (initial.run (publishedOnce.take 2)).published ∧
    ((initial.run (publishedOnce.take 2)).step (.request (some (profileAt "a" "old")))).generation = 1 ∧
    ((initial.run publishedOnce).step (.request none)).shown = (none, 2) := by
  obtain ⟨-, hstep, hrun, -⟩ := generation_tracks_published
  obtain ⟨hpublishes, -, -⟩ := hstep (publishedOnce.take 1) (.finish 0 (.ok (.empty, .empty)))
  obtain ⟨-, -, hneither⟩ := hstep (publishedOnce.take 2) (.request (some (profileAt "a" "old")))
  obtain ⟨-, hwithdraws, -⟩ := hstep publishedOnce (.request none)
  refine ⟨?_, (hrun (publishedOnce.take 2) [.request (some (profileAt "a" "old"))]).2 rfl, ?_, hwithdraws ⟨rfl, rfl⟩⟩
  · have hshown := hpublishes ⟨profileAt "a" "old", .empty, .empty⟩ ⟨rfl, 0, rfl, rfl⟩
    exact congrArg Prod.snd hshown
  · have hshown := hneither (fun pair hpair => by obtain ⟨-, i, -, hevent⟩ := hpair; cases hevent)
      (fun hwithdraws => by cases hwithdraws.1)
    exact congrArg Prod.snd hshown

end NameBridge.Service
