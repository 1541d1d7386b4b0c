import Mathlib.Logic.Relation
import NameBridge.Proofs.Basic
import NameBridge.Proofs.Service.Claiming
import NameBridge.Proofs.Service.Publishing
import NameBridge.Proofs.Service.Readings
import NameBridge.Service.Workshop

/-!
A build and a loader agree.

A workshop changes in small steps: requests, locations held and let go, files changed, and what the tasks do, of which
`Workshop.wait` makes its runs (`run_wait`). A build may read its files over many of these steps, with other builds in
between. As long as its own files stay as they are, what it has read follows the loader (`Workshop.Follows`, kept by
every step), so it ends with the loader's tables or with the loader's error (`Follows.finish`), and one wait is enough
for a build that is alone (`Follows.wait_alone`).
-/

namespace NameBridge

namespace Workshop

variable {w w' : Workshop} {p q : Profile} {r : SideReading}

/-! ## Reading on -/

theorem readSide_fst (w : Workshop) (r : SideReading) (count : Nat) :
    ∃ openings, (w.readSide r count).1 = { w with openings } := by
  induction count generalizing w r with
  | zero => exact ⟨w.openings, rfl⟩
  | succ count ih =>
    rw [readSide]
    split
    · exact ⟨w.openings, rfl⟩
    · split
      · exact ⟨w.openings, rfl⟩
      · exact ih _ _

/-- What has been opened before does not matter. -/
theorem readSide_snd (w : Workshop) (openings : List String) (r : SideReading) (count : Nat) :
    ({ w with openings }.readSide r count).2 = (w.readSide r count).2 := by
  induction count generalizing w openings r with
  | zero => rfl
  | succ count ih =>
    rw [readSide, readSide]
    split
    · rfl
    · split
      · rfl
      · exact (ih w _ _).trans (ih w _ _).symm

/-- What every opening keeps is kept. -/
theorem readSide_induction {P : SideReading → Prop}
    (htake : ∀ r location, P r → r.next? = some location → P (r.take (w.files.openReading w.base location)))
    (h : P r) (count : Nat) : P (w.readSide r count).2 := by
  induction count generalizing w r with
  | zero => exact h
  | succ count ih =>
    rw [readSide]
    split
    · exact h
    · rename_i location hnext
      split
      · exact h
      · exact ih htake (htake r location h hnext)

theorem source_readSide (w : Workshop) (r : SideReading) (count : Nat) : (w.readSide r count).2.source = r.source :=
  readSide_induction (P := fun r' => r'.source = r.source)
    (fun r' _ h _ => (SideReading.source_take r' _).trans h) rfl count

theorem follows_readSide (h : r.Follows w.files w.base w.options) (count : Nat) :
    (w.readSide r count).2.Follows w.files w.base w.options :=
  readSide_induction (fun _ _ h hnext => h.take hnext) h count

/-- Nothing is left to open where nothing is held. -/
theorem next?_readSide (hheld : ∀ location ∈ r.source.locations, location ∉ w.held) {count : Nat}
    (hcount : r.outcome = none → r.source.locations.length ≤ r.opened.length + count) :
    (w.readSide r count).2.next? = none := by
  induction count generalizing w r with
  | zero =>
    rw [readSide, SideReading.next?]
    split
    · rfl
    · exact List.getElem?_eq_none (hcount ‹_›)
  | succ count ih =>
    rw [readSide]
    split
    · assumption
    · rename_i location hnext
      obtain ⟨hnone, hlocation⟩ := SideReading.next?_eq_some hnext
      rw [if_neg (hheld location (List.mem_of_getElem? hlocation))]
      refine ih (by rwa [SideReading.source_take]) fun hout => ?_
      rw [SideReading.source_take]
      cases hopen : w.files.openFile (Path.ofLocation w.base location) with
      | error cause =>
        rw [hopen] at hout
        cases hout
      | ok source =>
        have hlength := hcount hnone
        simp only [Except.map, SideReading.take, List.length_append, List.length_singleton]
        omega

/-! ## One build -/

/-- How far the build of a profile has come. -/
def reading (w : Workshop) (p : Profile) : PairReading := (w.readings.lookup p).getD (.ofProfile p)

/-- How far it comes if it goes on now. -/
def readOn (w : Workshop) (p : Profile) : PairReading where
  community := (w.readSide (w.reading p).community p.community.locations.length).2.settle w.files w.options
  canonical := (w.readSide (w.reading p).canonical p.canonical.locations.length).2.settle w.files w.options

/-- A build that goes on ends, or comes to a location that is held. -/
theorem readPair_eq (w : Workshop) (p : Profile) :
    ∃ openings, w.readPair p =
      match (w.readOn p).outcome? with
      | some outcome => ({ w with openings, readings := w.readings.filter (·.1 ≠ p) }, some outcome)
      | none => ({ w with openings, readings := (p, w.readOn p) :: w.readings.filter (·.1 ≠ p) }, none) := by
  obtain ⟨openings, hfirst⟩ := w.readSide_fst (w.reading p).community p.community.locations.length
  obtain ⟨openings', hsecond⟩ := { w with openings }.readSide_fst (w.reading p).canonical p.canonical.locations.length
  have hcanonical := w.readSide_snd openings (w.reading p).canonical p.canonical.locations.length
  refine ⟨openings', ?_⟩
  unfold readPair
  rw [← reading]
  simp only [hfirst, hsecond, hcanonical]
  rfl

theorem readPair_eq_some {outcome : Except TableError (Table × Table)} (h : w.readPair p = (w', some outcome)) :
    (w.readOn p).outcome? = some outcome ∧
      ∃ openings, w' = { w with openings, readings := w.readings.filter (·.1 ≠ p) } := by
  obtain ⟨openings, heq⟩ := w.readPair_eq p
  rw [heq] at h
  split at h
  · cases h
    exact ⟨‹_›, openings, rfl⟩
  · cases h

theorem readPair_eq_none (h : w.readPair p = (w', none)) :
    ∃ openings, w' = { w with openings, readings := (p, w.readOn p) :: w.readings.filter (·.1 ≠ p) } := by
  obtain ⟨openings, heq⟩ := w.readPair_eq p
  rw [heq] at h
  split at h
  · cases h
  · cases h
    exact ⟨openings, rfl⟩

/-- What the build of a profile has read so far follows the loader. -/
def Follows (w : Workshop) (p : Profile) : Prop := (w.reading p).Follows w.files w.base w.options p

theorem Follows.readOn (h : w.Follows p) : (w.readOn p).Follows w.files w.base w.options p where
  communitySource := (SideReading.source_settle ..).trans ((w.source_readSide ..).trans h.communitySource)
  canonicalSource := (SideReading.source_settle ..).trans ((w.source_readSide ..).trans h.canonicalSource)
  community := (follows_readSide h.community _).settle
  canonical := (follows_readSide h.canonical _).settle

theorem Follows.outcome_eq {outcome : Except TableError (Table × Table)} (h : w.Follows p)
    (hread : w.readPair p = (w', some outcome)) :
    outcome = (w.files.pair w.base p w.options).map fun pair => (pair.community, pair.canonical) :=
  h.readOn.outcome?_eq (readPair_eq_some hread).1

theorem isSome_outcome_readOn {source : MappingSource} (hsource : r.source = source)
    (hheld : ∀ location ∈ source.locations, location ∉ w.held) :
    ((w.readSide r source.locations.length).2.settle w.files w.options).outcome.isSome := by
  subst hsource
  exact SideReading.isSome_outcome_settle (next?_readSide hheld fun _ => Nat.le_add_left ..) _ _

/-- Where nothing is held that it opens, a build that goes on ends. -/
theorem readPair_ends (hcommunity : (w.reading p).community.source = p.community)
    (hcanonical : (w.reading p).canonical.source = p.canonical) (hheld : ∀ location ∈ p.locations, location ∉ w.held) :
    ∃ w' outcome, w.readPair p = (w', some outcome) := by
  have hcommunity' : (w.readOn p).community.outcome.isSome :=
    isSome_outcome_readOn hcommunity fun l hl => hheld l (List.mem_append_left _ hl)
  have hcanonical' : (w.readOn p).canonical.outcome.isSome :=
    isSome_outcome_readOn hcanonical fun l hl => hheld l (List.mem_append_right _ hl)
  obtain ⟨outcome, hout⟩ := PairReading.isSome_outcome? hcommunity' hcanonical'
  obtain ⟨openings, heq⟩ := w.readPair_eq p
  exact ⟨_, outcome, heq.trans (by rw [hout])⟩

theorem Follows.readPair_ends (h : w.Follows p) (hheld : ∀ location ∈ p.locations, location ∉ w.held) :
    ∃ w' outcome, w.readPair p = (w', some outcome) :=
  Workshop.readPair_ends h.communitySource h.canonicalSource hheld

/-! ## Steps -/

/-- One thing that happens: a request, a change of what is held or of the files, or what a task does next. -/
inductive Step : Workshop → Workshop → Prop
  | request (w : Workshop) (profile : Option Profile) : Step w (w.request profile).2
  | hold (w : Workshop) (location : String) : Step w (w.hold location)
  | letGo (w : Workshop) (location : String) : Step w (w.letGo location)
  | change (w : Workshop) (files : FileTree) : Step w { w with files }
  /-- A build goes on until it has to wait. -/
  | read {w w' : Workshop} {p : Profile} (hbuilding : .building p ∈ w.service.tasks) (h : w.readPair p = (w', none)) :
    Step w w'
  /-- A build goes on and ends. -/
  | finish {w w' : Workshop} {i : Nat} {p : Profile} {outcome : Except TableError (Table × Table)}
    (hi : w.service.tasks[i]? = some (.building p)) (h : w.readPair p = (w', some outcome)) :
    Step w { w' with service := w'.service.finish i outcome }
  | release (w : Workshop) (i : Nat) : Step w { w with service := w.service.release i }
  | decide (w : Workshop) (i : Nat) : Step w { w with service := w.service.decide i }
  | reclaim (w : Workshop) (i : Nat) : Step w { w with service := w.service.reclaim i }

theorem Step.fixed (h : Step w w') : w'.base = w.base ∧ w'.options = w.options := by
  cases h with
  | read _ h =>
    obtain ⟨_, rfl⟩ := readPair_eq_none h
    exact ⟨rfl, rfl⟩
  | finish _ h =>
    obtain ⟨-, _, rfl⟩ := readPair_eq_some h
    exact ⟨rfl, rfl⟩
  | _ => exact ⟨rfl, rfl⟩

theorem Step.service_cases (h : Step w w') : w'.service = w.service ∨ ∃ event, w'.service = w.service.step event := by
  cases h with
  | request profile => exact .inr ⟨.request profile, rfl⟩
  | read hbuilding hread =>
    obtain ⟨openings, rfl⟩ := readPair_eq_none hread
    exact .inl rfl
  | @finish _ i p outcome hi hread =>
    obtain ⟨-, openings, rfl⟩ := readPair_eq_some hread
    exact .inr ⟨.finish i outcome, rfl⟩
  | release i => exact .inr ⟨.release i, rfl⟩
  | decide i => exact .inr ⟨.decide i, rfl⟩
  | reclaim i => exact .inr ⟨.reclaim i, rfl⟩
  | _ => exact .inl rfl

/-- A step leaves what has been read for a profile as it is, or reads on, or starts from nothing. -/
theorem Step.reading_cases (h : Step w w') (p : Profile) :
    w'.reading p = w.reading p ∨ w'.reading p = w.readOn p ∨ w'.reading p = .ofProfile p := by
  cases h with
  | @read _ q _ hread =>
    obtain ⟨openings, rfl⟩ := readPair_eq_none hread
    unfold reading
    by_cases hq : p = q
    · subst hq
      exact .inr (.inl (by rw [List.lookup_cons_self]; rfl))
    · exact .inl (by rw [List.lookup_cons, beq_eq_false_iff_ne.2 hq, lookup_filter_ne _ hq])
  | @finish _ i q outcome _ hread =>
    obtain ⟨-, openings, rfl⟩ := readPair_eq_some hread
    unfold reading
    by_cases hq : p = q
    · subst hq
      exact .inr (.inr (by rw [lookup_filter_self]; rfl))
    · exact .inl (by rw [lookup_filter_ne _ hq])
  | _ => exact .inl rfl

/-! ## Which builds have begun to read -/

/-- Only profiles that a task is building have been read from. -/
def Tracked (w : Workshop) : Prop := ∀ entry ∈ w.readings, .building entry.1 ∈ w.service.tasks

theorem Tracked.step (h : w.Tracked) (hstep : Step w w') : w'.Tracked := by
  have hevent (event : Service.Event) (hother : ∀ i outcome, event ≠ .finish i outcome) :
      ∀ entry ∈ w.readings, .building entry.1 ∈ (w.service.step event).tasks := fun entry hentry =>
    Service.building_mem_step (h entry hentry) fun i outcome heq => absurd heq (hother i outcome)
  cases hstep with
  | request profile => exact hevent (.request profile) nofun
  | hold location => exact h
  | letGo location => exact h
  | change files => exact h
  | read hbuilding hread =>
    obtain ⟨_, rfl⟩ := readPair_eq_none hread
    intro entry hentry
    rcases List.mem_cons.1 hentry with rfl | hentry
    · exact hbuilding
    · exact h entry (List.mem_of_mem_filter hentry)
  | @finish _ i q outcome hi hread =>
    obtain ⟨-, _, rfl⟩ := readPair_eq_some hread
    intro entry hentry
    obtain ⟨hentry, hne⟩ := List.mem_filter.1 hentry
    have hother : entry.1 ≠ q := of_decide_eq_true hne
    have hbuilding : .building entry.1 ∈ (w.service.step (.finish i outcome)).tasks := by
      refine Service.building_mem_step (h entry hentry) fun j _ heq hj => ?_
      cases heq
      cases hi.symm.trans hj
      exact hother rfl
    exact hbuilding
  | release i => exact hevent (.release i) nofun
  | decide i => exact hevent (.decide i) nofun
  | reclaim i => exact hevent (.reclaim i) nofun

/-- A profile that no task is building has not been read from. -/
theorem Tracked.reading_eq (h : w.Tracked) (hp : .building p ∉ w.service.tasks) : w.reading p = .ofProfile p := by
  have hnone : w.readings.lookup p = none := by
    rw [List.lookup_eq_none_iff]
    intro entry hentry
    rw [bne_iff_ne]
    rintro rfl
    exact hp (h entry hentry)
  rw [reading, hnone]
  rfl

/-! ## Runs -/

/-- A workshop that has come about from one, with any files and settings, of which nothing had been asked. -/
def Reachable (w : Workshop) : Prop :=
  ∃ start : Workshop, start.service = .initial ∧ start.readings = [] ∧ Relation.ReflTransGen Step start w

/-- A step that leaves the files of the profile as they are. -/
def Keeps (p : Profile) (w w' : Workshop) : Prop := Step w w' ∧ FileTree.Agree w.base p.locations w.files w'.files

theorem Reachable.tail (h : w.Reachable) (hrun : Relation.ReflTransGen Step w w') : w'.Reachable := by
  obtain ⟨start, hinitial, hnone, hstart⟩ := h
  exact ⟨start, hinitial, hnone, hstart.trans hrun⟩

theorem Reachable.exclusive (h : w.Reachable) : w.service.Exclusive := by
  obtain ⟨start, hinitial, -, hrun⟩ := h
  induction hrun with
  | refl =>
    rw [hinitial]
    exact Service.exclusive_run []
  | tail _ hstep ih =>
    rcases hstep.service_cases with hsame | ⟨event, hevent⟩
    · rwa [hsame]
    · rw [hevent]
      exact ih.step event

theorem Reachable.tracked (h : w.Reachable) : w.Tracked := by
  obtain ⟨start, -, hnone, hrun⟩ := h
  induction hrun with
  | refl =>
    intro entry hentry
    rw [hnone] at hentry
    cases hentry
  | tail _ hstep ih => exact ih.step hstep

theorem Follows.step (h : w.Follows p) (hkeeps : Keeps p w w') : w'.Follows p := by
  obtain ⟨hstep, hagree⟩ := hkeeps
  obtain ⟨hbase, hoptions⟩ := hstep.fixed
  have hfollows : (w'.reading p).Follows w.files w.base w.options p := by
    rcases hstep.reading_cases p with hsame | hon | hnew
    · rw [hsame]
      exact h
    · rw [hon]
      exact h.readOn
    · rw [hnew]
      exact PairReading.follows_ofProfile ..
  rw [Follows, hbase, hoptions]
  exact .of_agree hagree hfollows

/-- While the files of a profile stay as they are, its build goes on following the loader. -/
theorem Follows.run (h : w.Follows p) (hrun : Relation.ReflTransGen (Keeps p) w w') :
    w'.Follows p ∧ w'.base = w.base ∧ w'.options = w.options ∧ FileTree.Agree w.base p.locations w.files w'.files := by
  induction hrun with
  | refl => exact ⟨h, rfl, rfl, .refl _ _ _⟩
  | tail _ hkeeps ih =>
    obtain ⟨hfollows, hbase, hoptions, hagree⟩ := ih
    obtain ⟨hbase', hoptions'⟩ := hkeeps.1.fixed
    have hagree' := hkeeps.2
    rw [hbase] at hagree'
    exact ⟨hfollows.step hkeeps, hbase'.trans hbase, hoptions'.trans hoptions, hagree.trans hagree'⟩

theorem run_runTasks (p : Profile) (w : Workshop) (i fuel : Nat) :
    Relation.ReflTransGen (Keeps p) w (w.runTasks i fuel) := by
  induction fuel generalizing w i with
  | zero => exact .refl
  | succ fuel ih =>
    rw [runTasks]
    split
    · exact .refl
    · rename_i q hi
      split
      · rename_i w' hread
        obtain ⟨_, rfl⟩ := readPair_eq_none hread
        exact .head ⟨.read (List.mem_of_getElem? hi) hread, .refl _ _ _⟩ (ih _ _)
      · rename_i w' outcome hread
        obtain ⟨-, _, rfl⟩ := readPair_eq_some hread
        exact .head ⟨.finish hi hread, .refl _ _ _⟩ (ih _ _)
    · exact .head ⟨.release .., .refl _ _ _⟩ (ih _ _)
    · exact .head ⟨.decide .., .refl _ _ _⟩ (ih _ _)
    · exact .head ⟨.reclaim .., .refl _ _ _⟩ (ih _ _)

/-- What is done in waiting comes in steps that change no file. -/
theorem run_wait (p : Profile) (w : Workshop) (ids : List String) : Relation.ReflTransGen (Keeps p) w (w.wait ids) := by
  unfold wait
  split
  · exact run_runTasks ..
  · exact .refl

/-! ## The end of a build -/

/-- What has been read for a profile that no task built follows the loader from then on, and the loader gives what it
gave. -/
theorem Reachable.follows {w₀ : Workshop} (h : w₀.Reachable) (hbefore : .building p ∉ w₀.service.tasks)
    (hrun : Relation.ReflTransGen (Keeps p) w₀ w) :
    w.Follows p ∧ w.files.pair w.base p w.options = w₀.files.pair w₀.base p w₀.options := by
  have hstart : w₀.Follows p := by
    rw [Follows, h.tracked.reading_eq hbefore]
    exact PairReading.follows_ofProfile ..
  obtain ⟨hfollows, hbase, hoptions, hagree⟩ := hstart.run hrun
  rw [hbase, hoptions, hagree.pair]
  exact ⟨hfollows, rfl⟩

/-- What a build that follows the loader makes of the service by its end. -/
theorem Follows.finish {i : Nat} {outcome : Except TableError (Table × Table)} (h : w.Follows p)
    (hi : w.service.tasks[i]? = some (.building p)) (hread : w.readPair p = (w', some outcome)) :
    let s := w.service
    let s' := w'.service.finish i outcome
    (∀ pair, w.files.pair w.base p w.options = .ok pair →
      pair.profile = p ∧ outcome = .ok (pair.community, pair.canonical) ∧
      (s.requested = some p →
        s'.published = some pair ∧ s'.generation = s.generation + 1 ∧ s'.lastError = none) ∧
      (s.requested ≠ some p → s'.shown = s.shown ∧ s'.lastError = s.lastError)) ∧
    ∀ e, w.files.pair w.base p w.options = .error e →
      outcome = .error e ∧ s'.shown = s.shown ∧ s'.lastError.map TableError.message = some e.message := by
  have houtcome := h.outcome_eq hread
  obtain ⟨-, openings, rfl⟩ := readPair_eq_some hread
  refine ⟨fun pair hok => ?_, fun e herror => ?_⟩
  · rw [hok] at houtcome
    subst houtcome
    have hprofile : pair.profile = p := FileTree.profile_of_pair_eq_ok hok
    exact ⟨hprofile, rfl, Service.finish_pair hi hprofile⟩
  · rw [herror] at houtcome
    subst houtcome
    exact ⟨rfl, Service.shown_finish_error hi e,
      congrArg (Option.map TableError.message) (Service.lastError_finish_error hi e)⟩

/-! ## A build alone -/

/-- A task that is alone and has built what is requested gives up its claim and ends. -/
theorem runTasks_built (htasks : w.service.tasks = [.built p]) (hrequested : w.service.requested = some p)
    (fuel : Nat) :
    (w.runTasks 0 (fuel + 3)).service =
      { w.service with tasks := [], claimed := w.service.claimed.erase p.id } := by
  simp [runTasks, htasks, hrequested, Service.release, Service.moveTask, Service.decide, Service.successor?,
    Service.endTask]

/-- A task that is alone, builds what is requested and need not wait is done after one wait. -/
theorem Reachable.wait_alone {outcome : Except TableError (Table × Table)} (h : w.Reachable)
    (htasks : w.service.tasks = [.building p]) (hrequested : w.service.requested = some p)
    (hread : w.readPair p = (w', some outcome)) :
    (w.wait [p.id]).service = { w'.service.finish 0 outcome with tasks := [], claimed := [] } := by
  have hclaimed : w.service.claimed = [p.id] := by
    have hheld := h.exclusive.held
    rw [htasks] at hheld
    exact (List.singleton_perm.1 hheld).symm
  have hwait : w.wait [p.id] = w.runTasks 0 (8 + 1) := by
    rw [wait, if_pos (by simp [hclaimed]), enoughSteps, htasks]
    rfl
  obtain ⟨-, _, rfl⟩ := readPair_eq_some hread
  obtain ⟨hbuilt, hclaimed', hrequested'⟩ := Service.finish_alone htasks outcome
  rw [hwait, runTasks, htasks, List.getElem?_cons_zero]
  simp only [hread]
  rw [runTasks_built hbuilt (hrequested'.trans hrequested) 5, hclaimed', hclaimed, List.erase_cons_head]

/-- After the wait the service shows the pair of the loader or has its error. -/
theorem Follows.wait_alone (h : w.Follows p) (hreach : w.Reachable) (htasks : w.service.tasks = [.building p])
    (hrequested : w.service.requested = some p) (hheld : ∀ location ∈ p.locations, location ∉ w.held) :
    let s := w.service
    let s' := (w.wait [p.id]).service
    s'.tasks = [] ∧ s'.claimed = [] ∧
    (∀ pair, w.files.pair w.base p w.options = .ok pair →
      s'.published = some pair ∧ s'.generation = s.generation + 1 ∧ s'.lastError = none) ∧
    ∀ e, w.files.pair w.base p w.options = .error e →
      s'.shown = s.shown ∧ s'.lastError.map TableError.message = some e.message := by
  have hfirst : w.service.tasks[0]? = some (.building p) := by rw [htasks, List.getElem?_cons_zero]
  obtain ⟨w', outcome, hread⟩ := h.readPair_ends hheld
  obtain ⟨hok, herror⟩ := h.finish hfirst hread
  intro s s'
  rw [show s' = _ from hreach.wait_alone htasks hrequested hread]
  refine ⟨rfl, rfl, fun pair hpair => ?_, fun e he => (herror e he).2⟩
  obtain ⟨-, -, hpublished, -⟩ := hok pair hpair
  exact hpublished hrequested

/-! ## Builds and loaders -/

/-- Take any workshop that can come about in which no task builds the profile, and let anything happen after it that
leaves the files of the profile as they are. If a task builds the profile by then, its build ends as soon as it goes on
while none of its locations is held, and it ends only in what a loader gives. A pair of the loader is published if the
profile is still requested, and the last error forgotten; else nothing changes. An error of the loader becomes the last
error, and nothing is published; it is the error of the community side if that side fails. If the task is alone then,
its profile is still requested and none of its locations is held, one wait is enough: no task and no claim is left after
it, and the service shows the pair of the loader or has its error. -/
theorem build_agrees_with_loader {w₀ w : Workshop} {p : Profile} {i : Nat} (hreach : w₀.Reachable)
    (hbefore : .building p ∉ w₀.service.tasks) (hrun : Relation.ReflTransGen (Keeps p) w₀ w)
    (hi : w.service.tasks[i]? = some (.building p)) :
    let loaded := w₀.files.pair w₀.base p w₀.options
    ((∀ location ∈ p.locations, location ∉ w.held) → ∃ w' outcome, w.readPair p = (w', some outcome)) ∧
    (∀ w' outcome, w.readPair p = (w', some outcome) →
      let s := w.service
      let s' := w'.service.finish i outcome
      (∀ pair, loaded = .ok pair →
        pair.profile = p ∧ outcome = .ok (pair.community, pair.canonical) ∧
        (s.requested = some p →
          s'.published = some pair ∧ s'.generation = s.generation + 1 ∧ s'.lastError = none) ∧
        (s.requested ≠ some p → s'.shown = s.shown ∧ s'.lastError = s.lastError)) ∧
      ∀ e, loaded = .error e →
        outcome = .error e ∧ s'.shown = s.shown ∧ s'.lastError.map TableError.message = some e.message ∧
        ∀ e', w₀.files.table w₀.base p.community w₀.options = .error e' → e = e') ∧
    (w.service.tasks = [.building p] → w.service.requested = some p → (∀ location ∈ p.locations, location ∉ w.held) →
      let s := w.service
      let s' := (w.wait [p.id]).service
      s'.tasks = [] ∧ s'.claimed = [] ∧
      (∀ pair, loaded = .ok pair →
        s'.published = some pair ∧ s'.generation = s.generation + 1 ∧ s'.lastError = none) ∧
      ∀ e, loaded = .error e → s'.shown = s.shown ∧ s'.lastError.map TableError.message = some e.message) := by
  intro loaded
  obtain ⟨hfollows, hloaded⟩ := hreach.follows hbefore hrun
  refine ⟨hfollows.readPair_ends, fun w' outcome hread => ?_, fun htasks hrequested hheld => ?_⟩
  · obtain ⟨hok, herror⟩ := hfollows.finish hi hread
    rw [hloaded] at hok herror
    refine ⟨hok, fun e he => ?_⟩
    obtain ⟨houtcome, hshown, hlast⟩ := herror e he
    refine ⟨houtcome, hshown, hlast, fun e' hcommunity => ?_⟩
    exact Except.error.inj (he.symm.trans (FileTree.pair_of_table_eq_error hcommunity))
  · have hreachable : w.Reachable := hreach.tail (hrun.lift id fun _ _ h => h.1)
    have hwait := hfollows.wait_alone hreachable htasks hrequested hheld
    rw [hloaded] at hwait
    exact hwait

/-- A workshop with a file of one class, where a location is held. -/
def holding (location : String) : Workshop where
  files := ⟨[(["c"], .file (Text.encode "a net/Block\n"))]⟩
  held := [location]

/-- A build that has come to the location before it is let go. -/
def resumed (location : String) : Workshop :=
  (((holding location).request (some (Service.profileAt "a" location))).2.wait ["a"]).letGo location

theorem run_resumed (location : String) :
    Relation.ReflTransGen (Keeps (Service.profileAt "a" location)) (holding location) (resumed location) := by
  have hrequest : Keeps (Service.profileAt "a" location) (holding location)
      ((holding location).request (some (Service.profileAt "a" location))).2 := ⟨.request .., .refl _ _ _⟩
  exact .head hrequest (.tail (run_wait ..) ⟨.letGo .., .refl _ _ _⟩)

/-- A build that had to wait publishes what the loader reads, or fails as the loader does where there is no file; one
wait for its id brings it there. -/
theorem resumed_build_agrees :
    (∃ w' outcome pair, (resumed "c").readPair (Service.profileAt "a" "c") = (w', some outcome) ∧
      (holding "c").files.pair none (Service.profileAt "a" "c") {} = .ok pair ∧
      (w'.service.finish 0 outcome).published = some pair ∧
      ((resumed "c").wait ["a"]).service.published = some pair) ∧
    ∃ w' outcome, (resumed "d").readPair (Service.profileAt "a" "d") = (w', some outcome) ∧
      (w'.service.finish 0 outcome).lastError.map TableError.message =
        some "I/O error: No such file or directory (os error 2)" ∧
      ((resumed "d").wait ["a"]).service.lastError.map TableError.message =
        some "I/O error: No such file or directory (os error 2)" := by
  have hreach (location : String) : (holding location).Reachable := ⟨_, rfl, rfl, .refl⟩
  constructor
  · obtain ⟨hends, hagree, hwait⟩ :=
      build_agrees_with_loader (i := 0) (hreach "c") List.not_mem_nil (run_resumed "c") rfl
    have hheld : ∀ location ∈ (Service.profileAt "a" "c").locations, location ∉ (resumed "c").held := by decide +kernel
    obtain ⟨w', outcome, hread⟩ := hends hheld
    have hok : ((holding "c").files.pair none (Service.profileAt "a" "c") {}).isOk := by decide +kernel
    cases hpair : (holding "c").files.pair none (Service.profileAt "a" "c") {} with
    | error e =>
      rw [hpair] at hok
      cases hok
    | ok pair =>
      obtain ⟨-, -, hpublished, -⟩ := (hagree w' outcome hread).1 pair hpair
      obtain ⟨-, -, hwaited, -⟩ := hwait rfl rfl hheld
      exact ⟨w', outcome, pair, hread, rfl, (hpublished rfl).1, (hwaited pair hpair).1⟩
  · obtain ⟨hends, hagree, hwait⟩ :=
      build_agrees_with_loader (i := 0) (hreach "d") List.not_mem_nil (run_resumed "d") rfl
    have hheld : ∀ location ∈ (Service.profileAt "a" "d").locations, location ∉ (resumed "d").held := by decide +kernel
    obtain ⟨w', outcome, hread⟩ := hends hheld
    obtain ⟨-, -, hlast, -⟩ := (hagree w' outcome hread).2 (.file .notFound) rfl
    obtain ⟨-, -, -, hwaited⟩ := hwait rfl rfl hheld
    exact ⟨w', outcome, hread, hlast, (hwaited (.file .notFound) rfl).2⟩

end Workshop

end NameBridge
