import NameBridge.Cli.Run
import NameBridge.Proofs.Cli.Requests
import NameBridge.Proofs.Profile.Persistence
import NameBridge.Proofs.Service.Readings

/-!
A stored pair is the pair of its files.

Adding a profile writes the custom profiles with the new one at the end, so its id finds the same sources from then on
(`chosenIn_added`). A request uses nothing of a profile but the tables of its sources (`runCommand_congr`). So a request
for a stored pair comes to the same as for the files it was made of (`stored_pair_agrees_with_files`).
-/

namespace NameBridge.Cli

variable {env : Environment} {t t' t₁ : FileTree}

/-! ## Actions over a file tree -/

section

variable {α β ε : Type} {x : Action (StateM FileTree) α} {a : α} {e : Failure}

theorem run_bind_ok (h : x.run t = (.ok a, t')) (f : α → Action (StateM FileTree) β) :
    (x >>= f).run t = (f a).run t' := by
  rw [ExceptT.run_bind, bind_of_run h]

theorem run_bind_error (h : x.run t = (.error e, t')) (f : α → Action (StateM FileTree) β) :
    (x >>= f).run t = (.error e, t') := by
  rw [ExceptT.run_bind, bind_of_run h]
  rfl

theorem run_bind_eq_ok {f : α → Action (StateM FileTree) β} {b : β} (h : (x >>= f).run t = (.ok b, t')) :
    ∃ a t₁, x.run t = (.ok a, t₁) ∧ (f a).run t₁ = (.ok b, t') := by
  rcases hx : x.run t with ⟨e | a, t₁⟩
  · rw [run_bind_error hx] at h
    cases h
  · rw [run_bind_ok hx] at h
    exact ⟨a, t₁, rfl, h⟩

theorem run_attempt (wrap : ε → Failure) {action : StateM FileTree (Except ε α)} {result : Except ε α}
    (h : action t = (result, t')) :
    (attempt wrap action).run t = (result.mapError wrap, t') := by
  rw [attempt, ExceptT.run_mk, bind_of_run h]
  rfl

theorem run_attempt_eq_ok {wrap : ε → Failure} {action : StateM FileTree (Except ε α)}
    (h : (attempt wrap action).run t = (.ok a, t')) : action t = (.ok a, t') := by
  rcases haction : action t with ⟨result, t₁⟩
  rw [run_attempt wrap haction, Prod.mk.injEq, mapError_eq_ok_iff] at h
  rw [h.1, h.2]

end

/-! ## A new profile -/

/-- Two profiles that may differ in their ids and marks. -/
structure SameSources (p q : Profile) : Prop where
  community : p.community = q.community
  canonical : p.canonical = q.canonical

theorem storedProfiles_eq (env : Environment) (presets : Option String) (t : FileTree) :
    (storedProfiles env presets : Action (StateM FileTree) _).run t =
      (match env.customProfiles? with
        | none => .error .homeless
        | some path => (t.storeAt presets path).mapError .profileFile, t) := by
  unfold storedProfiles
  cases env.customProfiles? with
  | none => rfl
  | some path => exact run_attempt _ (ProfileStore.load_eq t presets path)

theorem storedProfiles_eq_ok {presets : Option String} {store : ProfileStore}
    (h : (storedProfiles env presets : Action (StateM FileTree) _).run t = (.ok store, t')) :
    t' = t ∧ ∃ path, env.customProfiles? = some path ∧ t.storeAt presets path = .ok store := by
  rw [storedProfiles_eq, Prod.mk.injEq] at h
  obtain ⟨hstore, rfl⟩ := h
  refine ⟨rfl, ?_⟩
  split at hstore
  · cases hstore
  · exact ⟨_, ‹_›, mapError_eq_ok_iff.1 hstore⟩

/-- A profile is added if its id is new, and the file is written with it at the end. -/
theorem runProfiles_add_eq_ok {presets : Option String} {p : Profile} {text : String}
    (h : (runProfiles env presets (.add p) : Action (StateM FileTree) _).run t = (.ok text, t₁)) :
    ∃ path store t', env.customProfiles? = some path ∧ t.storeAt presets path = .ok store ∧ p.id ∉ store.ids ∧
      t.Grows t' ∧ t'.writeText path (ProfileStore.render (store.custom ++ [p.unmarked])) = .ok t₁ := by
  obtain ⟨store, t₂, hload, hrest⟩ := run_bind_eq_ok h
  obtain ⟨rfl, path, hpath, hstore⟩ := storedProfiles_eq_ok hload
  obtain ⟨added, t₃, hadd, hrest⟩ := run_bind_eq_ok hrest
  obtain ⟨⟨⟩, t₄, hsave, hrest⟩ := run_bind_eq_ok hrest
  obtain ⟨-, rfl⟩ := Prod.mk.inj hrest
  obtain ⟨hadded, rfl⟩ := Prod.mk.inj (run_attempt_eq_ok hadd)
  obtain ⟨hnew, rfl⟩ := ProfileStore.add_eq_ok_iff.1 hadded
  obtain ⟨t', hgrows, hwritten⟩ := ProfileStore.save_eq_ok (run_attempt_eq_ok hsave)
  obtain ⟨_, _, _, _, rfl⟩ := FileTree.storeAt_eq_ok_iff.1 hstore
  exact ⟨path, _, t', hpath, hstore, hnew, hgrows, hwritten⟩

/-- After a profile was added, its id finds a profile with the same sources: it is behind all others, or it is first
among the presets because the presets are read from the file of the custom profiles. -/
theorem stored_of_added {presets : Option String} {path : String} {store : ProfileStore} {p : Profile}
    {t₂ : FileTree} (hstore : t.storeAt presets path = .ok store) (hnew : p.id ∉ store.ids) (hgrows : t.Grows t')
    (hwritten : t'.writeText path (ProfileStore.render (store.custom ++ [p.unmarked])) = .ok t₁)
    (hgrows₁ : t₁.Grows t₂) :
    ∃ store₂ q, t₂.storeAt presets path = .ok store₂ ∧ store₂.get? p.id = some q ∧ SameSources q p := by
  obtain ⟨ps, custom, hpresets, hcustom, rfl⟩ := FileTree.storeAt_eq_ok_iff.1 hstore
  have hunmarked : ∀ q ∈ custom ++ [p.unmarked], q.preset = false := by
    rw [List.forall_mem_append]
    exact ⟨FileTree.preset_of_customAt hcustom, by simp [Profile.unmarked]⟩
  have hholds := hgrows₁.holds (FileTree.lookup_written hwritten)
  have hcustom₂ : t₂.customAt path = .ok (custom ++ [p.unmarked]) :=
    (FileTree.customAt_of_holds hholds).trans (FileTree.profilesAt_of_holds hholds hunmarked)
  have hpresets₂ : t₂.presetsAt presets = .ok ps ∨ t₂.presetsAt presets = .ok (custom ++ [p.unmarked]) :=
    (FileTree.presetsAt_of_written hwritten hunmarked (hgrows.presetsAt hpresets)).imp hgrows₁.presetsAt
      hgrows₁.presetsAt
  rcases hpresets₂ with hkept | hchanged
  · have hprofiles : ProfileStore.profiles ⟨(ProfileStore.ofPresets ps path).presets, custom ++ [p.unmarked], path⟩ =
        ((ProfileStore.ofPresets ps path).presets ++ custom) ++ p.unmarked :: [] := (List.append_assoc _ _ _).symm
    exact ⟨_, _, FileTree.storeAt_eq_ok_iff.2 ⟨_, _, hkept, hcustom₂, rfl⟩,
      ProfileStore.get?_of_profiles_eq hprofiles rfl hnew, ⟨rfl, rfl⟩⟩
  · have hprofiles : ProfileStore.profiles
          ⟨(ProfileStore.ofPresets (custom ++ [p.unmarked]) path).presets, custom ++ [p.unmarked], path⟩ =
        (ProfileStore.ofPresets custom path).presets ++ { p with preset := true } :: (custom ++ [p.unmarked]) := by
      simp [ProfileStore.profiles, ProfileStore.ofPresets, Profile.unmarked]
    have hbefore : p.id ∉ (ProfileStore.ofPresets custom path).presets.map (·.id) := by
      rw [ProfileStore.ids_eq, List.mem_append, not_or] at hnew
      simpa [ProfileStore.ofPresets] using hnew.2
    exact ⟨_, _, FileTree.storeAt_eq_ok_iff.2 ⟨_, _, hchanged, hcustom₂, rfl⟩,
      ProfileStore.get?_of_profiles_eq hprofiles rfl hbefore, ⟨rfl, rfl⟩⟩

/-! ## Requests for a pair -/

/-- In these files the choice of a pair is this profile. -/
def ChosenIn (t : FileTree) (env : Environment) (presets : Option String) (choice : PairChoice) (p : Profile) : Prop :=
  (chosenProfile env presets choice : Action (StateM FileTree) _).run t = (.ok p, t)

theorem loadHierarchy_eq (t : FileTree) (path : Option String) :
    ∃ result, (loadHierarchy path : Action (StateM FileTree) _).run t = (result, t) := by
  cases path with
  | none => exact ⟨_, rfl⟩
  | some path =>
    have hread := run_attempt .hierarchyFile (t.readText_eq path)
    rw [loadHierarchy]
    cases htext : t.openFile path >>= ByteSource.text with
    | error cause =>
      rw [htext] at hread
      exact ⟨_, run_bind_error hread _⟩
    | ok text =>
      rw [htext] at hread
      exact ⟨_, run_bind_ok hread _⟩

section

variable {presets : Option String} {choice choice' : PairChoice} {p q : Profile}

theorem loadChosen_eq (h : ChosenIn t env presets choice p) (isStrict : Bool) :
    (loadChosen env presets ⟨choice, isStrict⟩ : Action (StateM FileTree) _).run t =
      ((t.pair none p (.ofStrict isStrict)).mapError .table, t) := by
  rw [loadChosen, run_bind_ok h]
  exact run_attempt _ (t.loadPair_eq none p _)

variable (h : ChosenIn t env presets choice p) (h' : ChosenIn t env presets choice' q) (hsources : SameSources p q)
  (isStrict : Bool)

include h h' hsources

/-- What uses only the tables of a pair does the same with either profile. -/
theorem loadChosen_bind_congr {β : Type} {f : MappingPair → Action (StateM FileTree) β}
    (hf : ∀ community canonical, f ⟨p, community, canonical⟩ = f ⟨q, community, canonical⟩) :
    (loadChosen env presets ⟨choice, isStrict⟩ >>= f).run t =
      (loadChosen env presets ⟨choice', isStrict⟩ >>= f).run t := by
  have hp := loadChosen_eq h isStrict
  have hq := loadChosen_eq h' isStrict
  rw [FileTree.pair_eq, hsources.community, hsources.canonical] at hp
  rw [FileTree.pair_eq] at hq
  cases hcommunity : t.table none q.community (.ofStrict isStrict) with
  | error e =>
    rw [hcommunity] at hp hq
    rw [run_bind_error hp, run_bind_error hq]
  | ok community =>
    cases hcanonical : t.table none q.canonical (.ofStrict isStrict) with
    | error e =>
      rw [hcommunity, hcanonical] at hp hq
      rw [run_bind_error hp, run_bind_error hq]
    | ok canonical =>
      rw [hcommunity, hcanonical] at hp hq
      rw [run_bind_ok hp, run_bind_ok hq, hf]

theorem printResolved_congr (hierarchy : Hierarchy) (query : SymbolQuery) :
    (printResolved env presets ⟨choice, isStrict⟩ hierarchy query : Action (StateM FileTree) _).run t =
      (printResolved env presets ⟨choice', isStrict⟩ hierarchy query : Action (StateM FileTree) _).run t :=
  loadChosen_bind_congr h h' hsources isStrict fun _ _ => rfl

/-- A request comes to the same with either profile. -/
theorem runCommand_congr (r : Request) :
    (runCommand env presets (r.command ⟨choice, isStrict⟩) : Action (StateM FileTree) _).run t =
      (runCommand env presets (r.command ⟨choice', isStrict⟩) : Action (StateM FileTree) _).run t := by
  cases r with
  | type name => exact printResolved_congr h h' hsources isStrict _ _
  | field owner name => exact printResolved_congr h h' hsources isStrict _ _
  | method owner name arguments hierarchy =>
    rw [Request.command, Request.command, runCommand, runCommand]
    -- the hierarchy is read first, whatever the pair is
    obtain ⟨e | loaded, hloaded⟩ := loadHierarchy_eq t hierarchy
    · rw [run_bind_error hloaded, run_bind_error hloaded]
    · rw [run_bind_ok hloaded, run_bind_ok hloaded]
      exact printResolved_congr h h' hsources isStrict _ _
  | describe name member =>
    refine loadChosen_bind_congr h h' hsources isStrict fun _ _ => ?_
    cases member <;> rfl

end

/-! ## Whole runs -/

theorem grows_openLog {result : Except FileError Unit} (h : (openLog env : StateM FileTree _) t = (result, t')) :
    t.Grows t' := by
  unfold openLog at h
  cases hlogs : env.logs? with
  | none =>
    rw [hlogs] at h
    obtain ⟨-, rfl⟩ := Prod.mk.inj h
    exact .refl t
  | some logs =>
    obtain ⟨t₂, hgrows, made, hmade⟩ : ∃ t₂, t.Grows t₂ ∧ ∃ made,
        (FileAccess.makeDirectories logs : StateM FileTree _) t = (made, t₂) :=
      ⟨_, t.grows_makeDirectories logs, _, rfl⟩
    rw [hlogs] at h
    replace h := (bind_of_run hmade _).symm.trans h
    cases made with
    | error cause =>
      obtain ⟨-, rfl⟩ := Prod.mk.inj h
      exact hgrows
    | ok _ =>
      exact hgrows.trans (FileTree.grows_of_run_ensureFile h)

theorem run_of_parse_eq_error {args : List String} {reason : Stop} (h : parse args = .error reason) :
    (run env args : StateM FileTree _) t = (.stopped reason, t) := by
  rw [run, h]
  rfl

theorem run_of_openLog_eq_error {args : List String} {invocation : Invocation} {cause : FileError}
    (h : parse args = .ok invocation) (hlog : (openLog env : StateM FileTree _) t = (.error cause, t')) :
    (run env args : StateM FileTree _) t = (.aborted cause, t') := by
  rw [run, h]
  exact bind_of_run hlog _

theorem run_of_openLog_eq_ok {args : List String} {invocation : Invocation}
    (h : parse args = .ok invocation) (hlog : (openLog env : StateM FileTree _) t = (.ok (), t')) :
    (run env args : StateM FileTree _) t =
      match (runCommand env invocation.presets invocation.command : Action (StateM FileTree) _).run t' with
      | (.ok text, t₁) => (.printed text, t₁)
      | (.error cause, t₁) => (.failed cause, t₁) := by
  rw [run, h]
  refine (bind_of_run hlog _).trans ?_
  rcases hrun : (runCommand env invocation.presets invocation.command : Action (StateM FileTree) _).run t' with
    ⟨cause | text, t₁⟩
  · exact bind_of_run hrun _
  · exact bind_of_run hrun _

theorem chosenIn_stored {presets : Option String} {id path : String} {store : ProfileStore} {p : Profile}
    (hpath : env.customProfiles? = some path) (hstore : t.storeAt presets path = .ok store)
    (hget : store.get? id = some p) : ChosenIn t env presets (.stored id) p := by
  have hstored : (storedProfiles env presets : Action (StateM FileTree) _).run t = (.ok store, t) := by
    rw [storedProfiles_eq, hpath]
    dsimp only
    rw [hstore]
    rfl
  rw [ChosenIn, chosenProfile, run_bind_ok hstored, hget]
  rfl

/-- What was added to the profiles is found by its id, with its sources. -/
theorem chosenIn_added {args : List String} {presets : Option String} {p : Profile} {text : String} {t₂ : FileTree}
    (hparse : parse args = .ok ⟨presets, .profiles (.add p)⟩)
    (hrun : (run env args : StateM FileTree _) t = (.printed text, t₁)) (hgrows : t₁.Grows t₂) :
    ∃ q, ChosenIn t₂ env presets (.stored p.id) q ∧ SameSources q p := by
  rcases hlog : (openLog env : StateM FileTree _) t with ⟨cause | ⟨⟩, t'⟩
  · rw [run_of_openLog_eq_error hparse hlog] at hrun
    cases hrun
  · rw [run_of_openLog_eq_ok hparse hlog] at hrun
    rcases hadd : (runCommand env presets (.profiles (.add p)) : Action (StateM FileTree) _).run t' with
      ⟨cause | printed, t₃⟩
    · rw [hadd] at hrun
      cases hrun
    · rw [hadd] at hrun
      obtain ⟨-, rfl⟩ := Prod.mk.inj hrun
      obtain ⟨path, store, t₄, hpath, hstore, hnew, hgrows', hwritten⟩ := runProfiles_add_eq_ok hadd
      obtain ⟨store₂, q, hstore₂, hget, hsources⟩ := stored_of_added hstore hnew hgrows' hwritten hgrows
      exact ⟨q, chosenIn_stored hpath hstore₂ hget, hsources⟩

/-- After a profile was added, a request with its id comes to the same as with the files and formats it was made of:
whatever the options are spelled like, whatever the files hold, and whether it is answered or fails. -/
theorem stored_pair_agrees_with_files {f : SourceFlags} (hlocated : f.Located) {presets : Option String} {id : String}
    {r : Request} {isStrict : Bool} {add stored files : List String}
    (hadd : parse add = parse (addArguments presets id f))
    (hstored : parse stored = parse (r.arguments presets [("profile", id)] isStrict))
    (hfiles : parse files = parse (r.arguments presets f.options isStrict)) {text : String}
    (hrun : (run env add : StateM FileTree _) t = (.printed text, t₁)) :
    (run env stored : StateM FileTree _) t₁ = (run env files : StateM FileTree _) t₁ := by
  cases hparse : parse (addArguments presets id f) with
  | error reason =>
    rw [run_of_parse_eq_error (hadd.trans hparse)] at hrun
    cases hrun
  | ok invocation =>
    obtain ⟨hformats, rfl⟩ := parse_add_eq_ok hparse
    rw [r.parse_request presets (chooses_stored id)] at hstored
    rw [r.parse_request presets (SourceFlags.chooses hlocated hformats)] at hfiles
    cases hown : (r.options presets).foldlM (Scanned.takeOption r.grammar) {} with
    | error reason =>
      rw [hown] at hstored hfiles
      rw [run_of_parse_eq_error hstored, run_of_parse_eq_error hfiles]
    | ok _ =>
      rw [hown] at hstored hfiles
      rcases hlog : (openLog env : StateM FileTree _) t₁ with ⟨cause | ⟨⟩, t₂⟩
      · rw [run_of_openLog_eq_error hstored hlog, run_of_openLog_eq_error hfiles hlog]
      · obtain ⟨q, hchosen, hsources⟩ := chosenIn_added (hadd.trans hparse) hrun (grows_openLog hlog)
        have hnamed : ChosenIn t₂ env presets (.files f.communitySource f.canonicalSource)
          { id := commandLineId, community := f.communitySource, canonical := f.canonicalSource } := rfl
        have hcommand := runCommand_congr hchosen hnamed ⟨hsources.community, hsources.canonical⟩ isStrict r
        rw [run_of_openLog_eq_ok hstored hlog, run_of_openLog_eq_ok hfiles hlog]
        dsimp only
        rw [hcommand]

def pairEnvironment : Environment := { stateHome := some "s", today := "d" }

/-- A class list and a retrace file of one class. -/
def pairFiles : FileTree :=
  (FileTree.empty.put "c" (.file (Text.encode "a net/Foo\n"))).put "k" (.file (Text.encode "com.Real -> a:\n"))

def addMine : List String := ["profiles", "add", "mine", "--community", "c", "--canonical=k"]

def addedFiles : FileTree := ((run pairEnvironment addMine : StateM FileTree _) pairFiles).2

/-- The pair of the two files is added, and then a class is asked for in both ways. -/
theorem stored_pair_agrees_with_two_files :
    (run pairEnvironment addMine : StateM FileTree _) pairFiles =
        (.printed "Added profile 'mine' to s/custom-profiles.json\n", addedFiles) ∧
      (run pairEnvironment ["class", "--profile", "mine", "net.Foo", "--strict"] : StateM FileTree _) addedFiles =
        (run pairEnvironment ["class", "--strict", "net.Foo", "--canonical", "k", "--community", "c"] :
          StateM FileTree _) addedFiles := by
  have hprinted : ((run pairEnvironment addMine : StateM FileTree _) pairFiles).1 =
      .printed "Added profile 'mine' to s/custom-profiles.json\n" := by decide +kernel
  have hrun : (run pairEnvironment addMine : StateM FileTree _) pairFiles =
      (.printed "Added profile 'mine' to s/custom-profiles.json\n", addedFiles) :=
    Prod.ext hprinted (by rw [addedFiles])
  have hlocated : SourceFlags.Located { community := "c", canonical := "k" } := ⟨by decide, by decide, by decide⟩
  have hadd : parse addMine = parse (addArguments none "mine" { community := "c", canonical := "k" }) := by
    decide +kernel
  have hstored : parse ["class", "--profile", "mine", "net.Foo", "--strict"] =
      parse ((Request.type "net.Foo").arguments none [("profile", "mine")] true) := by decide +kernel
  have hfiles : parse ["class", "--strict", "net.Foo", "--canonical", "k", "--community", "c"] =
      parse ((Request.type "net.Foo").arguments none
        (SourceFlags.options { community := "c", canonical := "k" }) true) := by decide +kernel
  exact ⟨hrun, stored_pair_agrees_with_files hlocated hadd hstored hfiles hrun⟩

end NameBridge.Cli
