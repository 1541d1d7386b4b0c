import NameBridge.Proofs.Files.Growth
import NameBridge.Proofs.Profile.Changes

/-!
Custom profiles survive in their file.

A file of profiles is read as its text is parsed, so a store is loaded exactly from what its two files hold
(`load_eq`). Saving writes the custom profiles and nothing else, and the text it writes is parsed to them
(`parseProfiles_render`). So a store that began with presets or was loaded, and was changed in any way since, is loaded
again from the file it was saved in (`load_saved`).
-/

namespace NameBridge

open Json (Value Reader)

namespace ProfileStore

variable {s : ProfileStore} {t t' : FileTree} {path : String} {presetPath : Option String} {ps : List Profile}

/-! ## Texts of profile files -/

theorem parseProfiles_render (ps : List Profile) : parseProfiles (render ps) = .ok (ps.map Profile.unmarked) := by
  refine Json.parse_pretty (Reader.list_takes ?_)
  rw [List.forall₂_map_left_iff, List.forall₂_map_right_iff, List.forall₂_same]
  exact fun p _ => p.reader_takes

theorem preset_of_parseProfiles {text : String} (h : parseProfiles text = .ok ps) : ∀ p ∈ ps, p.preset = false :=
  Json.parse_always (Reader.list_always Profile.reader_unmarked) h

/-- Profiles without a mark come back as they are. -/
theorem parseProfiles_render_of_unmarked (h : ∀ p ∈ ps, p.preset = false) : parseProfiles (render ps) = .ok ps := by
  have hmap : ps.map Profile.unmarked = ps.map id :=
    List.map_congr_left fun p hp => by rw [Profile.unmarked, ← h p hp, id]
  rw [parseProfiles_render, hmap, List.map_id]

end ProfileStore

/-! ## Profiles in files -/

namespace FileTree

variable {t t' : FileTree} {path text : String} {presetPath : Option String} {ps : List Profile}

/-- The profiles in the file at a path. -/
def profilesAt (t : FileTree) (path : String) : Except ProfileFileError (List Profile) :=
  match t.openFile path >>= ByteSource.text with
  | .error cause => .error (.file cause)
  | .ok text => (ProfileStore.parseProfiles text).mapError .json

/-- The profiles in the preset file, if there is to be one. -/
def presetsAt (t : FileTree) : Option String → Except ProfileFileError (List Profile)
  | some path => t.profilesAt path
  | none => .ok []

/-- The profiles in the custom file, if it is there. -/
def customAt (t : FileTree) (path : String) : Except ProfileFileError (List Profile) :=
  if t.pathExists path then t.profilesAt path else .ok []

/-- The store in these two files. -/
def storeAt (t : FileTree) (presetPath : Option String) (path : String) : Except ProfileFileError ProfileStore := do
  let presets ← t.presetsAt presetPath
  let custom ← t.customAt path
  return ⟨(ProfileStore.ofPresets presets path).presets, custom, path⟩

theorem profilesAt_eq_ok_iff :
    t.profilesAt path = .ok ps ↔ ∃ text, t.Holds path text ∧ ProfileStore.parseProfiles text = .ok ps := by
  simp only [← openFile_text_eq_ok_iff, profilesAt]
  cases t.openFile path >>= ByteSource.text with
  | error cause => simp
  | ok text => simp [mapError_eq_ok_iff]

/-- Written profiles without a mark are found as they are. -/
theorem profilesAt_of_holds (h : t.Holds path (ProfileStore.render ps)) (hunmarked : ∀ p ∈ ps, p.preset = false) :
    t.profilesAt path = .ok ps :=
  profilesAt_eq_ok_iff.2 ⟨_, h, ProfileStore.parseProfiles_render_of_unmarked hunmarked⟩

theorem customAt_of_holds (h : t.Holds path text) : t.customAt path = t.profilesAt path :=
  if_pos (pathExists_of_holds h)

theorem Grows.profilesAt (h : t.Grows t') (hprofiles : t.profilesAt path = .ok ps) : t'.profilesAt path = .ok ps := by
  obtain ⟨text, hholds, hparse⟩ := profilesAt_eq_ok_iff.1 hprofiles
  exact profilesAt_eq_ok_iff.2 ⟨text, h.holds hholds, hparse⟩

theorem Grows.presetsAt (h : t.Grows t') (hpresets : t.presetsAt presetPath = .ok ps) :
    t'.presetsAt presetPath = .ok ps := by
  cases presetPath with
  | none => exact hpresets
  | some path => exact Grows.profilesAt h hpresets

/-- A preset file holds what it held, unless it is the file that custom profiles were written to. -/
theorem presetsAt_of_written {custom : List Profile}
    (hwritten : t.writeText path (ProfileStore.render custom) = .ok t') (hunmarked : ∀ p ∈ custom, p.preset = false)
    (hpresets : t.presetsAt presetPath = .ok ps) :
    t'.presetsAt presetPath = .ok ps ∨ t'.presetsAt presetPath = .ok custom := by
  cases presetPath with
  | none => exact .inl hpresets
  | some presetPath =>
    obtain ⟨text, hholds, hparse⟩ := profilesAt_eq_ok_iff.1 hpresets
    rcases lookup_of_written hwritten hholds with hkept | hchanged
    · exact .inl (profilesAt_eq_ok_iff.2 ⟨text, hkept, hparse⟩)
    · exact .inr (profilesAt_of_holds hchanged hunmarked)

theorem preset_of_customAt (h : t.customAt path = .ok ps) : ∀ p ∈ ps, p.preset = false := by
  unfold customAt at h
  split at h
  · obtain ⟨text, -, hparse⟩ := profilesAt_eq_ok_iff.1 h
    exact ProfileStore.preset_of_parseProfiles hparse
  · cases h
    simp

theorem storeAt_eq_ok_iff {s : ProfileStore} : t.storeAt presetPath path = .ok s ↔
    ∃ presets custom, t.presetsAt presetPath = .ok presets ∧ t.customAt path = .ok custom ∧
      s = ⟨(ProfileStore.ofPresets presets path).presets, custom, path⟩ := by
  simp only [storeAt, bind_eq_ok_iff, pure, Except.pure, Except.ok.injEq]
  constructor
  · rintro ⟨presets, hpresets, custom, hcustom, rfl⟩
    exact ⟨presets, custom, hpresets, hcustom, rfl⟩
  · rintro ⟨presets, custom, hpresets, hcustom, rfl⟩
    exact ⟨presets, hpresets, custom, hcustom, rfl⟩

end FileTree

namespace ProfileStore

variable {s origin : ProfileStore} {t t' t₁ t₂ : FileTree} {path : String} {presetPath : Option String}
  {ps presets custom : List Profile}

/-! ## Loading and saving -/

theorem readProfiles_eq (t : FileTree) (path : String) :
    (readProfiles path : StateM FileTree _) t = (t.profilesAt path, t) := by
  rw [readProfiles, bind_of_run (t.readText_eq path), FileTree.profilesAt]
  cases t.openFile path >>= ByteSource.text <;> rfl

/-- A store is loaded from what is in its two files, and these are left alone. -/
theorem load_eq (t : FileTree) (presetPath : Option String) (path : String) :
    (load presetPath path : StateM FileTree _) t = (t.storeAt presetPath path, t) := by
  have hexists : (FileAccess.pathExists path : StateM FileTree _) t = (t.pathExists path, t) := rfl
  -- what is done after the presets were read, or there are none to read
  obtain ⟨rest, hnone, hsome, hrest⟩ : ∃ rest : Except ProfileFileError (List Profile) → StateM FileTree _,
      load none path = pure (.ok []) >>= rest ∧
        (∀ presetPath, load (some presetPath) path = readProfiles presetPath >>= rest) ∧
          ∀ presets, rest presets t =
            (presets >>= fun presets => t.customAt path >>= fun custom =>
              .ok ⟨(ofPresets presets path).presets, custom, path⟩, t) := by
    refine ⟨_, rfl, fun _ => rfl, fun presets => ?_⟩
    cases presets with
    | error e => rfl
    | ok presets =>
      dsimp only
      rw [bind_of_run hexists, FileTree.customAt]
      cases t.pathExists path with
      | false => rfl
      | true =>
        rw [if_pos rfl, if_pos rfl, bind_of_run (readProfiles_eq t path)]
        cases t.profilesAt path <;> rfl
  cases presetPath with
  | none =>
    rw [hnone, pure_bind, hrest]
    rfl
  | some presetPath =>
    rw [hsome, bind_of_run (readProfiles_eq t presetPath), hrest]
    rfl

/-- A saved store is written as a whole, in a directory that is made for it. -/
theorem save_eq_ok (h : (s.save : StateM FileTree _) t = (.ok (), t₁)) :
    ∃ t', t.Grows t' ∧ t'.writeText s.customPath (render s.custom) = .ok t₁ := by
  obtain ⟨t', hgrows, made, hparents⟩ : ∃ t', t.Grows t' ∧ ∃ made,
      (FileAccess.makeParents s.customPath : StateM FileTree _) t = (made, t') :=
    ⟨_, t.grows_makeDirectories _, _, rfl⟩
  rw [save, bind_of_run hparents] at h
  cases made with
  | error cause => cases h
  | ok _ =>
    dsimp only at h
    rcases hwrite : (FileAccess.writeText s.customPath (render s.custom) : StateM FileTree _) t' with ⟨result, written⟩
    rw [bind_of_run hwrite] at h
    obtain ⟨hresult, rfl⟩ := Prod.mk.inj h
    rw [mapError_eq_ok_iff.1 hresult] at hwrite
    exact ⟨t', hgrows, FileTree.writeText_of_run hwrite⟩

/-! ## Loading what was saved -/

/-- A store that a program begins with: one of presets alone, or one that is loaded. -/
inductive Initial : ProfileStore → Prop where
  | ofPresets (presets : List Profile) (path : String) : Initial (ofPresets presets path)
  | load (presetPath : Option String) (path : String) (t t' : FileTree) {s : ProfileStore}
      (h : (load presetPath path : StateM FileTree _) t = (.ok s, t')) : Initial s

theorem Initial.custom_unmarked (h : Initial s) : ∀ p ∈ s.custom, p.preset = false := by
  cases h with
  | ofPresets presets path => exact List.forall_mem_nil _
  | load presetPath path t t' h =>
    rw [load_eq, Prod.mk.injEq] at h
    obtain ⟨presets, custom, -, hcustom, rfl⟩ := FileTree.storeAt_eq_ok_iff.1 h.1
    exact FileTree.preset_of_customAt hcustom

/-- A store that began with presets or was loaded, was changed in any way, and was saved is loaded again as it is, with
the same presets, as long as its file stays as it is. Only the custom profiles are in that file, and no preset is among
them. -/
theorem load_saved (horigin : Initial origin) (changes : List Change)
    (hsave : ((origin.afterAll changes).save : StateM FileTree _) t = (.ok (), t₁))
    (hkept : t₂.lookup origin.customPath = t₁.lookup origin.customPath)
    (hpresets : t₂.presetsAt presetPath = .ok presets)
    (hsame : (ofPresets presets origin.customPath).presets = origin.presets) :
    (load presetPath origin.customPath : StateM FileTree _) t₂ = (.ok (origin.afterAll changes), t₂) ∧
      t₂.profilesAt origin.customPath = .ok (origin.afterAll changes).custom ∧
      ∀ p ∈ (origin.afterAll changes).custom, p.preset = false ∧
        (p ∈ origin.custom ∨ ∃ q, Change.add q ∈ changes ∧ q.id ∉ origin.presetIds ∧ p = q.unmarked) := by
  have horigins {p : Profile} (hp : p ∈ (origin.afterAll changes).custom) := mem_custom_afterAll hp
  have hunmarked : ∀ p ∈ (origin.afterAll changes).custom, p.preset = false := by
    intro p hp
    rcases horigins hp with hp | ⟨q, -, -, rfl⟩
    · exact horigin.custom_unmarked p hp
    · rfl
  obtain ⟨t', -, hwritten⟩ := save_eq_ok hsave
  rw [customPath_afterAll] at hwritten
  have hholds : t₂.Holds origin.customPath (render (origin.afterAll changes).custom) :=
    hkept.trans (FileTree.lookup_written hwritten)
  have hfile : t₂.profilesAt origin.customPath = .ok (origin.afterAll changes).custom :=
    FileTree.profilesAt_of_holds hholds hunmarked
  have hcustom := (FileTree.customAt_of_holds hholds).trans hfile
  have hstore : t₂.storeAt presetPath origin.customPath = .ok (origin.afterAll changes) := by
    refine FileTree.storeAt_eq_ok_iff.2 ⟨presets, _, hpresets, hcustom, ?_⟩
    rw [hsame, ← presets_afterAll origin changes, ← customPath_afterAll origin changes]
  exact ⟨by rw [load_eq, hstore], hfile, fun p hp => ⟨hunmarked p hp, horigins hp⟩⟩

/-- The file of the preset, in which it stands as a list. -/
def sharedFiles : FileTree :=
  FileTree.empty.put "presets.json" (.file (Text.encode "[[\"s\",[\"flat\",\"c\"],[\"retrace\",\"k\"]]]"))

def savedFiles : FileTree := ((bothStore.save : StateM FileTree _) sharedFiles).2

/-- A profile that was added beside a preset is loaded again behind it. The preset could neither be removed nor be
added once more, and it is not in the file. -/
theorem load_saved_beside_shared :
    (ofPresets [shared] "home/own.json").afterAll [.add quoted, .remove "s", .add shared] = bothStore ∧
      (bothStore.save : StateM FileTree _) sharedFiles = (.ok (), savedFiles) ∧
      (load (some "presets.json") "home/own.json" : StateM FileTree _) savedFiles = (.ok bothStore, savedFiles) ∧
      savedFiles.profilesAt "home/own.json" = .ok [quoted] := by
  have hafter : (ofPresets [shared] "home/own.json").afterAll [.add quoted, .remove "s", .add shared] =
      bothStore := by decide
  have hdone : ((bothStore.save : StateM FileTree _) sharedFiles).1 = .ok () := by decide +kernel
  have hsave : (bothStore.save : StateM FileTree _) sharedFiles = (.ok (), savedFiles) := Prod.ext hdone rfl
  have hpresets : savedFiles.presetsAt (some "presets.json") = .ok [shared] := by decide +kernel
  have hloaded := load_saved (.ofPresets [shared] "home/own.json") [.add quoted, .remove "s", .add shared]
    (hafter ▸ hsave) rfl hpresets rfl
  rw [hafter] at hloaded
  exact ⟨hafter, hsave, hloaded.1, hloaded.2.1⟩

end ProfileStore

end NameBridge
