import Mathlib.Data.List.Forall2
import NameBridge.Proofs.Text.Sources
import NameBridge.Service.Reading

/-!
A build reads what a loader reads.

A loader has a file whole, from its opening. A build opens it, fetches what holds the first line, and the rest later;
while the file stays as it is, the two make the same lines of it (`FileReading.allLines_ofSource`). So as long as the
files of a side stay as they are, the side of a build follows the loader (`SideReading.Follows`): what it has opened is
what the loader opens first, and the table it ends with, or the error, is the loader's.
-/

namespace NameBridge

/-! ## One file -/

namespace FileTree

variable {t t' : FileTree} {path : String} {source : ByteSource}

theorem bytes_of_openFile (h : t.openFile path = .ok source) : t.bytes path = source.bytes := by
  unfold openFile at h
  unfold bytes
  cases hnode : t.lookup path with
  | error cause =>
    rw [hnode] at h
    cases h
  | ok node =>
    rw [hnode] at h
    cases node <;> cases h <;> rfl

end FileTree

theorem LineCursor.extend_nil (c : LineCursor) : c.extend [] = c := by
  unfold extend
  split
  · rw [List.append_nil]
  · rfl

namespace FileReading

/-- What is fetched first holds the first line and its end. -/
theorem fetchedFirst_append {before : List UInt8} (h : lineFeed ∉ before) (after : List UInt8) :
    ∃ n, fetchedFirst (before ++ lineFeed :: after) = (before ++ [lineFeed]).length + n := by
  have hblocks := Nat.lt_div_mul_add (a := before.length) (b := blockSize) (by decide)
  have hle : (before ++ [lineFeed]).length ≤ fetchedFirst (before ++ lineFeed :: after) := by
    rw [fetchedFirst, Text.takeWhile_before h, Nat.add_mul, Nat.one_mul]
    simp only [List.length_append, List.length_cons, List.length_nil]
    omega
  exact Nat.exists_eq_add_of_le hle

/-- All is fetched first if it is one line. -/
theorem fetchedFirst_of_not_mem {bytes : List UInt8} (h : lineFeed ∉ bytes) : fetchedFirst bytes = bytes.length := by
  have hblocks := Nat.lt_div_mul_add (a := bytes.length) (b := blockSize) (by decide)
  have hline : bytes.takeWhile (· != lineFeed) = bytes := by
    rw [List.takeWhile_eq_self_iff]
    intro b hb
    rw [bne_iff_ne]
    rintro rfl
    exact h hb
  rw [fetchedFirst, hline, Nat.add_mul, Nat.one_mul]
  omega

/-- A file that stays as it is gives the same lines in two parts as in one. -/
theorem allLines_ofSource (path : String) (source : ByteSource) {files : FileTree}
    (h : files.bytes path = source.bytes) : (ofSource path source).allLines files = .ofSource source := by
  obtain ⟨bytes, failure⟩ := source
  simp only [allLines, ofSource, h]
  by_cases hfeed : lineFeed ∈ bytes
  · obtain ⟨before, after, rfl, hbefore⟩ := List.eq_append_cons_of_mem hfeed
    obtain ⟨n, hfetched⟩ := fetchedFirst_append hbefore after
    have hsplit : before ++ lineFeed :: after = (before ++ [lineFeed]) ++ after := by simp
    have htake : (before ++ lineFeed :: after).take (fetchedFirst (before ++ lineFeed :: after)) =
        before ++ lineFeed :: after.take n := by
      rw [hfetched, hsplit, List.take_length_add_append]
      simp
    have hdrop : (before ++ lineFeed :: after).drop (fetchedFirst (before ++ lineFeed :: after)) = after.drop n := by
      rw [hfetched, hsplit, List.drop_length_add_append]
    rw [htake, hdrop, LineCursor.ofSource, LineCursor.ofSource, LineCursor.fill, LineCursor.fill,
      NextLine.read_before failure hbefore, NextLine.read_before failure hbefore, NextLine.ofBytes, NextLine.ofBytes]
    cases Text.decode? before with
    | none => rfl
    | some text => simp [NextLine.dropReturn, LineCursor.extend]
  · rw [fetchedFirst_of_not_mem hfeed, List.take_length, List.drop_length, LineCursor.extend_nil]

end FileReading

/-! ## Opening what a source names -/

/-- The locations that are opened for a profile. -/
def Profile.locations (p : Profile) : List String := p.community.locations ++ p.canonical.locations

namespace FileTree

variable {t t' : FileTree} {base : Option String} {location : String} {locations : List String}

/-- What comes of opening a location for a build. -/
def openReading (t : FileTree) (base : Option String) (location : String) : Except FileError FileReading :=
  (t.openFile (Path.ofLocation base location)).map (.ofSource (Path.ofLocation base location))

/-- These files are what comes of opening these locations. -/
def Opens (t : FileTree) (base : Option String) : List String → List FileReading → Prop :=
  List.Forall₂ fun location file => t.openReading base location = .ok file

theorem openReading_eq_ok {file : FileReading} (h : t.openReading base location = .ok file) :
    ∃ source, t.openFile (Path.ofLocation base location) = .ok source ∧ file.allLines t = .ofSource source := by
  unfold openReading at h
  cases hopen : t.openFile (Path.ofLocation base location) with
  | error cause =>
    rw [hopen] at h
    cases h
  | ok source =>
    rw [hopen] at h
    cases h
    exact ⟨source, rfl, FileReading.allLines_ofSource _ source (bytes_of_openFile hopen)⟩

theorem openReading_eq_error {cause : FileError} (h : t.openReading base location = .error cause) :
    t.openFile (Path.ofLocation base location) = .error cause := by
  unfold openReading at h
  cases hopen : t.openFile (Path.ofLocation base location) with
  | error cause' =>
    rw [hopen] at h
    cases h
    rfl
  | ok source =>
    rw [hopen] at h
    cases h

theorem openAll_cons (base : Option String) (location : String) (locations : List String) (t : FileTree) :
    openAll (m := StateM FileTree) base (location :: locations) t =
      match t.openFile (Path.ofLocation base location) with
      | .error cause => (.error cause, t)
      | .ok source =>
        match openAll (m := StateM FileTree) base locations t with
        | (.error cause, t') => (.error cause, t')
        | (.ok files, t') => (.ok (.ofSource source :: files), t') := by
  have hopen (path : String) : (FileAccess.openFile path : StateM FileTree _) t = (t.openFile path, t) := rfl
  simp only [openAll, bind, StateT.bind, hopen]
  cases t.openFile (Path.ofLocation base location) with
  | error cause => rfl
  | ok source =>
    simp only [StateT.bind]
    rcases openAll (m := StateM FileTree) base locations t with ⟨_ | files, t'⟩
    · rfl
    · rfl

theorem openAll_of_opens {files : List FileReading} (h : t.Opens base locations files) :
    openAll (m := StateM FileTree) base locations t = (.ok (files.map (·.allLines t)), t) := by
  induction h with
  | nil => rfl
  | cons hopen _ ih =>
    obtain ⟨source, hsource, hlines⟩ := openReading_eq_ok hopen
    rw [openAll_cons, hsource, ih, List.map_cons, hlines]

theorem openAll_of_error {before : List String} {files : List FileReading} {cause : FileError}
    (h : t.Opens base before files) (herror : t.openReading base location = .error cause) (after : List String) :
    openAll (m := StateM FileTree) base (before ++ location :: after) t = (.error cause, t) := by
  induction h with
  | nil => rw [List.nil_append, openAll_cons, openReading_eq_error herror]
  | cons hopen _ ih =>
    obtain ⟨source, hsource, -⟩ := openReading_eq_ok hopen
    rw [List.cons_append, openAll_cons, hsource, ih]

/-! ## Loading -/

variable {options : ReadOptions} {source : MappingSource}

/-- The table that a loader makes of a source in these files. -/
def table (t : FileTree) (base : Option String) (source : MappingSource) (options : ReadOptions) :
    Except TableError Table :=
  (loadTable (m := StateM FileTree) base source options t).1

/-- The pair that a loader makes of a profile in these files. -/
def pair (t : FileTree) (base : Option String) (p : Profile) (options : ReadOptions) : Except TableError MappingPair :=
  (loadPair (m := StateM FileTree) base p options t).1

theorem table_of_opens {files : List FileReading} (h : t.Opens base source.locations files) :
    loadTable (m := StateM FileTree) base source options t =
      (source.read (files.map (·.allLines t)) options, t) := by
  simp only [loadTable, bind, StateT.bind, openAll_of_opens h]
  rfl

theorem table_of_error {before after : List String} {files : List FileReading} {cause : FileError}
    (hlocations : source.locations = before ++ location :: after) (h : t.Opens base before files)
    (herror : t.openReading base location = .error cause) :
    loadTable (m := StateM FileTree) base source options t = (.error (.file cause), t) := by
  simp only [loadTable, bind, StateT.bind, hlocations, openAll_of_error h herror]
  rfl

/-- Either all of these locations can be opened, or they can up to one of them. -/
theorem opens_or_error (t : FileTree) (base : Option String) (locations : List String) :
    (∃ files, t.Opens base locations files) ∨
      ∃ before location after files cause, locations = before ++ location :: after ∧ t.Opens base before files ∧
        t.openReading base location = .error cause := by
  induction locations with
  | nil => exact .inl ⟨[], .nil⟩
  | cons location locations ih =>
    cases hopen : t.openReading base location with
    | error cause => exact .inr ⟨[], location, locations, [], cause, rfl, .nil, hopen⟩
    | ok file =>
      rcases ih with ⟨files, h⟩ | ⟨before, location', after, files, cause, rfl, h, herror⟩
      · exact .inl ⟨file :: files, .cons hopen h⟩
      · exact .inr ⟨location :: before, location', after, file :: files, cause, rfl, .cons hopen h, herror⟩

/-- A loader leaves the files alone. -/
theorem loadTable_eq (t : FileTree) (base : Option String) (source : MappingSource) (options : ReadOptions) :
    loadTable (m := StateM FileTree) base source options t = (t.table base source options, t) := by
  rcases t.opens_or_error base source.locations with ⟨files, h⟩ | ⟨_, _, _, _, _, hlocations, h, herror⟩
  · rw [table, table_of_opens h]
  · rw [table, table_of_error hlocations h herror]

/-- A pair needs both tables, and the community side is first. -/
theorem pair_eq (t : FileTree) (base : Option String) (p : Profile) (options : ReadOptions) :
    t.pair base p options =
      match t.table base p.community options with
      | .error e => .error e
      | .ok community =>
        match t.table base p.canonical options with
        | .error e => .error e
        | .ok canonical => .ok ⟨p, community, canonical⟩ := by
  simp only [pair, loadPair, bind, StateT.bind, loadTable_eq]
  cases t.table base p.community options with
  | error e => rfl
  | ok community =>
    simp only [StateT.bind, loadTable_eq]
    cases t.table base p.canonical options with
    | error e => rfl
    | ok canonical => rfl

theorem loadPair_eq (t : FileTree) (base : Option String) (p : Profile) (options : ReadOptions) :
    loadPair (m := StateM FileTree) base p options t = (t.pair base p options, t) := by
  rw [pair_eq]
  simp only [loadPair, bind, StateT.bind, loadTable_eq]
  cases t.table base p.community options with
  | error e => rfl
  | ok community =>
    simp only [StateT.bind, loadTable_eq]
    cases t.table base p.canonical options with
    | error e => rfl
    | ok canonical => rfl

theorem profile_of_pair_eq_ok {p : Profile} {loaded : MappingPair} (h : t.pair base p options = .ok loaded) :
    loaded.profile = p := by
  rw [pair_eq] at h
  split at h
  · cases h
  · split at h <;> cases h
    rfl

/-- Where the community side fails, its error is that of the pair. -/
theorem pair_of_table_eq_error {p : Profile} {e : TableError} (h : t.table base p.community options = .error e) :
    t.pair base p options = .error e := by
  rw [pair_eq, h]

/-! ## Files that stay as they are -/

/-- Opening any of these locations gives the same in both trees. -/
def Agree (base : Option String) (locations : List String) (t t' : FileTree) : Prop :=
  ∀ location ∈ locations, t'.openFile (Path.ofLocation base location) = t.openFile (Path.ofLocation base location)

theorem Agree.refl (base : Option String) (locations : List String) (t : FileTree) : Agree base locations t t :=
  fun _ _ => rfl

theorem Agree.trans {t'' : FileTree} (h : Agree base locations t t') (h' : Agree base locations t' t'') :
    Agree base locations t t'' :=
  fun location hmem => (h' location hmem).trans (h location hmem)

theorem Agree.left {others : List String} (h : Agree base (locations ++ others) t t') : Agree base locations t t' :=
  fun location hmem => h location (List.mem_append_left _ hmem)

theorem Agree.right {others : List String} (h : Agree base (locations ++ others) t t') : Agree base others t t' :=
  fun location hmem => h location (List.mem_append_right _ hmem)

theorem Agree.openReading (h : Agree base locations t t') (hmem : location ∈ locations) :
    t'.openReading base location = t.openReading base location := by
  rw [FileTree.openReading, FileTree.openReading, h location hmem]

theorem Agree.opens {files : List FileReading} (h : Agree base locations t t') (hopens : t.Opens base locations files) :
    t'.Opens base locations files ∧ files.map (·.allLines t') = files.map (·.allLines t) := by
  induction hopens with
  | nil => exact ⟨.nil, rfl⟩
  | @cons location file locations files hopen _ ih =>
    have hopen' : t'.openReading base location = .ok file := (h.openReading List.mem_cons_self).trans hopen
    obtain ⟨hopens, hmap⟩ := ih fun location hmem => h location (List.mem_cons_of_mem _ hmem)
    obtain ⟨source, hsource, hlines⟩ := openReading_eq_ok hopen
    obtain ⟨source', hsource', hlines'⟩ := openReading_eq_ok hopen'
    rw [h location List.mem_cons_self, hsource] at hsource'
    cases hsource'
    exact ⟨.cons hopen' hopens, by rw [List.map_cons, List.map_cons, hmap, hlines, hlines']⟩

/-- A loader looks at nothing but the locations of its source. -/
theorem Agree.table (h : Agree base source.locations t t') (options : ReadOptions) :
    t'.table base source options = t.table base source options := by
  rcases t.opens_or_error base source.locations with
    ⟨files, hopens⟩ | ⟨before, location, after, files, cause, hlocations, hopens, herror⟩
  · obtain ⟨hopens', hmap⟩ := h.opens hopens
    rw [FileTree.table, FileTree.table, table_of_opens hopens, table_of_opens hopens', hmap]
  · rw [hlocations] at h
    have hbefore : t'.Opens base before files := (h.left.opens hopens).1
    have herror' : t'.openReading base location = .error cause :=
      (h.openReading (List.mem_append_right _ List.mem_cons_self)).trans herror
    rw [FileTree.table, FileTree.table, table_of_error hlocations hopens herror,
      table_of_error hlocations hbefore herror']

theorem Agree.pair {p : Profile} (h : Agree base p.locations t t') (options : ReadOptions) :
    t'.pair base p options = t.pair base p options := by
  rw [pair_eq, pair_eq, h.left.table options, h.right.table options]

end FileTree

/-! ## One side of a build -/

namespace SideReading

variable {t t' : FileTree} {base : Option String} {options : ReadOptions} {r : SideReading}

/-- The side has opened the first of its files as a loader does, and its outcome, if it has one, is the loader's. -/
structure Follows (t : FileTree) (base : Option String) (options : ReadOptions) (r : SideReading) : Prop where
  opened : ∃ before after, r.source.locations = before ++ after ∧ t.Opens base before r.opened
  outcome : ∀ result, r.outcome = some result → result = t.table base r.source options

theorem follows_start (t : FileTree) (base : Option String) (options : ReadOptions) (source : MappingSource) :
    Follows t base options { source } where
  opened := ⟨[], source.locations, rfl, .nil⟩
  outcome := nofun

theorem Follows.of_agree (hagree : FileTree.Agree base r.source.locations t t') (h : Follows t base options r) :
    Follows t' base options r where
  opened := by
    obtain ⟨before, after, hlocations, hopens⟩ := h.opened
    rw [hlocations] at hagree
    exact ⟨before, after, hlocations, (hagree.left.opens hopens).1⟩
  outcome result hresult := (h.outcome result hresult).trans (hagree.table options).symm

/-- A side that has something left to open has no outcome yet. -/
theorem next?_eq_some {location : String} (h : r.next? = some location) :
    r.outcome = none ∧ r.source.locations[r.opened.length]? = some location := by
  unfold next? at h
  split at h
  · cases h
  · exact ⟨‹_›, h⟩

theorem source_take (r : SideReading) (file : Except FileError FileReading) : (r.take file).source = r.source := by
  cases file <;> rfl

theorem Follows.take {location : String} (h : Follows t base options r) (hnext : r.next? = some location) :
    Follows t base options (r.take (t.openReading base location)) := by
  obtain ⟨hnone, hlocation⟩ := next?_eq_some hnext
  obtain ⟨before, after, hlocations, hopens⟩ := h.opened
  have hlength : before.length = r.opened.length := hopens.length_eq
  rw [hlocations, List.getElem?_append_right hlength.le, hlength, Nat.sub_self] at hlocation
  obtain ⟨after, rfl⟩ : ∃ rest, after = location :: rest := by
    cases after with
    | nil => cases hlocation
    | cons first rest => exact ⟨rest, by cases hlocation; rfl⟩
  cases hopen : t.openReading base location with
  | error cause =>
    refine ⟨⟨before, location :: after, hlocations, hopens⟩, fun result hresult => ?_⟩
    cases hresult
    exact congrArg Prod.fst (FileTree.table_of_error hlocations hopens hopen).symm
  | ok file =>
    refine ⟨⟨before ++ [location], after, hlocations.trans (List.append_cons ..), ?_⟩, fun result hresult => ?_⟩
    · exact List.rel_append hopens (.cons hopen .nil)
    · exact absurd (hnone.symm.trans hresult) nofun

theorem Follows.settle (h : Follows t base options r) : Follows t base options (r.settle t options) := by
  unfold SideReading.settle
  split
  · rename_i hnone hnext
    refine ⟨h.opened, fun result hresult => ?_⟩
    obtain ⟨before, after, hlocations, hopens⟩ := h.opened
    -- nothing is left to open
    have hall : after = [] := by
      simp only [next?, hnone] at hnext
      rw [hlocations, List.getElem?_append_right hopens.length_eq.le, hopens.length_eq, Nat.sub_self] at hnext
      simpa using hnext
    subst hall
    rw [List.append_nil] at hlocations
    rw [← hlocations] at hopens
    cases hresult
    exact congrArg Prod.fst (FileTree.table_of_opens hopens).symm
  · exact h

theorem source_settle (r : SideReading) (t : FileTree) (options : ReadOptions) :
    (r.settle t options).source = r.source := by
  unfold SideReading.settle
  split <;> rfl

/-- A side with nothing left to open has an outcome once it is settled. -/
theorem isSome_outcome_settle (h : r.next? = none) (t : FileTree) (options : ReadOptions) :
    (r.settle t options).outcome.isSome := by
  unfold SideReading.settle
  split
  · rfl
  · rename_i hsplit
    cases hout : r.outcome with
    | some result => rfl
    | none => exact absurd h (hsplit hout)

end SideReading

/-! ## Both sides -/

namespace PairReading

variable {t t' : FileTree} {base : Option String} {options : ReadOptions} {p : Profile} {r : PairReading}

/-- Both sides follow the loader of the profile. -/
structure Follows (t : FileTree) (base : Option String) (options : ReadOptions) (p : Profile) (r : PairReading) :
    Prop where
  communitySource : r.community.source = p.community
  canonicalSource : r.canonical.source = p.canonical
  community : r.community.Follows t base options
  canonical : r.canonical.Follows t base options

theorem follows_ofProfile (t : FileTree) (base : Option String) (options : ReadOptions) (p : Profile) :
    Follows t base options p (.ofProfile p) where
  communitySource := rfl
  canonicalSource := rfl
  community := SideReading.follows_start ..
  canonical := SideReading.follows_start ..

theorem Follows.of_agree (hagree : FileTree.Agree base p.locations t t') (h : Follows t base options p r) :
    Follows t' base options p r where
  communitySource := h.communitySource
  canonicalSource := h.canonicalSource
  community := h.community.of_agree (h.communitySource ▸ hagree.left)
  canonical := h.canonical.of_agree (h.canonicalSource ▸ hagree.right)

/-- If both sides fail the error of the community side counts, which is where the loader stops. -/
theorem Follows.outcome?_eq {outcome : Except TableError (Table × Table)} (h : Follows t base options p r)
    (hout : r.outcome? = some outcome) :
    outcome = (t.pair base p options).map fun pair => (pair.community, pair.canonical) := by
  obtain ⟨⟨_, _, community⟩, ⟨_, _, canonical⟩⟩ := r
  cases community with
  | none => cases hout
  | some community =>
    cases canonical with
    | none => cases community <;> cases hout
    | some canonical =>
      have hcommunity := h.community.outcome community rfl
      have hcanonical := h.canonical.outcome canonical rfl
      rw [h.communitySource] at hcommunity
      rw [h.canonicalSource] at hcanonical
      rw [FileTree.pair_eq, ← hcommunity, ← hcanonical]
      cases community <;> cases canonical <;> cases hout <;> rfl

theorem isSome_outcome? (hcommunity : r.community.outcome.isSome) (hcanonical : r.canonical.outcome.isSome) :
    ∃ outcome, r.outcome? = some outcome := by
  obtain ⟨community, hcommunity⟩ := Option.isSome_iff_exists.1 hcommunity
  obtain ⟨canonical, hcanonical⟩ := Option.isSome_iff_exists.1 hcanonical
  rw [outcome?, hcommunity, hcanonical]
  cases community <;> cases canonical <;> exact ⟨_, rfl⟩

end PairReading

end NameBridge
