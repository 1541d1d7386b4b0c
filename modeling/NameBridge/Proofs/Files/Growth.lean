import NameBridge.Files.Tree
import NameBridge.Proofs.Basic
import NameBridge.Proofs.Text.Insertions

/-!
What changes of a file tree leave alone.

Making directories and seeing to it that a file is there only add to a tree (`Grows`), so every path that leads
somewhere goes on leading there. Writing a file changes what is at one place. A path that led to a file before leads to
the same bytes, unless that file is the one that was written (`lookup_of_written`); and the path that was written leads
to the text (`lookup_written`).
-/

namespace NameBridge.FileTree

variable {t t' t'' : FileTree} {place q : List String} {path : String} {node : FileNode} {bytes : List UInt8}

/-! ## Places -/

theorem node?_insert_self (h : t.node? place ≠ some .directory) (node : FileNode) :
    (t.insert place node).node? place = some node := by
  have hplace : ¬(holdsStart place ∨ place = ["/"]) := fun hstart => h (if_pos hstart)
  rw [node?, if_neg hplace, insert, List.lookup_cons_self]

theorem node?_insert_of_ne (h : q ≠ place) (node : FileNode) : (t.insert place node).node? q = t.node? q := by
  unfold node?
  split
  · rfl
  · rw [insert, List.lookup_cons, beq_eq_false_iff_ne.2 h]
    exact lookup_filter_ne t.nodes h

/-- Every directory is still one. -/
def KeepsDirectories (t t' : FileTree) : Prop :=
  ∀ place, t.node? place = some .directory → t'.node? place = some .directory

/-- A path leads through directories only, so it goes on leading where it did. -/
theorem KeepsDirectories.walk (h : KeepsDirectories t t') {parts : List String} (hwalk : t.walk place parts = .ok q) :
    t'.walk place parts = .ok q := by
  induction parts generalizing place with
  | nil => exact hwalk
  | cons part parts ih =>
    unfold FileTree.walk at hwalk ⊢
    split at hwalk
    · cases hwalk
    · cases hwalk
    · rename_i hnode
      rw [h place hnode]
      split at hwalk
      · cases hwalk
      · rw [if_neg ‹_›]
        exact ih hwalk

/-! ## Paths -/

theorem find_eq_ok_iff {parts : List String} :
    t.find parts = .ok (place, node) ↔ t.walk [] parts = .ok place ∧ t.node? place = some node := by
  constructor
  · intro h
    obtain ⟨found, hwalk, h⟩ := bind_eq_ok_iff.1 h
    split at h <;> cases h
    exact ⟨hwalk, ‹_›⟩
  · rintro ⟨hwalk, hnode⟩
    exact bind_eq_ok_iff.2 ⟨place, hwalk, by rw [hnode]; rfl⟩

/-- A path leads to what is at the place where it ends, but one that must name a directory leads to no file. -/
theorem lookup_eq_ok_iff : t.lookup path = .ok node ↔ checkPath path = .ok () ∧
    ∃ place, (t.walk [] (Path.parts path) = .ok place ∧ t.node? place = some node) ∧
      (node = .directory ∨ Path.namesDirectory path = false) := by
  constructor
  · intro h
    obtain ⟨⟨⟩, hcheck, h⟩ := bind_eq_ok_iff.1 h
    obtain ⟨⟨place, found⟩, hfind, h⟩ := bind_eq_ok_iff.1 h
    refine ⟨hcheck, place, ?_⟩
    rw [find_eq_ok_iff] at hfind
    cases found with
    | directory =>
      cases h
      exact ⟨hfind, .inl rfl⟩
    | file bytes =>
      dsimp only at h
      split at h
      · cases h
      · rename_i hkind
        cases h
        exact ⟨hfind, .inr (by simpa using hkind)⟩
  · rintro ⟨hcheck, place, hfind, hnode⟩
    refine bind_eq_ok_iff.2 ⟨(), hcheck, bind_eq_ok_iff.2 ⟨(place, node), find_eq_ok_iff.2 hfind, ?_⟩⟩
    cases node with
    | directory => rfl
    | file bytes =>
      rw [or_iff_right nofun] at hnode
      simp [hnode, pure, Except.pure]

/-! ## Trees that grow -/

/-- What was somewhere is there still. -/
def Grows (t t' : FileTree) : Prop := ∀ place node, t.node? place = some node → t'.node? place = some node

theorem Grows.refl (t : FileTree) : Grows t t := fun _ _ h => h

theorem Grows.trans (h : Grows t t') (h' : Grows t' t'') : Grows t t'' := fun place node hnode =>
  h' place node (h place node hnode)

theorem Grows.lookup (h : Grows t t') (hlookup : t.lookup path = .ok node) : t'.lookup path = .ok node := by
  rw [lookup_eq_ok_iff] at hlookup ⊢
  obtain ⟨hcheck, place, ⟨hwalk, hnode⟩, hkind⟩ := hlookup
  have hkeeps : KeepsDirectories t t' := fun place => h place .directory
  exact ⟨hcheck, place, ⟨hkeeps.walk hwalk, h place node hnode⟩, hkind⟩

theorem grows_insert (h : t.node? place = none) (node : FileNode) : Grows t (t.insert place node) := by
  intro q found hq
  have hne : q ≠ place := by
    rintro rfl
    rw [h] at hq
    cases hq
  rwa [node?_insert_of_ne hne]

theorem grows_makeDirectory (h : t.makeDirectory path = .ok t') : Grows t t' := by
  obtain ⟨⟨⟩, -, h⟩ := bind_eq_ok_iff.1 h
  obtain ⟨place, -, h⟩ := bind_eq_ok_iff.1 h
  split at h <;> cases h
  exact grows_insert ‹_› _

theorem grows_makeLineage (t : FileTree) (lineage : List String) : Grows t (t.makeLineage lineage).1 := by
  induction lineage generalizing t with
  | nil => exact .refl t
  | cons path above ih =>
    rw [makeLineage]
    dsimp only
    split
    · have hgrows := ih t
      split
      · rename_i heq
        rw [heq] at hgrows
        split
        · exact hgrows.trans (grows_makeDirectory ‹_›)
        · exact hgrows
      · exact hgrows
    · split
      · exact grows_makeDirectory ‹_›
      · exact .refl t

theorem grows_makeDirectories (t : FileTree) (path : String) : Grows t (t.makeDirectories path).1 :=
  t.grows_makeLineage _

/-! ## Writing -/

/-- A file can be written where a path ends that does not name a directory, unless a directory is there. -/
theorem writable_eq_ok (h : t.writable path = .ok place) :
    checkPath path = .ok () ∧ Path.namesDirectory path = false ∧ t.walk [] (Path.parts path) = .ok place ∧
      t.node? place ≠ some .directory := by
  obtain ⟨⟨⟩, hcheck, h⟩ := bind_eq_ok_iff.1 h
  split at h
  · cases h
  · split at h
    · cases h
    · obtain ⟨found, hwalk, h⟩ := bind_eq_ok_iff.1 h
      split at h
      · cases h
      · cases h
        exact ⟨hcheck, by simpa using ‹¬Path.namesDirectory path = true›, hwalk, ‹_›⟩

theorem grows_ensureFile (h : t.ensureFile path = .ok t') : Grows t t' := by
  obtain ⟨place, -, h⟩ := bind_eq_ok_iff.1 h
  split at h <;> cases h
  · exact .refl t
  · exact grows_insert ‹_› _

theorem keepsDirectories_insert (h : t.node? place ≠ some .directory) (node : FileNode) :
    KeepsDirectories t (t.insert place node) := by
  intro q hq
  have hne : q ≠ place := by
    rintro rfl
    exact h hq
  rwa [node?_insert_of_ne hne]

/-- The path that was written leads to the text. -/
theorem lookup_written {text : String} (h : t.writeText path text = .ok t') :
    t'.lookup path = .ok (.file (Text.encode text)) := by
  obtain ⟨place, hplace, h⟩ := bind_eq_ok_iff.1 h
  cases h
  obtain ⟨hcheck, hkind, hwalk, hnode⟩ := writable_eq_ok hplace
  exact lookup_eq_ok_iff.2 ⟨hcheck, place,
    ⟨(keepsDirectories_insert hnode _).walk hwalk, node?_insert_self hnode _⟩, .inr hkind⟩

/-- A path that led to a file leads to the same bytes, unless it leads to the file that was written. -/
theorem lookup_of_written {text other : String} (h : t.writeText path text = .ok t')
    (hother : t.lookup other = .ok (.file bytes)) :
    t'.lookup other = .ok (.file bytes) ∨ t'.lookup other = .ok (.file (Text.encode text)) := by
  obtain ⟨place, hplace, h⟩ := bind_eq_ok_iff.1 h
  cases h
  obtain ⟨-, -, -, hnode⟩ := writable_eq_ok hplace
  obtain ⟨hcheck, q, ⟨hwalk, hq⟩, hkind⟩ := lookup_eq_ok_iff.1 hother
  rw [or_iff_right nofun] at hkind
  have hwalk' := (keepsDirectories_insert hnode (.file (Text.encode text))).walk hwalk
  by_cases hne : q = place
  · subst hne
    exact .inr (lookup_eq_ok_iff.2 ⟨hcheck, q, ⟨hwalk', node?_insert_self hnode _⟩, .inr hkind⟩)
  · exact .inl (lookup_eq_ok_iff.2 ⟨hcheck, q, ⟨hwalk', by rwa [node?_insert_of_ne hne]⟩, .inr hkind⟩)

/-! ## Programs that write -/

theorem run_writeText (t : FileTree) (path text : String) :
    (FileAccess.writeText path text : StateM FileTree _) t =
      match t.writeText path text with
      | .ok t' => (.ok (), t')
      | .error cause => (.error cause, t) := by
  have hget : (get : StateM FileTree FileTree) t = (t, t) := rfl
  rw [FileAccess.writeText, instFileAccessStateM]
  dsimp only
  rw [bind_of_run hget]
  cases t.writeText path text <;> rfl

theorem writeText_of_run {text : String}
    (h : (FileAccess.writeText path text : StateM FileTree _) t = (.ok (), t')) : t.writeText path text = .ok t' := by
  rw [run_writeText] at h
  split at h <;> cases h
  assumption

theorem run_ensureFile (t : FileTree) (path : String) :
    (FileAccess.ensureFile path : StateM FileTree _) t =
      match t.ensureFile path with
      | .ok t' => (.ok (), t')
      | .error cause => (.error cause, t) := by
  have hget : (get : StateM FileTree FileTree) t = (t, t) := rfl
  rw [FileAccess.ensureFile, instFileAccessStateM]
  dsimp only
  rw [bind_of_run hget]
  cases t.ensureFile path <;> rfl

theorem grows_of_run_ensureFile {result : Except FileError Unit}
    (h : (FileAccess.ensureFile path : StateM FileTree _) t = (result, t')) : Grows t t' := by
  rw [run_ensureFile] at h
  split at h <;> cases h
  · exact grows_ensureFile ‹_›
  · exact .refl t

/-! ## Texts in files -/

/-- The path leads to a file with this text. -/
def Holds (t : FileTree) (path text : String) : Prop := t.lookup path = .ok (.file (Text.encode text))

/-- A text is read exactly from a file that holds it. -/
theorem openFile_text_eq_ok_iff {text : String} :
    t.openFile path >>= ByteSource.text = .ok text ↔ t.Holds path text := by
  constructor
  · intro h
    obtain ⟨source, hopen, htext⟩ := bind_eq_ok_iff.1 h
    obtain ⟨node, hlookup, hsource⟩ := bind_eq_ok_iff.1 hopen
    cases node with
    | directory =>
      cases hsource
      cases htext
    | file bytes =>
      cases hsource
      cases hdecode : Text.decode? bytes with
      | none =>
        simp only [ByteSource.text, hdecode] at htext
        cases htext
      | some decoded =>
        simp only [ByteSource.text, hdecode] at htext
        cases htext
        rw [Holds, hlookup, Text.encode_of_decode? hdecode]
  · intro h
    refine bind_eq_ok_iff.2 ⟨⟨Text.encode text, none⟩, bind_eq_ok_iff.2 ⟨_, h, rfl⟩, ?_⟩
    simp only [ByteSource.text, Text.decode?_encode]

/-- Reading a text leaves the tree alone. -/
theorem readText_eq (t : FileTree) (path : String) :
    (FileAccess.readText path : StateM FileTree (Except FileError String)) t =
      (t.openFile path >>= ByteSource.text, t) := by
  have hopen : (FileAccess.openFile path : StateM FileTree _) t = (t.openFile path, t) := rfl
  simp only [FileAccess.readText, bind, StateT.bind, hopen]
  cases t.openFile path <;> rfl

theorem pathExists_of_holds {text : String} (h : t.Holds path text) : t.pathExists path = true := by
  rw [pathExists, h]
  rfl

theorem Grows.holds {text : String} (h : Grows t t') (hholds : t.Holds path text) : t'.Holds path text :=
  h.lookup hholds

end NameBridge.FileTree
