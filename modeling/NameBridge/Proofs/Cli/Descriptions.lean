import NameBridge.Proofs.Cli.StoredPairs
import NameBridge.Proofs.Grammar.ClassLines
import NameBridge.Proofs.Resolve.Descriptions
import NameBridge.Proofs.Resolve.TypeArguments

/-!
What `describe` prints for a class.

The tables that a command loads are built by the parsers (`built_of_loadChosen`), and of a class it prints what the
description lists. So it prints that nothing is known exactly if no class is found by the name, which leaves out the
declared names of the canonical side (`describe_of_found_names`).
-/

namespace NameBridge

/-! ## Loaded tables -/

theorem MappingSource.built_of_read {source : MappingSource} {files : List LineCursor} {options : ReadOptions}
    {t : Table} (h : source.read files options = .ok t) : t.Built := by
  unfold MappingSource.read at h
  split at h
  · exact Flat.built_of_flat_read h
  · exact Retrace.built_of_retrace_read h

namespace FileTree

variable {t : FileTree} {base : Option String} {options : ReadOptions}

theorem built_of_table {source : MappingSource} {table : Table} (h : t.table base source options = .ok table) :
    table.Built := by
  unfold FileTree.table at h
  rcases t.opens_or_error base source.locations with ⟨files, hopens⟩ | ⟨_, _, _, _, _, hlocations, hopens, herror⟩
  · rw [table_of_opens hopens] at h
    exact MappingSource.built_of_read h
  · rw [table_of_error hlocations hopens herror] at h
    cases h

/-- A pair that is loaded has the tables of its two sources. -/
theorem tables_of_pair {p : Profile} {loaded : MappingPair} (h : t.pair base p options = .ok loaded) :
    t.table base p.community options = .ok loaded.community ∧
      t.table base p.canonical options = .ok loaded.canonical := by
  rw [pair_eq] at h
  split at h
  · cases h
  · split at h
    · cases h
    · cases h
      exact ⟨‹_›, ‹_›⟩

/-- A class list without members is read from the text of its file. -/
theorem table_of_holds {location text : String} (h : t.Holds (Path.ofLocation base location) text) :
    t.table base ⟨.flat, location, none⟩ options = Flat.read (.ofString text) none options := by
  have hopen : t.openFile (Path.ofLocation base location) = .ok (.ofString text) := by
    rw [FileTree.openFile, h]
    rfl
  have hall : openAll (m := StateM FileTree) base [location] t = (.ok [.ofString text], t) := by
    rw [openAll_cons, hopen]
    rfl
  have hload : loadTable (m := StateM FileTree) base ⟨.flat, location, none⟩ options t =
      (Flat.read (.ofString text) none options, t) := bind_of_run hall _
  rw [FileTree.table, hload]

end FileTree

namespace Cli

open Resolver (oneClassTable built_oneClassTable mem_oneClassTable)

variable {env : Environment} {presets : Option String} {t t' : FileTree}

theorem chosenProfile_eq_ok {choice : PairChoice} {p : Profile}
    (h : (chosenProfile env presets choice : Action (StateM FileTree) _).run t = (.ok p, t')) :
    t' = t ∧ ChosenIn t env presets choice p := by
  have htree : t' = t := by
    cases choice with
    | files community canonical => exact (Prod.mk.inj h).2.symm
    | stored id =>
      obtain ⟨store, t₁, hstore, hget⟩ := run_bind_eq_ok h
      obtain ⟨rfl, -⟩ := storedProfiles_eq_ok hstore
      split at hget
      · exact (Prod.mk.inj hget).2.symm
      · cases hget
  subst htree
  exact ⟨rfl, h⟩

/-- Loading leaves the files alone, and gives the tables of the chosen profile. -/
theorem loadChosen_eq_ok {pair : PairArguments} {loaded : MappingPair}
    (h : (loadChosen env presets pair : Action (StateM FileTree) _).run t = (.ok loaded, t')) :
    t' = t ∧ ∃ p, ChosenIn t env presets pair.choice p ∧ t.pair none p (.ofStrict pair.isStrict) = .ok loaded := by
  obtain ⟨p, t₁, hchosen, hload⟩ := run_bind_eq_ok h
  obtain ⟨rfl, hchosen⟩ := chosenProfile_eq_ok hchosen
  have hpair := run_attempt_eq_ok hload
  rw [FileTree.loadPair_eq, Prod.mk.injEq] at hpair
  exact ⟨hpair.2.symm, p, hchosen, hpair.1⟩

theorem built_of_loadChosen {pair : PairArguments} {loaded : MappingPair}
    (h : (loadChosen env presets pair : Action (StateM FileTree) _).run t = (.ok loaded, t')) :
    loaded.community.Built ∧ loaded.canonical.Built := by
  obtain ⟨-, p, -, hpair⟩ := loadChosen_eq_ok h
  obtain ⟨hcommunity, hcanonical⟩ := FileTree.tables_of_pair hpair
  exact ⟨FileTree.built_of_table hcommunity, FileTree.built_of_table hcanonical⟩

/-! ## Output -/

theorem describeOutput_of_ne_nil {symbol : String} {names : List String} (h : names ≠ []) :
    describeOutput symbol names = printLines [String.intercalate ", " names] := by
  cases names with
  | nil => exact absurd rfl h
  | cons name names => rfl

variable {args : List String} {name text : String} {pair : PairArguments}

/-- The log file is opened, the tables are loaded, and the description of the class is printed. -/
theorem printed_of_describe (hparse : parse args = .ok ⟨presets, .describe name none pair⟩)
    (hrun : (run env args : StateM FileTree _) t = (.printed text, t')) :
    t.Grows t' ∧ ∃ loaded : MappingPair,
      (loadChosen env presets pair : Action (StateM FileTree) _).run t' = (.ok loaded, t') ∧
      text = describeOutput name (describeClass loaded.community loaded.canonical name) := by
  rcases hlog : (openLog env : StateM FileTree _) t with ⟨cause | ⟨⟩, t₁⟩
  · rw [run_of_openLog_eq_error hparse hlog] at hrun
    cases hrun
  · rw [run_of_openLog_eq_ok hparse hlog] at hrun
    split at hrun
    · rename_i printed t₂ hcommand
      cases hrun
      obtain ⟨loaded, t₃, hload, hprint⟩ := run_bind_eq_ok hcommand
      obtain ⟨rfl, -⟩ := loadChosen_eq_ok hload
      cases hprint
      exact ⟨grows_openLog hlog, loaded, hload, rfl⟩
    · cases hrun

/-- A description is empty exactly if no class is found by the name, and then the command prints that nothing is known.
If one is found it prints the names by which the class is shown. -/
theorem describe_of_found_names (name : String) :
    (∀ community canonical : Table, community.Built → canonical.Built →
      (describeClass (some community) (some canonical) name = [] ↔ ¬FoundByName community canonical name)) ∧
    ∀ (env : Environment) (presets : Option String) (t t' : FileTree) (args : List String) (text : String)
      (pair : PairArguments), parse args = .ok ⟨presets, .describe name none pair⟩ →
      (run env args : StateM FileTree _) t = (.printed text, t') →
      t.Grows t' ∧ ∃ loaded : MappingPair,
        (loadChosen env presets pair : Action (StateM FileTree) _).run t' = (.ok loaded, t') ∧
        (FoundByName loaded.community loaded.canonical name → ∃ names ≠ [],
          (∀ x, x ∈ names ↔ ShownFor loaded.community loaded.canonical name x) ∧
            text = printLines [String.intercalate ", " names]) ∧
        (¬FoundByName loaded.community loaded.canonical name →
          text = printLines ["No mapping known for '" ++ name ++ "'"]) := by
  refine ⟨fun _ _ hcommunity hcanonical => describeClass_eq_nil_iff hcommunity hcanonical, ?_⟩
  intro env presets t t' args text pair hparse hrun
  obtain ⟨hgrows, loaded, hload, htext⟩ := printed_of_describe hparse hrun
  obtain ⟨hcommunity, hcanonical⟩ := built_of_loadChosen hload
  have hempty : describeClass loaded.community loaded.canonical name = [] ↔ _ :=
    describeClass_eq_nil_iff hcommunity hcanonical
  refine ⟨hgrows, loaded, hload, fun hfound => ?_, fun hmissed => ?_⟩
  · have hne : describeClass loaded.community loaded.canonical name ≠ [] := fun hnil => hempty.1 hnil hfound
    exact ⟨_, hne, fun x => mem_describeClass_iff hcommunity hcanonical, htext.trans (describeOutput_of_ne_nil hne)⟩
  · rw [htext, hempty.2 hmissed]
    rfl

def describeFoo : List String := ["describe", "--community", "c", "net.Foo", "--canonical", "k"]

theorem run_describeFoo :
    ∃ text t', (run pairEnvironment describeFoo : StateM FileTree _) pairFiles = (.printed text, t') := by
  -- only what kind of outcome it is can be computed, as names are looked up by their hashes
  have hprinted : (match ((run pairEnvironment describeFoo : StateM FileTree _) pairFiles).1 with
      | .printed _ => true
      | _ => false) = true := by decide +kernel
  rcases hrun : (run pairEnvironment describeFoo : StateM FileTree _) pairFiles with ⟨outcome, t'⟩
  rw [hrun] at hprinted
  cases outcome with
  | printed text => exact ⟨text, t', rfl⟩
  | failed => cases hprinted
  | aborted => cases hprinted
  | stopped => cases hprinted

/-- A class is found by its declared name, in a table that was built and in a community file. -/
theorem describe_of_class_and_file :
    describeClass (some (oneClassTable "net.Block")) (some (oneClassTable "org.Stone")) "net.Block" ≠ [] ∧
    ∃ text names t', (run pairEnvironment describeFoo : StateM FileTree _) pairFiles = (.printed text, t') ∧
      names ≠ [] ∧ text = printLines [String.intercalate ", " names] := by
  constructor
  · have hfound : FoundByName (oneClassTable "net.Block") (oneClassTable "org.Stone") "net.Block" :=
      .inl ⟨_, mem_oneClassTable.2 rfl, .inl (ClassEntry.declared_ofMembers ..)⟩
    exact fun hnil =>
      ((describe_of_found_names _).1 _ _ (built_oneClassTable _) (built_oneClassTable _)).1 hnil hfound
  · have hparse : parse describeFoo = .ok ⟨none, .describe "net.Foo" none
        ⟨.files ⟨.flat, "c", none⟩ ⟨.retrace, "k", none⟩, false⟩⟩ := by decide +kernel
    obtain ⟨text, t', hrun⟩ := run_describeFoo
    obtain ⟨hgrows, loaded, hload, hfound, -⟩ := (describe_of_found_names _).2 _ _ _ _ _ _ _ hparse hrun
    obtain ⟨-, p, hchosen, hpair⟩ := loadChosen_eq_ok hload
    have hsource : p.community = ⟨.flat, "c", none⟩ := by
      cases hchosen
      rfl
    have hholds : pairFiles.Holds (Path.ofLocation none "c") "a net/Foo\n" := by
      rw [FileTree.Holds]
      decide +kernel
    have hlines : textLines "a net/Foo\n" = ["a net/Foo"] := by decide +kernel
    have hread := (FileTree.tables_of_pair hpair).1
    rw [hsource, FileTree.table_of_holds (hgrows.holds hholds), (Flat.read_ofString _ "" _).1] at hread
    have hmem : .ofNames "net.Foo" "a" ∈ loaded.community.classes :=
      Except.ok.inj hread ▸ Flat.mem_classes_of_only_line hlines (by decide +kernel)
    obtain ⟨names, hnames, -, htext⟩ := hfound (.inl ⟨_, hmem, .inl rfl⟩)
    exact ⟨text, names, t', hrun, hnames, htext⟩

/-- The declared name of a class of the canonical table alone is not found. -/
theorem describeClass_of_canonical_name :
    (∃ k ∈ (oneClassTable "org.Stone").classes, k.declared = "org.Stone") ∧
      describeClass (some (oneClassTable "net.Block")) (some (oneClassTable "org.Stone")) "org.Stone" = [] := by
  refine ⟨⟨_, mem_oneClassTable.2 rfl, ClassEntry.declared_ofMembers ..⟩, ?_⟩
  rw [describeClass_eq_nil_iff (built_oneClassTable _) (built_oneClassTable _)]
  rintro (⟨c, hc, hname | hname⟩ | ⟨k, hk, hname⟩)
  · rw [mem_oneClassTable.1 hc, ClassEntry.declared_ofMembers] at hname
    exact absurd hname (by decide)
  · rw [mem_oneClassTable.1 hc, ClassEntry.obfuscated_ofMembers] at hname
    exact absurd hname (by decide)
  · rw [mem_oneClassTable.1 hk, ClassEntry.obfuscated_ofMembers] at hname
    exact absurd hname (by decide)

end Cli

end NameBridge
