import NameBridge.Proofs.Grammar.Policies
import NameBridge.Proofs.Text.Sources

/-!
A source that breaks off gives no table.

Whatever has been read before, either grammar asks the cursor at its end whether the source broke off
(`check_of_fault`). So there is a table only if every source that was read could be read to its end, and apart from
malformed records under the strict policy nothing else is in the way of one.
-/

namespace NameBridge

open Table (Builder)

variable {source : ByteSource}

/-- At its end a cursor over a source reports the failure that the source breaks off with. -/
theorem check_of_fault {cause : FileError} (h : source.fault? = some cause) :
    (LineCursor.ofSource source).atEnd.check = .error (.file cause) := by
  simp only [LineCursor.check, LineCursor.takeFault, LineCursor.fault_ofSource, h]

theorem check_of_no_fault (h : source.fault? = none) : (LineCursor.ofSource source).atEnd.check = .ok () := by
  simp only [LineCursor.check, LineCursor.takeFault, LineCursor.fault_ofSource, h]

namespace Flat

variable {classes : ByteSource} {members : Option ByteSource} {options : ReadOptions}

/-- The failure of the class list, or else that of the member list. -/
def firstFault? (classes : ByteSource) (members : Option ByteSource) : Option FileError :=
  classes.fault?.or (members.bind (·.fault?))

theorem firstFault?_eq_none_iff :
    firstFault? classes members = none ↔ classes.fault? = none ∧ ∀ m ∈ members, m.fault? = none := by
  rw [firstFault?, Option.or_eq_none_iff, Option.bind_eq_none_iff]
  rfl

/-- A class list that breaks off fails the table with its failure, before any member line is looked at. -/
theorem read_of_class_fault {cause : FileError} (h : classes.fault? = some cause) (members : Option LineCursor)
    (options : ReadOptions) : read (.ofSource classes) members options = .error (.file cause) := by
  cases members with
  | none =>
    rw [read_none, check_of_fault h]
    rfl
  | some m =>
    rw [read_some, check_of_fault h]
    rfl

/-- With a class list that can be read to its end, it is for the member lines and then the end of their source. -/
theorem read_of_class_end (h : classes.fault? = none) (m : ByteSource) (options : ReadOptions) :
    read (.ofSource classes) (some (.ofSource m)) options =
      (addMemberLines options (classBuilder (.ofSource classes)) (LineCursor.ofSource m).number m.lines).bind fun b =>
        (LineCursor.ofSource m).atEnd.check.map fun _ => b.build := by
  rw [read_some, check_of_no_fault h, LineCursor.lines_ofSource]
  rfl

/-- A table is only given once both lists have been read to their end. -/
theorem firstFault?_of_read_eq_ok {t : Table}
    (h : read (.ofSource classes) (members.map .ofSource) options = .ok t) : firstFault? classes members = none := by
  rw [firstFault?_eq_none_iff]
  cases hclasses : classes.fault? with
  | some cause =>
    rw [read_of_class_fault hclasses] at h
    cases h
  | none =>
    refine ⟨rfl, ?_⟩
    rintro m rfl
    rw [Option.map_some, read_of_class_end hclasses] at h
    cases hmember : m.fault? with
    | none => rfl
    | some cause =>
      -- whatever the member lines gave is dropped
      rw [check_of_fault hmember] at h
      cases hlines :
          addMemberLines options (classBuilder (.ofSource classes)) (LineCursor.ofSource m).number m.lines with
      | error e =>
        rw [hlines] at h
        cases h
      | ok b =>
        rw [hlines] at h
        cases h

/-- Malformed records left out, the first failure is the outcome, and without one there is a table. -/
theorem read_lenient (classes : ByteSource) (members : Option ByteSource) :
    (∀ cause, firstFault? classes members = some cause →
      read (.ofSource classes) (members.map .ofSource) .lenient = .error (.file cause)) ∧
    (firstFault? classes members = none →
      ∃ t, read (.ofSource classes) (members.map .ofSource) .lenient = .ok t) := by
  unfold firstFault?
  cases hclasses : classes.fault? with
  | some first =>
    simp only [Option.some_or, Option.some.injEq, reduceCtorEq, false_imp_iff, and_true]
    rintro cause rfl
    exact read_of_class_fault hclasses _ _
  | none =>
    rw [Option.none_or]
    cases members with
    | none =>
      simp only [Option.bind_none, Option.map_none, reduceCtorEq, false_imp_iff, implies_true, true_and, forall_const]
      rw [read_none, check_of_no_fault hclasses]
      exact ⟨_, rfl⟩
    | some m =>
      obtain ⟨b, hlines, -⟩ := addMemberLines_lenient (made_classBuilder (.ofSource classes))
        (LineCursor.ofSource m).number m.lines
      rw [Option.map_some, Option.bind_some, read_of_class_end hclasses, hlines]
      constructor
      · intro cause hcause
        rw [check_of_fault hcause]
        rfl
      · intro hnone
        rw [check_of_no_fault hnone]
        exact ⟨_, rfl⟩

end Flat

namespace Retrace

/-- The failure of the source is the outcome, and without one there is a table. -/
theorem read_ofSource (source : ByteSource) (options : ReadOptions) :
    (∀ cause, source.fault? = some cause → read (.ofSource source) options = .error (.file cause)) ∧
    (source.fault? = none → ∃ t, read (.ofSource source) options = .ok t) := by
  unfold read
  rw [readBlocks_eq]
  dsimp only
  refine ⟨fun cause hcause => ?_, fun hnone => ?_⟩
  · rw [check_of_fault hcause]
    rfl
  · rw [check_of_no_fault hnone]
    exact ⟨_, rfl⟩

end Retrace

/-- Where a source breaks off, in a read failure or at a line that is no text, there is no table in either grammar and
under either policy. Unless malformed records fail the file, the error is that failure, that of the class list before
that of the member list, and sources that do not break off give a table. -/
theorem no_table_of_truncated_source :
    (∀ (classes : ByteSource) (members : Option ByteSource),
      (classes.Truncated ∨ (∃ m ∈ members, m.Truncated) →
        (∀ options, ∃ e, Flat.read (.ofSource classes) (members.map .ofSource) options = .error e) ∧
        ∃ cause, classes.fault?.or (members.bind (·.fault?)) = some cause ∧
          Flat.read (.ofSource classes) (members.map .ofSource) .lenient = .error (.file cause)) ∧
      (¬classes.Truncated → (∀ m ∈ members, ¬m.Truncated) →
        ∃ t, Flat.read (.ofSource classes) (members.map .ofSource) .lenient = .ok t)) ∧
    ∀ (source : ByteSource) (options : ReadOptions),
      (source.Truncated →
        ∃ cause, source.fault? = some cause ∧ Retrace.read (.ofSource source) options = .error (.file cause)) ∧
      (¬source.Truncated → ∃ t, Retrace.read (.ofSource source) options = .ok t) := by
  refine ⟨fun classes members => ⟨fun htruncated => ?_, fun hclasses hmembers => ?_⟩,
    fun source options => ⟨fun htruncated => ?_, fun hwhole => ?_⟩⟩
  · have hfault : Flat.firstFault? classes members ≠ none := by
      rw [ne_eq, Flat.firstFault?_eq_none_iff]
      rintro ⟨hclasses, hmembers⟩
      rcases htruncated with h | ⟨m, hm, h⟩
      · exact ByteSource.not_truncated_iff.2 hclasses h
      · exact ByteSource.not_truncated_iff.2 (hmembers m hm) h
    constructor
    · intro options
      cases hread : Flat.read (.ofSource classes) (members.map .ofSource) options with
      | error e => exact ⟨e, rfl⟩
      | ok t => exact absurd (Flat.firstFault?_of_read_eq_ok hread) hfault
    · obtain ⟨cause, hcause⟩ := Option.ne_none_iff_exists'.1 hfault
      exact ⟨cause, hcause, (Flat.read_lenient classes members).1 cause hcause⟩
  · refine (Flat.read_lenient classes members).2 (Flat.firstFault?_eq_none_iff.2 ⟨?_, fun m hm => ?_⟩)
    · exact ByteSource.not_truncated_iff.1 hclasses
    · exact ByteSource.not_truncated_iff.1 (hmembers m hm)
  · obtain ⟨cause, hcause⟩ := ByteSource.truncated_iff.1 htruncated
    exact ⟨cause, hcause, (Retrace.read_ofSource source options).1 cause hcause⟩
  · exact (Retrace.read_ofSource source options).2 (ByteSource.not_truncated_iff.1 hwhole)

/-- A class list of one line. -/
def oneClass : ByteSource := .ofString "a net/Block\n"

/-- The same with a second line of one byte that no character starts with. -/
def spoiledClasses : ByteSource where
  bytes := Text.encode "a net/Block\n" ++ 0xFF :: lineFeed :: Text.encode "b net/Item\n"

/-- A block whose first member is cut off. -/
def brokenBlock : ByteSource where
  bytes := Text.encode "net.Block -> a:\n    int count -> "
  failure := some (.other "connection reset")

/-- A line that is no text fails either list, and a block that is cut off fails its file, before or after what else is
wrong. -/
theorem no_table_of_spoiled_classes :
    Flat.read (.ofSource spoiledClasses) (some (.ofSource brokenBlock)) .lenient = .error (.file .invalidText) ∧
    (∃ e, Flat.read (.ofSource oneClass) (some (.ofSource spoiledClasses)) .strict = .error e) ∧
    (∃ t, Flat.read (.ofSource oneClass) none .lenient = .ok t) ∧
    Retrace.read (.ofSource brokenBlock) .strict = .error (.file (.other "connection reset")) ∧
    ∃ t, Retrace.read (.ofSource oneClass) .strict = .ok t := by
  have hspoiled : spoiledClasses.fault? = some .invalidText := by decide +kernel
  have hbroken : brokenBlock.fault? = some (.other "connection reset") := by decide +kernel
  have hwhole : ¬oneClass.Truncated := ByteSource.not_truncated_iff.2 (by decide +kernel)
  have htruncated : spoiledClasses.Truncated := ByteSource.truncated_iff.2 ⟨_, hspoiled⟩
  obtain ⟨hflat, hretrace⟩ := no_table_of_truncated_source
  obtain ⟨-, cause, hcause, hread⟩ := (hflat spoiledClasses (some brokenBlock)).1 (.inl htruncated)
  obtain ⟨hmembers, -⟩ := (hflat oneClass (some spoiledClasses)).1 (.inr ⟨_, rfl, htruncated⟩)
  obtain ⟨cause', hcause', hblock⟩ := (hretrace brokenBlock .strict).1 (ByteSource.truncated_iff.2 ⟨_, hbroken⟩)
  rw [hspoiled, Option.some_or, Option.some.injEq] at hcause
  rw [hbroken, Option.some.injEq] at hcause'
  subst hcause hcause'
  exact ⟨hread, hmembers .strict, (hflat oneClass none).2 hwhole (fun _ h => by cases h), hblock,
    (hretrace oneClass .strict).2 hwhole⟩

end NameBridge
