import NameBridge.Proofs.Grammar.Comments
import NameBridge.Proofs.Text.Words
import NameBridge.Proofs.TypeName.SourceForms

/-!
Class lines by their words.

A line of the class list is cut at its first space, and it names a class if there are words on both sides
(`exists_isClassLine`). With two words these are the names. With more the line is `Overfull`: it names a class all the
same, and what stands on one side is taken for a name with the blanks in it. Every other line that says something is
left out and counted, and nothing else comes of it, wherever it stands (`read_after_misshapen`). So a class has a blank
in its names exactly if it comes from an overfull line (`names_of_two_word_lines`).
-/

namespace NameBridge

open Text
open NameBridge.TypeName (dotted ofSignature toList_dotted not_mem_dotted)
open Table (Builder)

/-! ## Lines of which only a count is left -/

def Stats.ignoreLines (s : Stats) (n : Nat) : Stats := { s with ignoredLines := s.ignoredLines + n }

theorem Stats.ignoreLines_ignoreLine (s : Stats) (n : Nat) : (s.ignoreLines n).ignoreLine = s.ignoreLine.ignoreLines n := by
  simp only [ignoreLines, ignoreLine, Nat.add_right_comm]

/-- The table, with this many more lines counted as ignored. -/
def Table.ignoring (t : Table) (n : Nat) : Table := { t with stats := t.stats.ignoreLines n }

namespace Table.Builder

/-- The builder, with this many more lines counted as ignored. -/
def ignoring (b : Builder) (n : Nat) : Builder := b.modifyStats (·.ignoreLines n)

theorem withDeclared?_ignoring (b : Builder) (n : Nat) (name : String) :
    (b.ignoring n).withDeclared? name = b.withDeclared? name := rfl

theorem ignoreLine_ignoring (b : Builder) (n : Nat) :
    (b.ignoring n).modifyStats (·.ignoreLine) = (b.modifyStats (·.ignoreLine)).ignoring n := by
  simp only [ignoring, modifyStats, Stats.ignoreLines_ignoreLine]

theorem ignoring_ignoring (b : Builder) (m n : Nat) : (b.ignoring m).ignoring n = b.ignoring (m + n) := by
  simp only [ignoring, modifyStats, Stats.ignoreLines, Nat.add_assoc]

theorem modifyDeclared_ignoring (b : Builder) (n : Nat) (name : String) (change : ClassEntry → ClassEntry) :
    (b.ignoring n).modifyDeclared name change = (b.modifyDeclared name change).ignoring n := by
  have hindex : (b.ignoring n).byDeclared = b.byDeclared := rfl
  unfold modifyDeclared
  rw [hindex]
  cases b.byDeclared[name]? <;> rfl

end Table.Builder

namespace Flat

/-- Lines that were counted before have no part in what a class line does. -/
theorem addClassLine_ignoring (b : Builder) (n : Nat) (line : String) :
    addClassLine (b.ignoring n) line = (addClassLine b line).ignoring n := by
  unfold addClassLine
  split
  · rfl
  · split
    · exact Builder.insertClass_modifyStats b _ _
    · exact Builder.ignoreLine_ignoring b n

theorem foldl_addClassLine_ignoring (lines : List String) (b : Builder) (n : Nat) :
    lines.foldl addClassLine (b.ignoring n) = (lines.foldl addClassLine b).ignoring n := by
  induction lines generalizing b with
  | nil => rfl
  | cons line lines ih => rw [List.foldl_cons, List.foldl_cons, addClassLine_ignoring, ih]

theorem addMember_ignoring (b : Builder) (n : Nat) (owner : String) (change : ClassEntry → ClassEntry) :
    addMember (b.ignoring n) owner change = (addMember b owner change).ignoring n := by
  unfold addMember
  rw [Builder.withDeclared?_ignoring, Builder.modifyDeclared_ignoring, apply_ite (Builder.ignoring · n)]
  rfl

theorem addMemberLine_ignoring (options : ReadOptions) (b : Builder) (n number : Nat) (line : String) :
    addMemberLine options (b.ignoring n) number line = (addMemberLine options b number line).map (·.ignoring n) := by
  unfold addMemberLine
  split
  · rfl
  · cases MemberLine.ofLine line with
    | blank => rfl
    | unknown => exact congrArg Except.ok (Builder.ignoreLine_ignoring b n)
    | field owner obfuscated declared => exact congrArg Except.ok (addMember_ignoring b n owner _)
    | method owner obfuscated signature declared =>
      dsimp only
      rw [Builder.withDeclared?_ignoring]
      split
      · rfl
      · cases ofSignature signature with
        | ok types => exact congrArg Except.ok (addMember_ignoring b n owner _)
        | error cause => cases options.onMalformed <;> rfl

theorem addMemberLines_ignoring (options : ReadOptions) (b : Builder) (n number : Nat) (lines : List String) :
    addMemberLines options (b.ignoring n) number lines = (addMemberLines options b number lines).map (·.ignoring n) := by
  induction lines generalizing b number with
  | nil => rfl
  | cons line lines ih =>
    rw [addMemberLines, addMemberLines, addMemberLine_ignoring]
    cases addMemberLine options b (number + 1) line with
    | error e => rfl
    | ok b' => exact ih b' (number + 1)

/-! ## Words and the first space -/

def wordCount (line : String) : Nat := (words line.toList).length

/-- There are words before the first space, and after it. -/
def Divided (cs : List Char) : Prop :=
  ∃ before after, cs = before ++ ' ' :: after ∧ ' ' ∉ before ∧ words before ≠ [] ∧ words after ≠ []

/-- There are more than two words in the line, some of them before its first space and some after it. -/
structure Overfull (line : String) : Prop where
  divided : Divided line.toList
  two_lt : 2 < wordCount line

/-- The line says something, though not in two words, and is not cut in two names either. -/
structure Misshapen (line : String) : Prop where
  content : isContent line = true
  words_ne : wordCount line ≠ 2
  not_overfull : ¬Overfull line

theorem words_eq_append {cs before after : List Char} (h : cs = before ++ ' ' :: after) :
    words cs = words before ++ words after := by
  rw [h, words_append_blank (by decide)]

theorem Divided.two_le {cs : List Char} (h : Divided cs) : 2 ≤ (words cs).length := by
  obtain ⟨before, after, hsplit, -, hbefore, hafter⟩ := h
  rw [words_eq_append hsplit, List.length_append]
  have hfirst := List.length_pos_iff.2 hbefore
  have hlast := List.length_pos_iff.2 hafter
  omega

/-- The two parts are what stands before and after the first space. -/
theorem divided_iff {cs : List Char} :
    Divided cs ↔ words (cs.takeWhile (· != ' ')) ≠ [] ∧ words (cs.dropWhile (· != ' ')).tail ≠ [] := by
  constructor
  · rintro ⟨before, after, rfl, hbefore, hwords⟩
    rwa [takeWhile_before hbefore, dropWhile_before hbefore, List.tail_cons]
  · rintro ⟨hfirst, hlast⟩
    have hspace : ' ' ∈ cs := by
      by_contra hspace
      have hdrop : cs.dropWhile (· != ' ') = [] := by
        rw [List.dropWhile_eq_nil_iff]
        intro c hc
        rw [bne_iff_ne]
        rintro rfl
        exact hspace hc
      rw [hdrop, List.tail_nil, words_nil] at hlast
      exact hlast rfl
    obtain ⟨before, after, rfl, hbefore⟩ := List.eq_append_cons_of_mem hspace
    rw [takeWhile_before hbefore] at hfirst
    rw [dropWhile_before hbefore, List.tail_cons] at hlast
    exact ⟨before, after, rfl, hbefore, hfirst, hlast⟩

instance (cs : List Char) : Decidable (Divided cs) := decidable_of_iff _ divided_iff.symm

theorem overfull_iff {line : String} : Overfull line ↔ Divided line.toList ∧ 2 < wordCount line :=
  ⟨fun h => ⟨h.divided, h.two_lt⟩, fun h => ⟨h.1, h.2⟩⟩

instance (line : String) : Decidable (Overfull line) := decidable_of_iff _ overfull_iff.symm

theorem misshapen_iff {line : String} :
    Misshapen line ↔ isContent line = true ∧ wordCount line ≠ 2 ∧ ¬Overfull line :=
  ⟨fun h => ⟨h.content, h.words_ne, h.not_overfull⟩, fun h => ⟨h.1, h.2.1, h.2.2⟩⟩

instance (line : String) : Decidable (Misshapen line) := decidable_of_iff _ misshapen_iff.symm

theorem Misshapen.not_divided {line : String} (h : Misshapen line) : ¬Divided line.toList := by
  intro hdivided
  have htwo : 2 < wordCount line := Nat.lt_of_le_of_ne hdivided.two_le (Ne.symm h.words_ne)
  exact h.not_overfull ⟨hdivided, htwo⟩

/-! ## Slashes -/

/-- Dots for slashes make no words and no spaces. -/
theorem isBlank_dot (c : Char) : isBlank (if c = '/' then '.' else c) = isBlank c := by
  split
  · rename_i h
    subst h
    decide
  · rfl

theorem dot_eq_space_iff {c : Char} : (if c = '/' then '.' else c) = ' ' ↔ c = ' ' := by
  split
  · rename_i h
    subst h
    decide
  · rfl

theorem length_words_dotted (line : String) : (words (dotted line).toList).length = wordCount line := by
  rw [toList_dotted, words_map isBlank_dot, List.length_map, wordCount]

theorem divided_dotted_iff {line : String} : Divided (dotted line).toList ↔ Divided line.toList := by
  have hspace {before : List Char} :
      ' ' ∉ before.map (fun c => if c = '/' then '.' else c) ↔ ' ' ∉ before := by
    simp only [List.mem_map, dot_eq_space_iff, exists_eq_right]
  have hwords {cs : List Char} : words (cs.map fun c => if c = '/' then '.' else c) ≠ [] ↔ words cs ≠ [] := by
    rw [words_map isBlank_dot, ne_eq, List.map_eq_nil_iff]
  rw [toList_dotted]
  constructor
  · rintro ⟨_, _, hsplit, hbefore, hfirst, hlast⟩
    obtain ⟨before, tail, hline, rfl, htail⟩ := List.map_eq_append_iff.1 hsplit
    obtain ⟨c, after, rfl, hc, rfl⟩ := List.map_eq_cons_iff.1 htail
    rw [dot_eq_space_iff.1 hc] at hline
    exact ⟨before, after, hline, hspace.1 hbefore, hwords.1 hfirst, hwords.1 hlast⟩
  · rintro ⟨before, after, hline, hbefore, hfirst, hlast⟩
    refine ⟨_, _, ?_, hspace.2 hbefore, hwords.2 hfirst, hwords.2 hlast⟩
    rw [hline, List.map_append, List.map_cons, if_neg (by decide)]

/-! ## What a line names -/

/-- Some text without slashes. -/
structure IsDottedName (name : String) : Prop where
  ne_empty : name ≠ ""
  no_slash : '/' ∉ name.toList

theorem ofList_trim_ne_empty_iff {cs : List Char} : String.ofList (trim cs) ≠ "" ↔ words cs ≠ [] := by
  rw [ne_eq, ← String.toList_eq_nil_iff, String.toList_ofList, trim_eq_nil_iff, ne_eq, words_eq_nil_iff]

variable {line obfuscated declared : String}

theorem of_isContent (h : isContent line = true) : isComment line = false ∧ isBlankLine line = false := by
  rwa [isContent, Bool.and_eq_true, Bool.not_eq_true', Bool.not_eq_true'] at h

theorem IsClassLine.content (h : IsClassLine line obfuscated declared) : isContent line = true :=
  isContent_of_not h.not_comment h.not_blank

theorem IsClassLine.divided (h : IsClassLine line obfuscated declared) : Divided line.toList := by
  obtain ⟨-, -, ⟨before, after, hsplit, hbefore, rfl, rfl⟩, hfirst, hlast⟩ := h
  rw [ofList_trim_ne_empty_iff] at hfirst hlast
  exact divided_dotted_iff.1 ⟨before, after, hsplit, hbefore, hfirst, hlast⟩

theorem exists_isClassLine (hcontent : isContent line = true) (h : Divided line.toList) :
    ∃ obfuscated declared, IsClassLine line obfuscated declared := by
  obtain ⟨before, after, hsplit, hbefore, hfirst, hlast⟩ := divided_dotted_iff.2 h
  rw [← ofList_trim_ne_empty_iff] at hfirst hlast
  obtain ⟨hcomment, hblank⟩ := of_isContent hcontent
  exact ⟨_, _, hcomment, hblank, ⟨before, after, hsplit, hbefore, rfl, rfl⟩, hfirst, hlast⟩

theorem IsClassLine.isDottedName (h : IsClassLine line obfuscated declared) :
    IsDottedName obfuscated ∧ IsDottedName declared := by
  obtain ⟨-, -, ⟨before, after, hsplit, -, rfl, rfl⟩, hfirst, hlast⟩ := h
  have hslash {cs : List Char} (hsub : ∀ c ∈ cs, c ∈ (dotted line).toList) : '/' ∉ (String.ofList (trim cs)).toList := by
    rw [String.toList_ofList]
    exact fun hmem => not_mem_dotted line (hsub _ (mem_of_mem_trim hmem))
  constructor
  · exact ⟨hfirst, hslash fun c hc => by rw [hsplit]; exact List.mem_append_left _ hc⟩
  · exact ⟨hlast, hslash fun c hc => by rw [hsplit]; exact List.mem_append_right _ (List.mem_cons_of_mem _ hc)⟩

/-- The names hold no blank exactly if they are all the words of the line. -/
theorem IsClassLine.unbroken_iff (h : IsClassLine line obfuscated declared) :
    Unbroken obfuscated.toList ∧ Unbroken declared.toList ↔ ¬Overfull line := by
  have hdivided := h.divided
  obtain ⟨-, -, ⟨before, after, hsplit, -, rfl, rfl⟩, hfirst, hlast⟩ := h
  rw [ofList_trim_ne_empty_iff, ← List.length_pos_iff] at hfirst hlast
  have hcount : wordCount line = (words before).length + (words after).length := by
    rw [← length_words_dotted, words_eq_append hsplit, List.length_append]
  rw [String.toList_ofList, String.toList_ofList, unbroken_trim_iff, unbroken_trim_iff]
  constructor
  · rintro ⟨hone, hone'⟩ hoverfull
    have htwo := hoverfull.two_lt
    omega
  · intro hnot
    have htwo : ¬2 < wordCount line := fun htwo => hnot ⟨hdivided, htwo⟩
    omega

theorem classOf?_of_content (h : isContent line = true) :
    classOf? line = (classNames? line).map fun (obfuscated, declared) => .ofNames declared obfuscated := by
  obtain ⟨hcomment, hblank⟩ := of_isContent h
  rw [classOf?, hcomment, hblank, if_neg (by decide)]

theorem isClassLine_iff :
    IsClassLine line obfuscated declared ↔ isContent line = true ∧ classNames? line = some (obfuscated, declared) := by
  constructor
  · intro h
    have hclass : classOf? line = some (.ofNames declared obfuscated) := classOf?_eq_some_iff.2 ⟨_, _, h, rfl⟩
    rw [classOf?_of_content h.content, Option.map_eq_some_iff] at hclass
    obtain ⟨⟨o, d⟩, hnames, heq⟩ := hclass
    have hobfuscated : o = obfuscated := congrArg ClassEntry.obfuscated heq
    have hdeclared : d = declared := congrArg ClassEntry.declared heq
    rw [hobfuscated, hdeclared] at hnames
    exact ⟨h.content, hnames⟩
  · rintro ⟨hcontent, hnames⟩
    obtain ⟨o, d, h, heq⟩ := classOf?_eq_some_iff.1 ((classOf?_of_content hcontent).trans (congrArg _ hnames))
    have hobfuscated : obfuscated = o := congrArg ClassEntry.obfuscated heq
    have hdeclared : declared = d := congrArg ClassEntry.declared heq
    rwa [hobfuscated, hdeclared]

instance (line obfuscated declared : String) : Decidable (IsClassLine line obfuscated declared) :=
  decidable_of_iff _ isClassLine_iff.symm

/-- A line that says something adds the class it names, or to the count of ignored lines. -/
theorem addClassLine_of_content (h : isContent line = true) (b : Builder) :
    addClassLine b line = (classOf? line).elim (b.modifyStats (·.ignoreLine)) b.insertClass := by
  rw [classOf?_of_content h]
  obtain ⟨hcomment, hblank⟩ := of_isContent h
  rw [addClassLine, hcomment, hblank, if_neg (by decide)]
  cases classNames? line <;> rfl

theorem addClassLine_of_isClassLine (h : IsClassLine line obfuscated declared) (b : Builder) :
    addClassLine b line = b.insertClass (.ofNames declared obfuscated) := by
  rw [addClassLine_of_content h.content, classOf?_eq_some_iff.2 ⟨_, _, h, rfl⟩]
  rfl

theorem addClassLine_of_misshapen (h : Misshapen line) (b : Builder) : addClassLine b line = b.ignoring 1 := by
  have hnone : classOf? line = none := by
    rw [Option.eq_none_iff_forall_ne_some]
    intro c hc
    obtain ⟨obfuscated, declared, hline, -⟩ := classOf?_eq_some_iff.1 hc
    exact h.not_divided hline.divided
  rw [addClassLine_of_content h.content, hnone]
  rfl

/-! ## Whole files -/

/-- How many lines were put in. -/
def addedCount (placed : List Placed) : Nat := placed.countP (·.kept?.isNone)

theorem foldl_addClassLine_placed {placed : List Placed} (h : ∀ line, .added line ∈ placed → Misshapen line)
    (b : Builder) :
    (placed.map Placed.line).foldl addClassLine b =
      ((placed.filterMap Placed.kept?).foldl addClassLine b).ignoring (addedCount placed) := by
  induction placed generalizing b with
  | nil => rfl
  | cons p placed ih =>
    have hrest := ih fun line hline => h line (List.mem_cons_of_mem _ hline)
    cases p with
    | kept line => exact hrest _
    | added line =>
      have hline := addClassLine_of_misshapen (h line List.mem_cons_self) b
      have hcount : addedCount (.added line :: placed) = addedCount placed + 1 := List.countP_cons_of_pos rfl
      rw [List.map_cons, List.foldl_cons, Placed.line, hline, hrest, List.filterMap_cons_none rfl,
        foldl_addClassLine_ignoring, Builder.ignoring_ignoring, hcount, Nat.add_comm]

theorem classBuilder_after_misshapen (classes : Insertion Misshapen) :
    classBuilder (.ofString classes.after) =
      (classBuilder (.ofString classes.before)).ignoring (addedCount classes.placed) := by
  rw [classBuilder, classBuilder, LineCursor.lines_ofString, LineCursor.lines_ofString,
    foldl_readAs addClassLine_dropReturn (forall₂_textLines classes.after_lines),
    foldl_readAs addClassLine_dropReturn (forall₂_textLines classes.before_lines)]
  exact foldl_addClassLine_placed classes.kind_of_added _

/-- With misshapen lines put into the class list the same table is read, with as many more lines ignored. -/
theorem read_after_misshapen (classes : Insertion Misshapen) (members : Option LineCursor) (options : ReadOptions) :
    read (.ofString classes.after) members options =
      (read (.ofString classes.before) members options).map (·.ignoring (addedCount classes.placed)) := by
  cases members with
  | none =>
    rw [read_none, read_none, LineCursor.check_atEnd_ofString, LineCursor.check_atEnd_ofString,
      classBuilder_after_misshapen]
    rfl
  | some m =>
    rw [read_some, read_some, LineCursor.check_atEnd_ofString, LineCursor.check_atEnd_ofString,
      classBuilder_after_misshapen, addMemberLines_ignoring]
    show ((addMemberLines options (classBuilder (.ofString classes.before)) m.number m.lines).map _).bind _ =
      ((addMemberLines options (classBuilder (.ofString classes.before)) m.number m.lines).bind _).map _
    cases addMemberLines options (classBuilder (.ofString classes.before)) m.number m.lines with
    | error e => rfl
    | ok b =>
      show m.atEnd.check.map _ = (m.atEnd.check.map _).map _
      cases m.atEnd.check <;> rfl

variable {classes : LineCursor} {members : Option LineCursor} {options : ReadOptions} {t : Table}

/-- What is read under either policy is read when malformed records are left out. -/
theorem read_lenient_of_read (h : read classes members options = .ok t) : read classes members .lenient = .ok t := by
  by_cases hfirst : ∃ number cause, FirstMalformed classes members number cause
  · obtain ⟨number, cause, hfirst⟩ := hfirst
    obtain ⟨_ | _⟩ := options
    · exact h
    · have hstrict : read classes members ⟨.abortFile⟩ = .error (.record number cause) := (read_of_first_malformed hfirst).1
      rw [hstrict] at h
      cases h
  · obtain ⟨r, hread, -⟩ := read_of_no_malformed (by simpa only [not_exists] using hfirst)
    rw [hread] at h ⊢
    exact h

/-- The member list leaves the classes of the class list their names. -/
theorem exists_named_of_mem_classes (h : read classes members .lenient = .ok t) {c : ClassEntry} (hc : c ∈ t.classes) :
    ∃ d ∈ (classBuilder classes).classes, d.obfuscated = c.obfuscated ∧ d.declared = c.declared := by
  rw [← Array.mem_toList_iff] at hc
  cases members with
  | none =>
    rw [read_none] at h
    rw [eq_of_check_map h, Builder.classes_build] at hc
    exact ⟨c, hc, rfl, rfl⟩
  | some m =>
    rw [read_some] at h
    obtain ⟨_, -, h⟩ := bind_eq_ok_iff.1 h
    obtain ⟨b, hlines, h⟩ := bind_eq_ok_iff.1 h
    obtain ⟨b', hb', hclasses⟩ := classes_addMemberLines (made_classBuilder classes) m.number m.lines
    rw [hlines] at hb'
    cases hb'
    rw [eq_of_check_map h, Builder.classes_build, hclasses, List.mem_map] at hc
    obtain ⟨d, hd, rfl⟩ := hc
    exact ⟨d, hd, (ClassEntry.name_foldl_addMember d _ .obfuscated).symm,
      (ClassEntry.name_foldl_addMember d _ .declared).symm⟩

/-- The class of the only line of a text. -/
theorem mem_classes_of_only_line {text : String} (hlines : textLines text = [line])
    (h : IsClassLine line obfuscated declared) :
    .ofNames declared obfuscated ∈ (classBuilder (.ofString text)).build.classes := by
  rw [← Array.mem_toList_iff, Builder.classes_build, classBuilder, LineCursor.lines_ofString, hlines,
    (classes_foldl_addClassLine _).2, List.filterMap_cons_some (classOf?_eq_some_iff.2 ⟨_, _, h, rfl⟩)]
  exact List.mem_singleton_self _

/-- Every class of the table is named by one of the class lines. -/
theorem exists_line_of_mem_classes (h : read classes members options = .ok t) {c : ClassEntry} (hc : c ∈ t.classes) :
    ∃ line ∈ classes.lines, IsClassLine line c.obfuscated c.declared := by
  obtain ⟨d, hd, hobfuscated, hdeclared⟩ := exists_named_of_mem_classes (read_lenient_of_read h) hc
  rw [classBuilder, (classes_foldl_addClassLine _).2] at hd
  obtain ⟨line, hline, hnames⟩ := List.mem_filterMap.1 (mem_of_mem_unreplaced hd)
  obtain ⟨obfuscated, declared, hclass, rfl⟩ := classOf?_eq_some_iff.1 hnames
  rw [← hobfuscated, ← hdeclared]
  exact ⟨line, hline, hclass⟩

/-- The names that a class list gives are not empty and hold no slash, and they hold no blank exactly if the line they
come from is not overfull. Of a line that says something in other than two words, and is not overfull, only a count is
left, wherever it stands; an overfull line adds a class with a blank in its names. -/
theorem names_of_two_word_lines (members : Option LineCursor) (options : ReadOptions) :
    (∀ (classes : ByteSource) (t : Table), read (.ofSource classes) members options = .ok t → ∀ c ∈ t.classes,
        IsDottedName c.obfuscated ∧ IsDottedName c.declared ∧
        ∃ line ∈ classes.lines, IsClassLine line c.obfuscated c.declared ∧
          (Unbroken c.obfuscated.toList ∧ Unbroken c.declared.toList ↔ ¬Overfull line)) ∧
    (∀ classes : Insertion Misshapen,
      read (.ofString classes.after) members options =
        (read (.ofString classes.before) members options).map (·.ignoring (addedCount classes.placed))) ∧
    (∀ line, Misshapen line → ∀ b, addClassLine b line = b.modifyStats (·.ignoreLine)) ∧
    ∀ line, isContent line = true → Overfull line → ∃ obfuscated declared,
      IsClassLine line obfuscated declared ∧ ¬(Unbroken obfuscated.toList ∧ Unbroken declared.toList) ∧
      ∀ b, addClassLine b line = b.insertClass (.ofNames declared obfuscated) := by
  refine ⟨fun classes t h c hc => ?_, fun classes => read_after_misshapen classes members options,
    fun line h b => addClassLine_of_misshapen h b, fun line hcontent h => ?_⟩
  · obtain ⟨line, hline, hclass⟩ := exists_line_of_mem_classes h hc
    rw [LineCursor.lines_ofSource] at hline
    obtain ⟨hobfuscated, hdeclared⟩ := hclass.isDottedName
    exact ⟨hobfuscated, hdeclared, line, hline, hclass, hclass.unbroken_iff⟩
  · obtain ⟨obfuscated, declared, hclass⟩ := exists_isClassLine hcontent h.divided
    exact ⟨obfuscated, declared, hclass, fun hunbroken => hclass.unbroken_iff.1 hunbroken h,
      addClassLine_of_isClassLine hclass⟩

/-- A class list with one word on a line of its own, and three words with no space between them. -/
def shapelessLines : Insertion Misshapen :=
  .ofPlaced [.added "alone", .kept "a net/Block", .added "b\tnet.Item\told"] (by decide)
    (by simp; decide +kernel)

/-- The one class has the two words of its line for names, and the other two lines are counted. A line of three words
with a space before the second names a class with the third word in its name. -/
theorem names_of_shapeless_lines :
    (∃ t, read (.ofString shapelessLines.before) none .strict = .ok t ∧
      read (.ofString shapelessLines.after) none .strict = .ok (t.ignoring 2) ∧
      ∃ c ∈ t.classes, c.declared = "net.Block" ∧ Unbroken c.declared.toList) ∧
    addClassLine .empty "b\tnet.Item\told" = Builder.empty.modifyStats (·.ignoreLine) ∧
    ∃ obfuscated declared, IsClassLine "b net.Item old" obfuscated declared ∧
      ¬(Unbroken obfuscated.toList ∧ Unbroken declared.toList) := by
  obtain ⟨hnames, hafter, hmisshapen, hoverfull⟩ := names_of_two_word_lines none .strict
  have hlines : textLines shapelessLines.before = ["a net/Block"] := by decide +kernel
  have hsource : (ByteSource.ofString shapelessLines.before).lines = textLines shapelessLines.before :=
    (LineCursor.lines_ofSource _).symm.trans (LineCursor.lines_ofString _)
  have hclass : IsClassLine "a net/Block" "a" "net.Block" := by decide +kernel
  have hread := (read_ofString shapelessLines.before "" .strict).1
  have hmem := mem_classes_of_only_line hlines hclass
  refine ⟨⟨_, hread, ?_, _, hmem, rfl, ?_⟩, hmisshapen _ (by decide +kernel) _, ?_⟩
  · rw [hafter shapelessLines, hread]
    rfl
  · obtain ⟨-, -, line, hline, -, hunbroken⟩ := hnames (.ofString shapelessLines.before) _ hread _ hmem
    rw [hsource, hlines, List.mem_singleton] at hline
    subst hline
    exact (hunbroken.2 (by decide +kernel)).2
  · obtain ⟨obfuscated, declared, hclass, hbroken, -⟩ := hoverfull "b net.Item old" (by decide) (by decide +kernel)
    exact ⟨obfuscated, declared, hclass, hbroken⟩

/-- Three words, of which the last two are taken for one name, and the class that the line before named is gone. -/
theorem overfull_line_replaces_class :
    ∃ t, read (.ofString (unlines ["a net.Block", "a net.Item old"])) none .lenient = .ok t ∧
      t.classes = #[.ofNames "net.Item old" "a"] ∧ t.stats.ignoredLines = 0 ∧
      isContent "a net.Item old" = true ∧ wordCount "a net.Item old" = 3 := by
  have hfirst : IsClassLine "a net.Block" "a" "net.Block" := by decide +kernel
  have hsecond : IsClassLine "a net.Item old" "a" "net.Item old" := by decide +kernel
  have hlines : textLines (unlines ["a net.Block", "a net.Item old"]) = ["a net.Block", "a net.Item old"] := by
    decide +kernel
  have hbuilder : classBuilder (.ofString (unlines ["a net.Block", "a net.Item old"])) =
      [.ofNames "net.Block" "a", .ofNames "net.Item old" "a"].foldl Builder.insertClass .empty := by
    rw [classBuilder, LineCursor.lines_ofString, hlines, List.foldl_cons, List.foldl_cons,
      addClassLine_of_isClassLine hfirst, addClassLine_of_isClassLine hsecond]
    rfl
  refine ⟨_, (read_ofString _ "" _).1, ?_, ?_, by decide, by decide +kernel⟩
  · rw [← Array.toList_inj, Builder.classes_build, hbuilder, (Builder.classes_foldl_insertClass _).2]
    simp [unreplaced, ClassEntry.SharesName]
  · rw [hbuilder]
    show (((Builder.empty.insertClass _).insertClass _).stats).ignoredLines = 0
    rw [Builder.stats_insertClass, Builder.stats_insertClass]
    rfl

end Flat

end NameBridge
