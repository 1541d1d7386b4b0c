import NameBridge.Proofs.Grammar.Sections
import NameBridge.Proofs.Grammar.Truncation
import NameBridge.Proofs.Table.Counts

/-!
Every line is accounted for.

A line that says something is a class, a member of one, or counted as left out for one reason: this is proved of each
line, and from it of all lines, before anything is replaced (`leftOut_foldl_addClassLine`, `leftOut_addMemberLines`,
`Outline.leftOut_foldl_line`). What is missing from the counts of the table is then what was replaced, and nothing is
missing exactly if no two classes and no two fields of one class share a name (`every_line_accounted`).
-/

namespace NameBridge

open Table (Builder total total_cons total_add total_one)

/-! ## What is counted -/

/-- The line is neither a comment nor blank. -/
def isContent (line : String) : Bool := !isComment line && !isBlankLine line

/-- How many of the lines are neither comments nor blank. -/
def contentCount (lines : List String) : Nat := lines.countP isContent

theorem contentCount_cons (line : String) (lines : List String) :
    contentCount (line :: lines) = contentCount lines + if isContent line then 1 else 0 := List.countP_cons

theorem isContent_of_comment {line : String} (h : isComment line = true) : isContent line = false := by
  simp [isContent, h]

theorem isContent_of_blank {line : String} (h : isBlankLine line = true) : isContent line = false := by
  simp [isContent, h]

theorem isContent_of_not {line : String} (hcomment : isComment line = false) (hblank : isBlankLine line = false) :
    isContent line = true := by
  simp [isContent, hcomment, hblank]

theorem length_filterMap_cons {α β : Type} (f : α → Option β) (x : α) (xs : List α) :
    ((x :: xs).filterMap f).length = (f x).toList.length + (xs.filterMap f).length := by
  rw [← List.singleton_append, List.filterMap_append, List.length_append]
  cases hx : f x <;> simp [hx]

namespace Stats

/-- The lines that were left out, whatever the reason. -/
def leftOut (s : Stats) : Nat := s.malformedRecords + s.unresolvedMembers + s.constructorsSkipped + s.ignoredLines

/-- All seven counters together. -/
def accounted (s : Stats) : Nat :=
  s.classes + s.fields + s.methods + s.malformedRecords + s.unresolvedMembers + s.constructorsSkipped + s.ignoredLines

@[simp] theorem leftOut_ignoreLine (s : Stats) : s.ignoreLine.leftOut = s.leftOut + 1 := rfl

@[simp] theorem leftOut_leaveUnresolved (s : Stats) : s.leaveUnresolved.leftOut = s.leftOut + 1 := by
  simp only [leftOut, leaveUnresolved]
  omega

@[simp] theorem leftOut_skipMalformed (s : Stats) : s.skipMalformed.leftOut = s.leftOut + 1 := by
  simp only [leftOut, skipMalformed]
  omega

end Stats

namespace ClassEntry

/-- The class and its members. -/
def recordCount (c : ClassEntry) : Nat := c.fieldCount + c.methods.size

theorem length_methods_add_fields (members : List NewMember) :
    (members.filterMap NewMember.field?).length + (members.filterMap NewMember.method?).length = members.length := by
  induction members with
  | nil => rfl
  | cons m members ih =>
    cases m with
    | field o d =>
      have hfield : NewMember.field? (.field o d) = some (o, d) := rfl
      have hmethod : NewMember.method? (.field o d) = none := rfl
      rw [List.filterMap_cons_some hfield, List.filterMap_cons_none hmethod, List.length_cons, List.length_cons]
      omega
    | method record =>
      have hfield : NewMember.field? (.method record) = none := rfl
      have hmethod : NewMember.method? (.method record) = some record := rfl
      rw [List.filterMap_cons_none hfield, List.filterMap_cons_some hmethod, List.length_cons, List.length_cons]
      omega

/-- A class holds at most as many members as it was given, and as many exactly if no two fields share a name. -/
theorem recordCount_ofMembers (declared obfuscated : String) (members : List NewMember) :
    (ofMembers declared obfuscated members).recordCount ≤ members.length ∧
      ((ofMembers declared obfuscated members).recordCount = members.length ↔
        (members.filterMap NewMember.field?).Pairwise Apart) := by
  have hfields : (ofMembers declared obfuscated members).fieldCount =
      (Pairing.ofRecords (members.filterMap NewMember.field?)).size :=
    congrArg Pairing.size (fields_foldl_addMember _ members)
  have hmethods : (ofMembers declared obfuscated members).methods.size =
      (members.filterMap NewMember.method?).length := by
    rw [← Array.length_toList, ofMembers, methods_foldl_addMember]
    rfl
  obtain ⟨hle, hiff⟩ := Pairing.size_ofRecords (members.filterMap NewMember.field?)
  have hlength := length_methods_add_fields members
  rw [recordCount, hfields, hmethods, ← hiff]
  omega

/-- The same of all classes of a list, each made of its own members. -/
theorem total_recordCount {α : Type} {entry : α → ClassEntry} {members : α → List NewMember} {xs : List α}
    (h : ∀ x ∈ xs, ∃ declared obfuscated, entry x = .ofMembers declared obfuscated (members x)) :
    total recordCount (xs.map entry) ≤ (xs.flatMap members).length ∧
      (total recordCount (xs.map entry) = (xs.flatMap members).length ↔
        ∀ x ∈ xs, ((members x).filterMap NewMember.field?).Pairwise Apart) := by
  induction xs with
  | nil => simp [total]
  | cons x xs ih =>
    obtain ⟨hx, hxs⟩ := List.forall_mem_cons.1 h
    obtain ⟨declared, obfuscated, hentry⟩ := hx
    obtain ⟨hle, hiff⟩ := ih hxs
    obtain ⟨hone, honeiff⟩ := recordCount_ofMembers declared obfuscated (members x)
    rw [List.map_cons, total_cons, List.flatMap_cons, List.length_append, List.forall_mem_cons, hentry, ← honeiff,
      ← hiff]
    omega

end ClassEntry

/-- What is only given if a source did not break off. -/
theorem eq_of_check_map {c : LineCursor} {t t' : Table} (h : (c.check.map fun _ => t') = .ok t) : t = t' := by
  cases hcheck : c.check with
  | error e =>
    rw [hcheck] at h
    cases h
  | ok _ =>
    rw [hcheck] at h
    cases h
    rfl

/-- A finished table accounts for its classes, their members and what was left out. -/
theorem accounted_build (b : Builder) :
    b.build.stats.accounted = b.classes.length + total ClassEntry.recordCount b.classes + b.stats.leftOut := by
  have hmembers : total ClassEntry.recordCount b.classes =
      total (·.fieldCount) b.classes + total (·.methods.size) b.classes :=
    total_add (·.fieldCount) (·.methods.size) b.classes
  rw [hmembers]
  simp only [Stats.accounted, Stats.leftOut, Builder.build]
  omega

/-! ## The flat grammar -/

namespace Flat

open NameBridge.TypeName (ofSignature)

variable {b b' : Builder}

/-- A line of the class list names a class or is left out, if it says something. -/
theorem leftOut_addClassLine (b : Builder) (line : String) :
    (addClassLine b line).stats.leftOut + (classOf? line).toList.length =
      b.stats.leftOut + if isContent line then 1 else 0 := by
  unfold addClassLine classOf? isContent
  cases isComment line with
  | true => simp
  | false =>
    cases isBlankLine line with
    | true => simp
    | false =>
      cases classNames? line with
      | none => simp [Builder.modifyStats]
      | some names => simp [Builder.stats_insertClass]

theorem leftOut_foldl_addClassLine (b : Builder) (lines : List String) :
    (lines.foldl addClassLine b).stats.leftOut + (lines.filterMap classOf?).length =
      b.stats.leftOut + contentCount lines := by
  induction lines generalizing b with
  | nil => rfl
  | cons line lines ih =>
    have hline := leftOut_addClassLine b line
    have hlines := ih (addClassLine b line)
    rw [List.foldl_cons, contentCount_cons, length_filterMap_cons]
    omega

/-! ## Member lines -/

theorem isSome_memberOf? {owner name line : String} {m : NewMember}
    (hline : memberOf? name line = if owner = name then some m else none) :
    (memberOf? name line).isSome = (name == owner) := by
  rw [hline]
  by_cases hname : owner = name
  · simp [hname]
  · simp [hname, Ne.symm hname]

/-- A line with a member for `owner` gives it to one of the classes, if one has the name. -/
theorem countP_memberOf?_of_line {names : List String} (hnames : names.Nodup) {owner line : String} {m : NewMember}
    (hline : ∀ name, memberOf? name line = if owner = name then some m else none) :
    (names.countP fun name => (memberOf? name line).isSome) = if owner ∈ names then 1 else 0 := by
  have hcount : (names.countP fun name => (memberOf? name line).isSome) = names.count owner :=
    List.countP_congr fun name _ => by rw [isSome_memberOf? (hline name)]
  rw [hcount, hnames.count]

theorem countP_memberOf?_of_none {names : List String} {line : String}
    (hline : ∀ name ∈ names, memberOf? name line = none) :
    (names.countP fun name => (memberOf? name line).isSome) = 0 := by
  rw [List.countP_eq_zero]
  intro name hname
  simp [hline name hname]

theorem nodup_owners (h : b.Made) : (owners b).Nodup := by
  have hnames := h.built.nodup_names .declared
  rw [Builder.classes_build] at hnames
  exact hnames

theorem leftOut_addMember (h : b.Coherent) (owner : String) (change : ClassEntry → ClassEntry) :
    (addMember b owner change).stats.leftOut + (if owner ∈ owners b then 1 else 0) = b.stats.leftOut + 1 := by
  unfold addMember
  split
  · rename_i howner
    rw [Builder.stats_modifyDeclared, if_pos ((isSome_withDeclared?_iff h owner).1 howner)]
  · rename_i howner
    rw [if_neg fun hmem => howner ((isSome_withDeclared?_iff h owner).2 hmem)]
    exact b.stats.leftOut_leaveUnresolved

theorem ofLine_eq_blank_iff {line : String} : MemberLine.ofLine line = .blank ↔ isBlankLine line = true := by
  rw [isBlankLine_iff, ← Text.words_eq_nil_iff]
  unfold MemberLine.ofLine
  generalize Text.words line.toList = words
  rcases words with _ | ⟨_, _ | ⟨_, _ | ⟨_, _ | ⟨_, _ | ⟨_, _⟩⟩⟩⟩⟩ <;> simp

/-- A line of the member list gives a member to one class or is left out, if it says something. -/
theorem leftOut_addMemberLine (h : b.Made) {number : Nat} {line : String}
    (hb : addMemberLine .lenient b number line = .ok b') :
    b'.stats.leftOut + ((owners b).countP fun name => (memberOf? name line).isSome) =
      b.stats.leftOut + if isContent line then 1 else 0 := by
  have hnodup := nodup_owners h
  have hmember := fun name => memberOf?_eq name line
  unfold addMemberLine at hb
  by_cases hcomment : isComment line
  · rw [if_pos hcomment] at hb
    cases hb
    have hnone : ∀ name ∈ owners b, memberOf? name line = none := by
      intro name _
      rw [hmember, if_pos hcomment]
    rw [isContent_of_comment hcomment, countP_memberOf?_of_none hnone]
    rfl
  · simp only [if_neg hcomment] at hb hmember
    rw [Bool.not_eq_true] at hcomment
    have hcontent : isContent line = true ↔ MemberLine.ofLine line ≠ .blank := by
      rw [ne_eq, ofLine_eq_blank_iff]
      simp [isContent, hcomment]
    cases hwords : MemberLine.ofLine line with
    | blank =>
      simp only [hwords] at hb hmember
      cases hb
      rw [if_neg (by simp [hcontent, hwords]), countP_memberOf?_of_none fun name _ => hmember name]
    | unknown =>
      simp only [hwords] at hb hmember
      cases hb
      rw [if_pos (by simp [hcontent, hwords]), countP_memberOf?_of_none fun name _ => hmember name]
      exact b.stats.leftOut_ignoreLine
    | field owner obfuscated declared =>
      simp only [hwords] at hb hmember
      cases hb
      rw [if_pos (by simp [hcontent, hwords]), countP_memberOf?_of_line hnodup hmember]
      exact leftOut_addMember h.coherent owner _
    | method owner obfuscated signature declared =>
      simp only [hwords] at hb hmember
      rw [if_pos (by simp [hcontent, hwords])]
      split at hb
      · -- no class has the name the line starts with
        rename_i howner
        cases hb
        have hnone : ∀ name ∈ owners b, memberOf? name line = none := by
          intro name hname
          rw [hmember, if_neg]
          rintro rfl
          rw [← isSome_withDeclared?_iff h.coherent, ← Option.not_isNone] at hname
          simp [howner] at hname
        rw [countP_memberOf?_of_none hnone]
        exact b.stats.leftOut_leaveUnresolved
      · cases hsignature : ofSignature signature with
        | error cause =>
          simp only [hsignature, ite_self, ReadOptions.lenient] at hb hmember
          cases hb
          rw [countP_memberOf?_of_none fun name _ => hmember name]
          exact b.stats.leftOut_skipMalformed
        | ok types =>
          simp only [hsignature] at hb hmember
          cases hb
          rw [countP_memberOf?_of_line hnodup hmember]
          exact leftOut_addMember h.coherent owner _

/-- What the lines give to classes with these declared names. -/
def membersOf (names lines : List String) : List NewMember := names.flatMap fun name => lines.filterMap (memberOf? name)

theorem length_membersOf_cons (names : List String) (line : String) (lines : List String) :
    (membersOf names (line :: lines)).length =
      (names.countP fun name => (memberOf? name line).isSome) + (membersOf names lines).length := by
  induction names with
  | nil => rfl
  | cons name names ih =>
    unfold membersOf at ih ⊢
    rw [List.flatMap_cons, List.flatMap_cons, List.length_append, List.length_append, ih, List.countP_cons,
      length_filterMap_cons]
    cases memberOf? name line with
    | none =>
      simp only [Option.toList_none, List.length_nil, Option.isSome_none, Bool.false_eq_true, if_false]
      omega
    | some m =>
      simp only [Option.toList_some, List.length_singleton, Option.isSome_some, if_true]
      omega

theorem leftOut_addMemberLines (h : b.Made) {number : Nat} {lines : List String}
    (hb : addMemberLines .lenient b number lines = .ok b') :
    b'.stats.leftOut + (membersOf (owners b) lines).length = b.stats.leftOut + contentCount lines := by
  induction lines generalizing b number with
  | nil =>
    cases hb
    simp [membersOf, contentCount]
  | cons line lines ih =>
    obtain ⟨next, hline, hlines⟩ := bind_eq_ok_iff.1 hb
    have hrest := ih (made_addMemberLine h hline) hlines
    have hone := leftOut_addMemberLine h hline
    rw [owners_addMemberLine h.coherent hline] at hrest
    rw [length_membersOf_cons, contentCount_cons]
    omega

/-! ## Both lists -/

/-- The field records that the lines give to the class declared `owner`. -/
def fieldsOf (owner : String) (lines : List String) : List (String × String) :=
  (lines.filterMap (memberOf? owner)).filterMap NewMember.field?

/-- Only what is replaced is missing from the counts: classes that share a name, and fields of one class that do. -/
theorem accounted_addMemberLines {classLines memberLines : List String} {number : Nat}
    (hb : addMemberLines .lenient (classLines.foldl addClassLine .empty) number memberLines = .ok b) :
    b.build.stats.accounted ≤ contentCount classLines + contentCount memberLines ∧
      (b.build.stats.accounted = contentCount classLines + contentCount memberLines ↔
        ((classLines.filterMap classOf?).Pairwise fun c d => ¬c.SharesName d) ∧
          ∀ c ∈ b.build.classes, (fieldsOf c.declared memberLines).Pairwise Apart) := by
  obtain ⟨hmade, hnamed⟩ := classes_foldl_addClassLine classLines
  obtain ⟨_, hb', hclasses⟩ := classes_addMemberLines hmade number memberLines
  rw [hb] at hb'
  cases hb'
  have hleftOut := leftOut_addMemberLines hmade hb
  have hclassLines := leftOut_foldl_addClassLine .empty classLines
  have hkept : ∀ c ∈ unreplaced (classLines.filterMap classOf?), ∃ declared obfuscated,
      (memberLines.filterMap (memberOf? c.declared)).foldl .addMember c =
        .ofMembers declared obfuscated (memberLines.filterMap (memberOf? c.declared)) := by
    intro c hc
    obtain ⟨line, -, hline⟩ := List.mem_filterMap.1 (mem_of_mem_unreplaced hc)
    obtain ⟨obfuscated, declared, -, rfl⟩ := classOf?_eq_some_iff.1 hline
    exact ⟨declared, obfuscated, rfl⟩
  have hfields : (∀ c ∈ b.build.classes, (fieldsOf c.declared memberLines).Pairwise Apart) ↔
      ∀ c ∈ unreplaced (classLines.filterMap classOf?), (fieldsOf c.declared memberLines).Pairwise Apart := by
    simp only [← Array.mem_toList_iff, Builder.classes_build, hclasses, hnamed, List.forall_mem_map]
    refine forall₂_congr fun c _ => ?_
    have hname : (List.foldl .addMember c (memberLines.filterMap (memberOf? c.declared))).declared = c.declared :=
      ClassEntry.name_foldl_addMember c _ .declared
    rw [hname]
  obtain ⟨hmembers, hmembersIff⟩ := ClassEntry.total_recordCount hkept
  obtain ⟨hreplaced, hreplacedIff⟩ := Table.total_unreplaced (fun _ => Nat.one_pos) (classLines.filterMap classOf?)
  rw [total_one, total_one] at hreplaced hreplacedIff
  rw [owners, hnamed, membersOf, List.flatMap_map] at hleftOut
  rw [accounted_build, hfields, hclasses, hnamed, List.length_map, ← hreplacedIff]
  unfold fieldsOf
  rw [← hmembersIff]
  have hempty : (Builder.empty : Builder).stats.leftOut = 0 := rfl
  omega

/-- The lines of the member list, if there is one. -/
def memberLines (members : Option LineCursor) : List String := (members.map (·.lines)).getD []

theorem accounted_of_read {classes : LineCursor} {members : Option LineCursor} {t : Table}
    (h : read classes members .lenient = .ok t) :
    t.stats.accounted ≤ contentCount classes.lines + contentCount (memberLines members) ∧
      (t.stats.accounted = contentCount classes.lines + contentCount (memberLines members) ↔
        ((classes.lines.filterMap classOf?).Pairwise fun c d => ¬c.SharesName d) ∧
          ∀ c ∈ t.classes, (fieldsOf c.declared (memberLines members)).Pairwise Apart) := by
  cases members with
  | none =>
    rw [read_none] at h
    have hnone : addMemberLines .lenient (classBuilder classes) 0 [] = .ok (classBuilder classes) := rfl
    rw [eq_of_check_map h]
    exact accounted_addMemberLines hnone
  | some m =>
    rw [read_some] at h
    obtain ⟨_, -, h⟩ := bind_eq_ok_iff.1 h
    obtain ⟨b, hlines, h⟩ := bind_eq_ok_iff.1 h
    rw [eq_of_check_map h]
    exact accounted_addMemberLines hlines

end Flat

/-! ## The retrace grammar -/

namespace Retrace

namespace Outline

/-- Every line that says something is a header, a record of a class or left out. -/
theorem leftOut_foldl_line (lines : List String) (o : Outline) :
    (lines.foldl line o).close.leftOut + ((o.below lines).filterMap Member.record?).length + (sections lines).length +
        ((sections lines).flatMap Section.records).length = o.leftOut + contentCount lines := by
  induction lines generalizing o with
  | nil => simp [below, membersBelow, sections, contentCount, close, leftOut]
  | cons text lines ih =>
    have hstep := o.step_line text
    have hlines := ih (o.line text)
    rw [List.foldl_cons, contentCount_cons]
    generalize o.line text = o' at hstep hlines ⊢
    cases hstep with
    | comment hcomment =>
      rw [sections_cons_of_comment hcomment, below_of_comment hcomment, isContent_of_comment hcomment]
      exact hlines
    | member hcomment hopened hbody =>
      obtain ⟨-, hcurrent, hcount⟩ := member_ofBody hopened _
      rw [below, hcurrent, Option.isSome_some, if_pos rfl] at hlines
      rw [sections_cons_of_none (header?_of_member hbody), below_of_member hcomment hopened hbody,
        isContent_of_not hcomment (not_blank_of_member hbody), length_filterMap_cons, if_pos rfl]
      omega
    | blank hcomment hends hblank =>
      rw [sections_cons_of_none (header?_of_blank hblank), below_of_ends hcomment hends, isContent_of_blank hblank]
      exact hlines
    | header hcomment hends hblank hheader =>
      -- the lines below the header are now those of an open block
      rw [sections_cons_of_header hcomment hheader, below_of_ends hcomment hends, isContent_of_not hcomment hblank,
        List.length_cons, List.flatMap_cons, List.length_append, List.filterMap_nil, List.length_nil, if_pos rfl]
      simp only [below, Option.isSome_some, if_true] at hlines
      simp only [Section.records, leftOut, close] at hlines ⊢
      omega
    | ignored hcomment hends hblank hheader =>
      rw [sections_cons_of_none hheader, below_of_ends hcomment hends, isContent_of_not hcomment hblank,
        List.filterMap_nil, List.length_nil, if_pos rfl]
      simp only [below, close, Option.isSome_none, Bool.false_eq_true, if_false, List.filterMap_nil, List.length_nil,
        leftOut] at hlines ⊢
      omega

theorem leftOut_ofLines (lines : List String) :
    (ofLines lines).leftOut + (sections lines).length + ((sections lines).flatMap Section.records).length =
      contentCount lines := by
  have hlines := leftOut_foldl_line lines {}
  have hbelow : below {} lines = [] := rfl
  rw [hbelow, List.filterMap_nil, List.length_nil, Nat.add_zero] at hlines
  exact hlines.trans (Nat.zero_add _)

end Outline

theorem leftOut_builder (o : Outline) : o.builder.stats.leftOut = o.leftOut := by
  have hstats : (o.ended.foldl Builder.insertClass .empty).stats = {} := by
    refine List.foldlRecOn (motive := fun b : Builder => b.stats = {}) o.ended Builder.insertClass rfl ?_
    intro b hb c _
    rw [Builder.stats_insertClass, hb]
  unfold Outline.builder Builder.modifyStats Stats.leftOut Outline.leftOut
  rw [hstats]
  simp only [Nat.zero_add]
  omega

theorem read_eq (c : LineCursor) (options : ReadOptions) :
    read c options = c.atEnd.check.map fun _ => (Outline.ofLines c.lines).builder.build := by
  unfold read
  rw [readBlocks_eq_outline]
  dsimp only
  cases c.atEnd.check <;> rfl

/-- The field records of a section. -/
def Section.fields (s : Section) : List (String × String) := s.records.filterMap NewMember.field?

theorem accounted_of_read {c : LineCursor} {options : ReadOptions} {t : Table} (h : read c options = .ok t) :
    t.stats.accounted ≤ contentCount c.lines ∧
      (t.stats.accounted = contentCount c.lines ↔
        (((sections c.lines).map Section.entry).Pairwise fun c d => ¬c.SharesName d) ∧
          ∀ s ∈ sections c.lines, s.fields.Pairwise Apart) := by
  rw [read_eq] at h
  rw [eq_of_check_map h]
  have hentries : ∀ s ∈ sections c.lines, ∃ declared obfuscated, s.entry = .ofMembers declared obfuscated s.records :=
    fun s _ => ⟨s.declared, s.obfuscated, rfl⟩
  have hpositive (c : ClassEntry) : 0 < 1 + c.recordCount := Nat.add_pos_left Nat.one_pos _
  have hleftOut := Outline.leftOut_ofLines c.lines
  obtain ⟨hmembers, hmembersIff⟩ := ClassEntry.total_recordCount hentries
  obtain ⟨hreplaced, hreplacedIff⟩ := Table.total_unreplaced hpositive ((sections c.lines).map Section.entry)
  rw [total_add, total_add, total_one, total_one, List.length_map] at hreplaced hreplacedIff
  rw [accounted_build, leftOut_builder, Outline.classes_builder, Outline.ended_ofLines, ← hreplacedIff]
  unfold Section.fields
  rw [← hmembersIff]
  omega

end Retrace

/-- A table counts every line of its sources that says something, those it leaves out included, except for what was
replaced: it counts at most as many, and as many exactly if no two class lines share a name and no two field records
of one class do. In the retrace grammar the same holds of headers and of the fields below one header. -/
theorem every_line_accounted :
    (∀ (classes : ByteSource) (members : Option ByteSource) (t : Table),
      Flat.read (.ofSource classes) (members.map .ofSource) .lenient = .ok t →
        t.stats.accounted ≤ contentCount classes.lines + contentCount ((members.map (·.lines)).getD []) ∧
        (t.stats.accounted = contentCount classes.lines + contentCount ((members.map (·.lines)).getD []) ↔
          ((classes.lines.filterMap Flat.classOf?).Pairwise fun c d => ¬c.SharesName d) ∧
            ∀ c ∈ t.classes, (Flat.fieldsOf c.declared ((members.map (·.lines)).getD [])).Pairwise Apart)) ∧
    ∀ (source : ByteSource) (options : ReadOptions) (t : Table),
      Retrace.read (.ofSource source) options = .ok t →
        t.stats.accounted ≤ contentCount source.lines ∧
        (t.stats.accounted = contentCount source.lines ↔
          (((Retrace.sections source.lines).map Retrace.Section.entry).Pairwise fun c d => ¬c.SharesName d) ∧
            ∀ s ∈ Retrace.sections source.lines, s.fields.Pairwise Apart) := by
  constructor
  · intro classes members t hread
    have hlines : Flat.memberLines (members.map .ofSource) = (members.map (·.lines)).getD [] := by
      cases members with
      | none => rfl
      | some m => exact LineCursor.lines_ofSource m
    have haccounted := Flat.accounted_of_read hread
    rwa [hlines, LineCursor.lines_ofSource] at haccounted
  · intro source options t hread
    have haccounted := Retrace.accounted_of_read hread
    rwa [LineCursor.lines_ofSource] at haccounted

/-- Two class lines with one declared name. -/
def sharedName : ByteSource := .ofString (unlines ["# classes", "a net/Block", "b net/Block", ""])

/-- A field, a member of no class, a record whose signature is malformed and a line that is no record. -/
def mixedMembers : ByteSource :=
  .ofString (unlines ["net/Block x count", "net/Gone y total", "net/Block z (I tick", "net/Block"])

/-- A block with a field, a comment, a constructor and a line that is no member. -/
def mixedBlock : ByteSource :=
  .ofString (unlines ["net.Block -> a:", "    int count -> x", "# note", "    void <init>() -> <init>", "    ?", ""])

/-- The class that is replaced is the only line that is missing; of the block nothing is. -/
theorem accounted_of_mixed_lines :
    (∃ t, Flat.read (.ofSource sharedName) (some (.ofSource mixedMembers)) .lenient = .ok t ∧
      t.stats.accounted < 6) ∧
    ∃ t, Retrace.read (.ofSource mixedBlock) .lenient = .ok t ∧ t.stats.accounted = 4 := by
  obtain ⟨hflat, hretrace⟩ := every_line_accounted
  constructor
  · obtain ⟨t, hread⟩ := (Flat.read_lenient sharedName (some mixedMembers)).2 (by decide +kernel)
    obtain ⟨hle, hiff⟩ := hflat sharedName (some mixedMembers) t hread
    have hlines : sharedName.lines = ["# classes", "a net/Block", "b net/Block", ""] := by decide +kernel
    have hclasses : contentCount ["# classes", "a net/Block", "b net/Block", ""] = 2 := by decide
    have hmembers : contentCount mixedMembers.lines = 4 := by decide +kernel
    have hclass (line obfuscated : String) (hskip : ¬(isComment line ∨ isBlankLine line))
        (hnames : Flat.classNames? line = some (obfuscated, "net.Block")) :
        Flat.classOf? line = some (.ofNames "net.Block" obfuscated) := by
      rw [Flat.classOf?, if_neg hskip, hnames]
      rfl
    have hfirst := hclass "a net/Block" "a" (by decide) (by decide +kernel)
    have hsecond := hclass "b net/Block" "b" (by decide) (by decide +kernel)
    have hcomment : Flat.classOf? "# classes" = none := if_pos (by decide)
    have hblank : Flat.classOf? "" = none := if_pos (by decide)
    rw [Option.map_some, Option.getD_some, hlines, hclasses, hmembers] at hle hiff
    refine ⟨t, hread, Nat.lt_of_le_of_ne hle fun heq => ?_⟩
    have happart := (hiff.1 heq).1
    simp [hfirst, hsecond, hcomment, hblank, ClassEntry.SharesName] at happart
  · obtain ⟨t, hread⟩ := (Retrace.read_ofSource mixedBlock .lenient).2 (by decide +kernel)
    obtain ⟨-, hiff⟩ := hretrace mixedBlock .lenient t hread
    have hcontent : contentCount mixedBlock.lines = 4 := by decide +kernel
    rw [hcontent] at hiff
    exact ⟨t, hread, hiff.2 ⟨by decide +kernel, by decide +kernel⟩⟩

end NameBridge
