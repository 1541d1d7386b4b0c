import NameBridge.Proofs.Grammar.Records

/-!
Strict and lenient reading.

The two policies differ at malformed records only: a method of one of the classes whose signature is none. Over
lines without any, both do the same and count nothing (`addMemberLines_of_clean`). At the first one strict reading
stops with its line and its cause, while lenient reading counts it and goes on, and never forgets a count. So what
strict reading gives follows from the lines that are delivered before the streams end or break off.
-/

namespace NameBridge

namespace Flat

open Table (Builder)
open NameBridge.TypeName (dotted ofSignature DescriptorError)

/-! ## Malformed records -/

/-- The line is no comment and has four words: the first names one of the owners, with dots for slashes, and the
third is no signature. -/
inductive IsMalformed (owners : List String) (line : String) (cause : DescriptorError) : Prop
  | intro {first obfuscated signature declared : String} (not_comment : isComment line = false)
    (words : (Text.words line.toList).map String.ofList = [first, obfuscated, signature, declared])
    (owned : dotted first ∈ owners) (rejected : ofSignature signature = .error cause)

/-- None of the lines is a malformed record. -/
def Clean (owners lines : List String) : Prop := ∀ line ∈ lines, ∀ cause, ¬IsMalformed owners line cause

theorem ofLine_eq_method_iff {line owner obfuscated signature declared : String} :
    MemberLine.ofLine line = .method owner obfuscated signature declared ↔
      ∃ first, (Text.words line.toList).map String.ofList = [first, obfuscated, signature, declared] ∧
        owner = dotted first := by
  constructor
  · intro h
    unfold MemberLine.ofLine at h
    split at h <;> cases h
    exact ⟨_, ‹_›, rfl⟩
  · rintro ⟨first, hwords, rfl⟩
    simp only [MemberLine.ofLine, hwords]

theorem isMalformed_iff {owners : List String} {line : String} {cause : DescriptorError} :
    IsMalformed owners line cause ↔
      isComment line = false ∧ ∃ owner obfuscated signature declared,
        MemberLine.ofLine line = .method owner obfuscated signature declared ∧ owner ∈ owners ∧
          ofSignature signature = .error cause := by
  constructor
  · rintro ⟨hcomment, hwords, howned, hrejected⟩
    exact ⟨hcomment, _, _, _, _, ofLine_eq_method_iff.2 ⟨_, hwords, rfl⟩, howned, hrejected⟩
  · rintro ⟨hcomment, owner, obfuscated, signature, declared, hline, howned, hrejected⟩
    obtain ⟨first, hwords, rfl⟩ := ofLine_eq_method_iff.1 hline
    exact ⟨hcomment, hwords, howned, hrejected⟩

/-! ## One line -/

/-- The declared names of the classes. -/
def owners (b : Builder) : List String := b.classes.map (·.declared)

theorem isSome_withDeclared?_iff {b : Builder} (h : b.Coherent) (name : String) :
    (b.withDeclared? name).isSome ↔ name ∈ owners b := by
  rw [Builder.isSome_withDeclared? h, owners, List.mem_map]

theorem malformed_addMember (b : Builder) (owner : String) (change : ClassEntry → ClassEntry) :
    (addMember b owner change).stats.malformedRecords = b.stats.malformedRecords := by
  unfold addMember
  split
  · rw [Builder.stats_modifyDeclared]
  · rfl

variable {b b' : Builder} {number : Nat} {line : String} {lines : List String} {cause : DescriptorError}

/-- Members come and go to classes, but the classes keep their names. -/
theorem owners_addMemberLine (h : b.Coherent) (hline : addMemberLine .lenient b number line = .ok b') :
    owners b' = owners b := by
  obtain ⟨_, hb', hclasses⟩ := classes_addMemberLine h number line
  rw [hline] at hb'
  cases hb'
  unfold owners
  rw [hclasses, List.map_map]
  exact List.map_congr_left fun c _ => declared_withLine line c

/-- A malformed record fails strict reading, and is counted by lenient reading. -/
theorem addMemberLine_of_malformed (h : b.Coherent) (number : Nat) (hline : IsMalformed (owners b) line cause) :
    addMemberLine .strict b number line = .error (.record number cause) ∧
      addMemberLine .lenient b number line = .ok (b.modifyStats (·.skipMalformed)) := by
  obtain ⟨hcomment, owner, obfuscated, signature, declared, hmethod, howned, hrejected⟩ := isMalformed_iff.1 hline
  have hfound : ¬(b.withDeclared? owner).isNone := by
    rw [← isSome_withDeclared?_iff h] at howned
    simpa [← Option.isSome_iff_ne_none] using howned
  unfold addMemberLine
  simp only [hcomment, hmethod, hfound, hrejected, ReadOptions.strict, ReadOptions.lenient, Bool.false_eq_true,
    if_false]
  exact ⟨trivial, trivial⟩

/-- At any other line the policy does not matter, and nothing is counted as malformed. -/
theorem addMemberLine_of_not_malformed (h : b.Coherent) (number : Nat)
    (hline : ∀ cause, ¬IsMalformed (owners b) line cause) :
    ∃ b', (∀ options, addMemberLine options b number line = .ok b') ∧
      b'.stats.malformedRecords = b.stats.malformedRecords := by
  unfold addMemberLine
  by_cases hcomment : isComment line
  · exact ⟨b, fun _ => if_pos hcomment, rfl⟩
  · simp only [hcomment, Bool.false_eq_true, if_false]
    cases hwords : MemberLine.ofLine line with
    | blank => exact ⟨b, fun _ => rfl, rfl⟩
    | unknown => exact ⟨_, fun _ => rfl, rfl⟩
    | field owner obfuscated declared => exact ⟨_, fun _ => rfl, malformed_addMember ..⟩
    | method owner obfuscated signature declared =>
      dsimp only
      by_cases howner : (b.withDeclared? owner).isNone
      · simp only [howner, if_true]
        exact ⟨_, fun _ => rfl, rfl⟩
      · have howned : owner ∈ owners b := by
          rw [← isSome_withDeclared?_iff h]
          simpa [← Option.isSome_iff_ne_none] using howner
        simp only [howner]
        cases hsignature : ofSignature signature with
        | error cause =>
          rw [Bool.not_eq_true] at hcomment
          exact absurd (isMalformed_iff.2 ⟨hcomment, _, _, _, _, hwords, howned, hsignature⟩) (hline cause)
        | ok types => exact ⟨_, fun _ => rfl, malformed_addMember ..⟩

/-! ## All lines -/

/-- Over lines without malformed records the policy does not matter. -/
theorem addMemberLines_of_clean (h : b.Made) (number : Nat) (hlines : Clean (owners b) lines) :
    ∃ b', (∀ options, addMemberLines options b number lines = .ok b') ∧ b'.Made ∧ owners b' = owners b ∧
      b'.stats.malformedRecords = b.stats.malformedRecords := by
  induction lines generalizing b number with
  | nil => exact ⟨b, fun _ => rfl, h, rfl, rfl⟩
  | cons line lines ih =>
    obtain ⟨b₁, hline, hcount⟩ :=
      addMemberLine_of_not_malformed h.coherent (number + 1) (hlines line List.mem_cons_self)
    have howners : owners b₁ = owners b := owners_addMemberLine h.coherent (hline .lenient)
    have hrest : Clean (owners b₁) lines := by
      rw [howners]
      exact fun l hl => hlines l (List.mem_cons_of_mem _ hl)
    obtain ⟨b₂, hlines₂, hmade₂, howners₂, hcount₂⟩ := ih (made_addMemberLine h (hline .lenient)) (number + 1) hrest
    refine ⟨b₂, fun options => ?_, hmade₂, howners₂.trans howners, hcount₂.trans hcount⟩
    rw [addMemberLines, hline options]
    exact hlines₂ options

/-- Lenient reading takes every line, and the count of malformed records never falls. -/
theorem addMemberLines_lenient (h : b.Made) (number : Nat) (lines : List String) :
    ∃ b', addMemberLines .lenient b number lines = .ok b' ∧ b.stats.malformedRecords ≤ b'.stats.malformedRecords := by
  induction lines generalizing b number with
  | nil => exact ⟨b, rfl, Nat.le_refl _⟩
  | cons line lines ih =>
    obtain ⟨b₁, hline, hcount⟩ : ∃ b₁, addMemberLine .lenient b (number + 1) line = .ok b₁ ∧
        b.stats.malformedRecords ≤ b₁.stats.malformedRecords := by
      by_cases hmalformed : ∃ cause, IsMalformed (owners b) line cause
      · obtain ⟨cause, hmalformed⟩ := hmalformed
        exact ⟨_, (addMemberLine_of_malformed h.coherent _ hmalformed).2, Nat.le_succ _⟩
      · obtain ⟨b₁, hline, hcount⟩ := addMemberLine_of_not_malformed h.coherent (number + 1) (not_exists.1 hmalformed)
        exact ⟨b₁, hline .lenient, Nat.le_of_eq hcount.symm⟩
    obtain ⟨b₂, hlines, hcount₂⟩ := ih (made_addMemberLine h hline) (number + 1)
    refine ⟨b₂, ?_, Nat.le_trans hcount hcount₂⟩
    rw [addMemberLines, hline]
    exact hlines

/-- At the first malformed record strict reading stops, and lenient reading has counted it at the end. -/
theorem addMemberLines_of_first_malformed {before : List String} (h : b.Made) (number : Nat) (after : List String)
    (hbefore : Clean (owners b) before) (hline : IsMalformed (owners b) line cause) :
    addMemberLines .strict b number (before ++ line :: after) = .error (.record (number + before.length + 1) cause) ∧
      ∃ b', addMemberLines .lenient b number (before ++ line :: after) = .ok b' ∧
        b.stats.malformedRecords < b'.stats.malformedRecords := by
  obtain ⟨b₁, hlines, hmade, howners, hcount⟩ := addMemberLines_of_clean h number hbefore
  rw [← howners] at hline
  obtain ⟨hstrict, hlenient⟩ := addMemberLine_of_malformed hmade.coherent (number + before.length + 1) hline
  obtain ⟨b₂, hrest, hcount₂⟩ :=
    addMemberLines_lenient (hmade.modifyStats (·.skipMalformed)) (number + before.length + 1) after
  rw [addMemberLines_append, addMemberLines_append, hlines, hlines]
  refine ⟨?_, b₂, ?_, ?_⟩
  · show addMemberLines .strict b₁ (number + before.length) (line :: after) = _
    rw [addMemberLines, hstrict]
    rfl
  · show addMemberLines .lenient b₁ (number + before.length) (line :: after) = _
    rw [addMemberLines, hlenient]
    exact hrest
  · rw [← hcount]
    exact hcount₂

theorem clean_or_first_malformed (owners lines : List String) :
    Clean owners lines ∨ ∃ before line after cause, lines = before ++ line :: after ∧ Clean owners before ∧
      IsMalformed owners line cause := by
  induction lines with
  | nil => exact .inl fun _ h => absurd h List.not_mem_nil
  | cons line lines ih =>
    by_cases hline : ∃ cause, IsMalformed owners line cause
    · obtain ⟨cause, hline⟩ := hline
      exact .inr ⟨[], line, lines, cause, rfl, fun _ h => absurd h List.not_mem_nil, hline⟩
    · have hcons {ls : List String} (h : Clean owners ls) : Clean owners (line :: ls) :=
        List.forall_mem_cons.2 ⟨not_exists.1 hline, h⟩
      rcases ih with hclean | ⟨before, other, after, cause, rfl, hbefore, hother⟩
      · exact .inl (hcons hclean)
      · exact .inr ⟨line :: before, other, after, cause, rfl, hcons hbefore, hother⟩

/-! ## Both files -/

/-- The builder once the class list has been read. -/
def classBuilder (classes : LineCursor) : Builder := classes.lines.foldl addClassLine .empty

theorem made_classBuilder (classes : LineCursor) : (classBuilder classes).Made :=
  (classes_foldl_addClassLine classes.lines).1

/-- No record of a class list counts as malformed. -/
theorem malformed_classBuilder (classes : LineCursor) : (classBuilder classes).stats.malformedRecords = 0 := by
  refine List.foldlRecOn (motive := fun b : Builder => b.stats.malformedRecords = 0) classes.lines addClassLine rfl ?_
  intro b hb line _
  unfold addClassLine
  split
  · exact hb
  · split
    · rw [Builder.stats_insertClass, hb]
    · exact hb

theorem read_none (classes : LineCursor) (options : ReadOptions) :
    read classes none options = classes.atEnd.check.map fun _ => (classBuilder classes).build := by
  unfold read
  rw [readClasses_eq]
  dsimp only
  cases classes.atEnd.check <;> rfl

theorem read_some (classes members : LineCursor) (options : ReadOptions) :
    read classes (some members) options = classes.atEnd.check.bind fun _ =>
      (addMemberLines options (classBuilder classes) members.number members.lines).bind fun b =>
        members.atEnd.check.map fun _ => b.build := by
  unfold read
  rw [readClasses_eq]
  dsimp only
  cases classes.atEnd.check with
  | error cause => rfl
  | ok _ =>
    rw [readMembers_eq]
    unfold classBuilder
    cases addMemberLines options (classes.lines.foldl addClassLine .empty) members.number members.lines with
    | error cause => rfl
    | ok b =>
      show (members.atEnd.check >>= fun _ => .ok b.build) = members.atEnd.check.map fun _ => b.build
      cases members.atEnd.check <;> rfl

/-- The class list is read without failure, and of the lines that the member list delivers the one with this number
is the first malformed record. -/
def FirstMalformed (classes : LineCursor) (members : Option LineCursor) (number : Nat) (cause : DescriptorError) :
    Prop :=
  ∃ (t : Table) (m : LineCursor) (before : List String) (line : String) (after : List String),
    read classes none .lenient = .ok t ∧ members = some m ∧ m.lines = before ++ line :: after ∧
    number = m.number + before.length + 1 ∧ Clean (t.classes.toList.map (·.declared)) before ∧
    IsMalformed (t.classes.toList.map (·.declared)) line cause

variable {classes : LineCursor} {members : Option LineCursor}

theorem check_cases (c : LineCursor) : c.check = .ok () ∨ ∃ cause, c.check = .error (.file cause) := by
  unfold LineCursor.check
  cases c.takeFault.1 with
  | none => exact .inl rfl
  | some cause => exact .inr ⟨cause, rfl⟩

theorem owners_of_read_none {t : Table} (h : read classes none .lenient = .ok t) :
    classes.atEnd.check = .ok () ∧ t.classes.toList.map (·.declared) = owners (classBuilder classes) := by
  rw [read_none] at h
  cases hcheck : classes.atEnd.check with
  | error cause =>
    rw [hcheck] at h
    cases h
  | ok _ =>
    rw [hcheck] at h
    cases h
    exact ⟨rfl, congrArg (List.map (·.declared)) (Builder.classes_build _)⟩

theorem read_of_first_malformed (h : FirstMalformed classes members number cause) :
    read classes members .strict = .error (.record number cause) ∧
      ∀ t, read classes members .lenient = .ok t → t.stats.malformedRecords ≠ 0 := by
  obtain ⟨t, m, before, line, after, hread, rfl, hlines, rfl, hbefore, hline⟩ := h
  obtain ⟨hcheck, howners⟩ := owners_of_read_none hread
  rw [howners] at hbefore hline
  obtain ⟨hstrict, b, hlenient, hcount⟩ :=
    addMemberLines_of_first_malformed (made_classBuilder classes) m.number after hbefore hline
  rw [read_some, read_some, hcheck, hlines, hstrict]
  refine ⟨rfl, fun t ht => ?_⟩
  rw [hlenient] at ht
  rcases check_cases m.atEnd with hend | ⟨_, hend⟩
  · rw [hend] at ht
    cases ht
    exact Nat.ne_of_gt (Nat.lt_of_le_of_lt (Nat.zero_le _) hcount)
  · rw [hend] at ht
    cases ht

/-- Without a malformed record the policy does not matter: there is a table that counts none, or a stream broke off. -/
theorem read_of_no_malformed (h : ∀ number cause, ¬FirstMalformed classes members number cause) :
    ∃ r, (∀ options, read classes members options = r) ∧
      ((∃ t : Table, r = .ok t ∧ t.stats.malformedRecords = 0) ∨ ∃ cause, r = .error (.file cause)) := by
  rcases check_cases classes.atEnd with hcheck | ⟨cause, hcheck⟩
  · cases members with
    | none =>
      refine ⟨.ok (classBuilder classes).build, fun options => ?_, .inl ⟨_, rfl, malformed_classBuilder classes⟩⟩
      rw [read_none, hcheck]
      rfl
    | some m =>
      rcases clean_or_first_malformed (owners (classBuilder classes)) m.lines with hclean | hfirst
      · obtain ⟨b, hlines, -, -, hcount⟩ := addMemberLines_of_clean (made_classBuilder classes) m.number hclean
        refine ⟨m.atEnd.check.map fun _ => b.build, fun options => ?_, ?_⟩
        · rw [read_some, hcheck, hlines]
          rfl
        · rcases check_cases m.atEnd with hend | ⟨cause, hend⟩
          · rw [hend]
            exact .inl ⟨_, rfl, hcount.trans (malformed_classBuilder classes)⟩
          · rw [hend]
            exact .inr ⟨cause, rfl⟩
      · obtain ⟨before, line, after, cause, hlines, hbefore, hline⟩ := hfirst
        have hread : read classes none .lenient = .ok (classBuilder classes).build := by
          rw [read_none, hcheck]
          rfl
        rw [← (owners_of_read_none hread).2] at hbefore hline
        exact absurd ⟨_, m, before, line, after, hread, rfl, hlines, rfl, hbefore, hline⟩ (h _ cause)
  · refine ⟨.error (.file cause), fun options => ?_, .inr ⟨cause, rfl⟩⟩
    cases members with
    | none =>
      rw [read_none, hcheck]
      rfl
    | some m =>
      rw [read_some, hcheck]
      rfl

/-- Strict reading gives a table exactly if lenient reading gives the same one and has counted no malformed record. It
fails with a record exactly if there is a malformed one of a class that the table has, and then with the first,
whether or not the stream breaks off after it. In every other case the policies agree, as they always do in the
retrace grammar. -/
theorem strict_fails_at_first_malformed (classes : LineCursor) (members : Option LineCursor) :
    (∀ t, read classes members .strict = .ok t ↔
      read classes members .lenient = .ok t ∧ t.stats.malformedRecords = 0) ∧
    (∀ number cause, read classes members .strict = .error (.record number cause) ↔
      FirstMalformed classes members number cause) ∧
    ((∃ number cause, FirstMalformed classes members number cause) ∨
      read classes members .strict = read classes members .lenient) ∧
    (∀ source, (LineCursor.ofSource source).number = 0) ∧
    ∀ lines options options', Retrace.read lines options = Retrace.read lines options' := by
  by_cases hfirst : ∃ number cause, FirstMalformed classes members number cause
  · obtain ⟨number, cause, hfirst⟩ := hfirst
    obtain ⟨hstrict, hlenient⟩ := read_of_first_malformed hfirst
    refine ⟨fun t => ?_, fun number' cause' => ?_, .inl ⟨number, cause, hfirst⟩,
      fun source => LineCursor.number_fill _ 0, fun _ _ _ => rfl⟩
    · rw [hstrict]
      simp only [reduceCtorEq, false_iff, not_and]
      exact hlenient t
    · constructor
      · intro h
        rw [hstrict] at h
        cases h
        exact hfirst
      · intro h
        exact (read_of_first_malformed h).1
  · have hnone : ∀ number cause, ¬FirstMalformed classes members number cause := by
      simpa only [not_exists] using hfirst
    obtain ⟨r, hread, hr⟩ := read_of_no_malformed hnone
    rw [hread, hread]
    refine ⟨fun t => ?_, fun number cause => ?_, .inr rfl, fun source => LineCursor.number_fill _ 0, fun _ _ _ => rfl⟩
    · rcases hr with ⟨t', rfl, hcount⟩ | ⟨cause, rfl⟩
      · simp only [Except.ok.injEq, iff_self_and]
        rintro rfl
        exact hcount
      · simp
    · rw [iff_false_right (hnone number cause)]
      rcases hr with ⟨t', rfl, -⟩ | ⟨cause, rfl⟩
      · simp
      · simp

/-- Members of one class and of an unknown one, two of them with a bad signature each; then the file breaks off. -/
def brokenMembers : ByteSource where
  bytes := Text.encode (unlines ["# members", "", "net/Gone x (Q)V gone", "net/Block c (I bar", "net/Block d I)V ok"])
  failure := some .isADirectory

/-- The record of the unknown class is passed over, and the next one fails the file before it breaks off. -/
theorem strict_fails_at_fourth_line :
    read (.ofString "a net/Block") (some (.ofSource brokenMembers)) .strict =
      .error (.record 4 (.signature "(I" .noClosing)) := by
  have hread : read (.ofString "a net/Block") none .lenient = .ok (classBuilder (.ofString "a net/Block")).build := by
    rw [read_none, LineCursor.check_atEnd_ofString]
    rfl
  have howners : owners (classBuilder (.ofString "a net/Block")) = ["net.Block"] := by
    have hlines : (LineCursor.ofString "a net/Block").lines = ["a net/Block"] := by decide +kernel
    rw [owners, classBuilder, (classes_foldl_addClassLine _).2, hlines]
    decide +kernel
  have hlines : (LineCursor.ofSource brokenMembers).lines =
      ["# members", "", "net/Gone x (Q)V gone"] ++ "net/Block c (I bar" :: ["net/Block d I)V ok"] := by
    decide +kernel
  have hbefore : Clean ["net.Block"] ["# members", "", "net/Gone x (Q)V gone"] := by
    have hcomment (cause : DescriptorError) : ¬IsMalformed ["net.Block"] "# members" cause := by
      rintro ⟨hcomment, -⟩
      exact absurd hcomment (by decide)
    have hblank (cause : DescriptorError) : ¬IsMalformed ["net.Block"] "" cause := by
      rintro ⟨-, hwords, -⟩
      cases hwords
    have hunknown (cause : DescriptorError) : ¬IsMalformed ["net.Block"] "net/Gone x (Q)V gone" cause := by
      rintro ⟨-, hwords, howned, -⟩
      have hfour :
          (Text.words "net/Gone x (Q)V gone".toList).map String.ofList = ["net/Gone", "x", "(Q)V", "gone"] := by
        decide +kernel
      rw [hfour] at hwords
      cases hwords
      exact absurd howned (by decide +kernel)
    simp [Clean, hcomment, hblank, hunknown]
  have hline : IsMalformed ["net.Block"] "net/Block c (I bar" (.signature "(I" .noClosing) := by
    have hfour : (Text.words "net/Block c (I bar".toList).map String.ofList = ["net/Block", "c", "(I", "bar"] := by
      decide +kernel
    exact .intro (by decide) hfour (by decide +kernel) (by decide +kernel)
  rw [← howners, ← (owners_of_read_none hread).2] at hbefore hline
  obtain ⟨-, hfirst, -⟩ := strict_fails_at_first_malformed (.ofString "a net/Block") (some (.ofSource brokenMembers))
  have hnumber : (LineCursor.ofSource brokenMembers).number = 0 := LineCursor.number_fill _ 0
  exact (hfirst 4 _).2 ⟨_, _, _, _, _, hread, rfl, hlines, by rw [hnumber]; rfl, hbefore, hline⟩

end Flat

end NameBridge
