import NameBridge.Proofs.Grammar.Passes
import NameBridge.Proofs.Table.Replacement

/-!
What the two files of the flat grammar describe.

A class line names a class (`classOf?`); a member line gives a member to the class with one declared name and to
no other (`memberOf?`). The table holds the classes that no later line replaces, in order, each with what the
member lines give to its declared name, in order (`read_eq_described`).
-/

namespace NameBridge

/-! ## Members one after the other -/

def NewMember.method? : NewMember → Option MethodEntry
  | .method record => some record
  | .field .. => none

/-- The obfuscated and the declared name of a field. -/
def NewMember.field? : NewMember → Option (String × String)
  | .field obfuscated declared => some (obfuscated, declared)
  | .method _ => none

namespace ClassEntry

theorem methods_foldl_addMember (c : ClassEntry) (members : List NewMember) :
    (members.foldl addMember c).methods.toList = c.methods.toList ++ members.filterMap NewMember.method? := by
  induction members generalizing c with
  | nil => simp
  | cons m members ih =>
    rw [List.foldl_cons, ih]
    cases m with
    | method record => simp [addMember, NewMember.method?]
    | field obfuscated declared => rfl

theorem fields_foldl_addMember (c : ClassEntry) (members : List NewMember) :
    (members.foldl addMember c).fields =
      (members.filterMap NewMember.field?).foldl (fun fields (o, d) => fields.insert o d) c.fields := by
  induction members generalizing c with
  | nil => rfl
  | cons m members ih =>
    rw [List.foldl_cons, ih]
    cases m with
    | method record => rfl
    | field obfuscated declared => rfl

end ClassEntry

namespace Flat

open Table (Builder)
open NameBridge.TypeName (dotted ofSignature)

/-! ## Class lines -/

/-- The class that a line of the class list names, without members. -/
def classOf? (line : String) : Option ClassEntry :=
  if isComment line ∨ isBlankLine line then none
  else (classNames? line).map fun (obfuscated, declared) => .ofNames declared obfuscated

/-- The line is neither a comment nor blank, and with dots for slashes it has a first space with something other
than blanks before and after it: the two names. -/
structure IsClassLine (line obfuscated declared : String) : Prop where
  not_comment : isComment line = false
  not_blank : isBlankLine line = false
  split : ∃ before after : List Char, (dotted line).toList = before ++ ' ' :: after ∧ ' ' ∉ before ∧
    obfuscated = String.ofList (Text.trim before) ∧ declared = String.ofList (Text.trim after)
  obfuscated_ne : obfuscated ≠ ""
  declared_ne : declared ≠ ""

theorem classNames?_of_split {line : String} {before after : List Char}
    (h : (dotted line).toList = before ++ ' ' :: after) (hbefore : ' ' ∉ before) :
    classNames? line =
      if Text.trim before = [] ∨ Text.trim after = [] then none
      else some (String.ofList (Text.trim before), String.ofList (Text.trim after)) := by
  unfold classNames?
  simp only [h, Text.takeWhile_before hbefore, Text.dropWhile_before hbefore, Bool.or_eq_true, List.isEmpty_iff]

theorem classNames?_of_no_space {line : String} (h : ' ' ∉ (dotted line).toList) : classNames? line = none := by
  have hdrop : (dotted line).toList.dropWhile (· != ' ') = [] := by
    rw [List.dropWhile_eq_nil_iff]
    intro c hc
    rw [bne_iff_ne]
    rintro rfl
    exact h hc
  unfold classNames?
  simp only [hdrop]

/-- A line names a class exactly if it is a class line. -/
theorem classOf?_eq_some_iff {line : String} {c : ClassEntry} :
    classOf? line = some c ↔
      ∃ obfuscated declared, IsClassLine line obfuscated declared ∧ c = .ofNames declared obfuscated := by
  have hofList (cs : List Char) : String.ofList cs ≠ "" ↔ cs ≠ [] := by
    rw [ne_eq, ← String.toList_eq_nil_iff, String.toList_ofList]
  constructor
  · intro h
    unfold classOf? at h
    split at h
    · cases h
    · rename_i hskip
      rw [not_or, Bool.not_eq_true, Bool.not_eq_true] at hskip
      by_cases hspace : ' ' ∈ (dotted line).toList
      · obtain ⟨before, after, hsplit, hbefore⟩ := List.eq_append_cons_of_mem hspace
        rw [classNames?_of_split hsplit hbefore] at h
        split at h
        · cases h
        · rename_i hnames
          rw [not_or] at hnames
          cases h
          refine ⟨_, _, ⟨hskip.1, hskip.2, ⟨before, after, hsplit, hbefore, rfl, rfl⟩, ?_, ?_⟩, rfl⟩
          · exact (hofList _).2 hnames.1
          · exact (hofList _).2 hnames.2
      · rw [classNames?_of_no_space hspace] at h
        cases h
  · rintro ⟨_, _, ⟨hcomment, hblank, ⟨before, after, hsplit, hbefore, rfl, rfl⟩, hobfuscated, hdeclared⟩, rfl⟩
    rw [hofList] at hobfuscated hdeclared
    have hskip : ¬(isComment line ∨ isBlankLine line) := by simp [hcomment, hblank]
    unfold classOf?
    rw [if_neg hskip, classNames?_of_split hsplit hbefore, if_neg (not_or.2 ⟨hobfuscated, hdeclared⟩)]
    rfl

theorem classes_addClassLine {b : Builder} (h : b.Coherent) (line : String) :
    (addClassLine b line).classes =
      match classOf? line with
      | some c => b.classes.filter (fun d => ¬d.SharesName c) ++ [c]
      | none => b.classes := by
  unfold addClassLine classOf?
  simp only [Bool.or_eq_true]
  split
  · rfl
  · cases classNames? line with
    | none => rfl
    | some names => exact Builder.classes_insertClass h _

/-- The class list leaves the classes that no later line replaces. -/
theorem classes_foldl_addClassLine (lines : List String) :
    (lines.foldl addClassLine .empty).Made ∧
      (lines.foldl addClassLine .empty).classes = unreplaced (lines.filterMap classOf?) := by
  induction lines using List.reverseRecOn with
  | nil => exact ⟨Builder.made_empty, rfl⟩
  | append_singleton lines line ih =>
    obtain ⟨hmade, hclasses⟩ := ih
    rw [List.foldl_append, List.foldl_cons, List.foldl_nil]
    refine ⟨made_addClassLine hmade line, ?_⟩
    rw [classes_addClassLine hmade.coherent, hclasses, List.filterMap_append]
    cases hline : classOf? line with
    | none => simp [hline]
    | some c => simp [hline, unreplaced_concat]

/-! ## Member lines -/

/-- What a line of the member list gives to the class declared `owner`: a field if it has three words, a method
if it has four and the third is a signature. -/
def memberOf? (owner line : String) : Option NewMember :=
  if isComment line then none
  else
    match (Text.words line.toList).map String.ofList with
    | [first, obfuscated, declared] => if dotted first = owner then some (.field obfuscated declared) else none
    | [first, obfuscated, signature, declared] =>
      if dotted first = owner then
        match ofSignature signature with
        | .ok (parameters, returnType) => some (.method { returnType, declared, obfuscated, parameters })
        | .error _ => none
      else none
    | _ => none

/-- A line that is no comment and whose first word, with dots for slashes, is `owner`, and the member in it. -/
inductive IsMemberLine (owner line : String) : NewMember → Prop
  | field {first obfuscated declared : String} (not_comment : isComment line = false) (owned : dotted first = owner)
      (words : (Text.words line.toList).map String.ofList = [first, obfuscated, declared]) :
      IsMemberLine owner line (.field obfuscated declared)
  | method {first obfuscated signature declared returnType : String} {parameters : List String}
      (not_comment : isComment line = false) (owned : dotted first = owner)
      (words : (Text.words line.toList).map String.ofList = [first, obfuscated, signature, declared])
      (types : ofSignature signature = .ok (parameters, returnType)) :
      IsMemberLine owner line (.method { returnType, declared, obfuscated, parameters })

/-- A line gives a member to the class declared `owner` exactly if it is a member line of that class. -/
theorem memberOf?_eq_some_iff {owner line : String} {m : NewMember} :
    memberOf? owner line = some m ↔ IsMemberLine owner line m := by
  constructor
  · intro h
    unfold memberOf? at h
    split at h
    · cases h
    · rename_i hcomment
      rw [Bool.not_eq_true] at hcomment
      split at h
      · rename_i hwords
        split at h
        · cases h
          exact .field hcomment ‹_› hwords
        · cases h
      · rename_i hwords
        split at h
        · split at h
          · cases h
            exact .method hcomment ‹_› hwords ‹_›
          · cases h
        · cases h
      · cases h
  · intro h
    unfold memberOf?
    cases h with
    | field hcomment howned hwords => simp only [hcomment, hwords, howned, if_true, Bool.false_eq_true, if_false]
    | method hcomment howned hwords htypes =>
      simp only [hcomment, hwords, howned, htypes, if_true, Bool.false_eq_true, if_false]

/-- The class with what a line gives to it. -/
def withLine (line : String) (c : ClassEntry) : ClassEntry := (memberOf? c.declared line).elim c c.addMember

theorem memberOf?_eq (owner line : String) :
    memberOf? owner line =
      if isComment line then none
      else
        match MemberLine.ofLine line with
        | .field first obfuscated declared => if first = owner then some (.field obfuscated declared) else none
        | .method first obfuscated signature declared =>
          if first = owner then
            match ofSignature signature with
            | .ok (parameters, returnType) => some (.method { returnType, declared, obfuscated, parameters })
            | .error _ => none
          else none
        | _ => none := by
  unfold memberOf? MemberLine.ofLine
  generalize (Text.words line.toList).map String.ofList = words
  rcases words with _ | ⟨first, _ | ⟨obfuscated, _ | ⟨third, _ | ⟨fourth, _ | ⟨fifth, rest⟩⟩⟩⟩⟩ <;> rfl

theorem classes_addMember {b : Builder} (h : b.Coherent) (owner : String) (m : NewMember) :
    (addMember b owner (·.addMember m)).classes =
      b.classes.map fun c => if c.declared = owner then c.addMember m else c := by
  unfold addMember
  split
  · exact Builder.classes_modifyDeclared h owner _
  · rename_i hnone
    rw [Builder.isSome_withDeclared? h] at hnone
    rw [Builder.classes_modifyStats]
    refine ((List.map_congr_left fun c hc => if_neg fun hname => ?_).trans (List.map_id _)).symm
    exact hnone ⟨c, hc, hname⟩

/-- A line that gives nothing to any of the classes leaves them as they are. -/
theorem map_withLine_of_none {cs : List ClassEntry} {line : String}
    (h : ∀ c ∈ cs, memberOf? c.declared line = none) : cs.map (withLine line) = cs := by
  refine (List.map_congr_left fun c hc => ?_).trans (List.map_id cs)
  unfold withLine
  rw [h c hc]
  rfl

/-- A line with a member for `owner` gives it to the class with that name. -/
theorem classes_addMember_of_line {b : Builder} (h : b.Coherent) {owner line : String} {m : NewMember}
    (hline : ∀ name, memberOf? name line = if owner = name then some m else none) :
    (addMember b owner (·.addMember m)).classes = b.classes.map (withLine line) := by
  rw [classes_addMember h]
  refine List.map_congr_left fun c _ => ?_
  unfold withLine
  rw [hline]
  by_cases hname : c.declared = owner
  · simp [hname]
  · simp [hname, Ne.symm hname]

/-- Malformed records left out, a line gives its member to the class that it names first. -/
theorem classes_addMemberLine {b : Builder} (h : b.Coherent) (number : Nat) (line : String) :
    ∃ b', addMemberLine .lenient b number line = .ok b' ∧ b'.classes = b.classes.map (withLine line) := by
  have hmember := fun name => memberOf?_eq name line
  unfold addMemberLine
  split
  · rename_i hcomment
    exact ⟨b, rfl, (map_withLine_of_none fun c _ => by rw [hmember, if_pos hcomment]).symm⟩
  · rename_i hcomment
    simp only [if_neg hcomment] at hmember
    cases hline : MemberLine.ofLine line with
    | blank => exact ⟨b, rfl, (map_withLine_of_none fun c _ => by rw [hmember, hline]).symm⟩
    | unknown => exact ⟨_, rfl, (map_withLine_of_none fun c _ => by rw [hmember, hline]).symm⟩
    | field owner obfuscated declared =>
      simp only [hline] at hmember
      exact ⟨_, rfl, classes_addMember_of_line h hmember⟩
    | method owner obfuscated signature declared =>
      simp only [hline] at hmember
      dsimp only
      split
      · -- no class has the name the line starts with
        rename_i howner
        refine ⟨_, rfl, (map_withLine_of_none fun c hc => ?_).symm⟩
        rw [hmember, if_neg]
        rintro rfl
        rw [Option.isNone_iff_eq_none, ← Option.not_isSome_iff_eq_none, Builder.isSome_withDeclared? h] at howner
        exact howner ⟨c, hc, rfl⟩
      · cases hsignature : ofSignature signature with
        | error cause =>
          simp only [hsignature, ite_self] at hmember
          exact ⟨_, rfl, (map_withLine_of_none fun c _ => hmember c.declared).symm⟩
        | ok types =>
          simp only [hsignature] at hmember
          exact ⟨_, rfl, classes_addMember_of_line h hmember⟩

theorem declared_withLine (line : String) (c : ClassEntry) : (withLine line c).declared = c.declared := by
  unfold withLine
  cases memberOf? c.declared line with
  | none => rfl
  | some m => exact c.declared_addMember m

/-- Line after line a class is given what the lines hold for its declared name. -/
theorem foldl_withLine (lines : List String) (c : ClassEntry) :
    lines.foldl (fun c line => withLine line c) c = (lines.filterMap (memberOf? c.declared)).foldl .addMember c := by
  induction lines generalizing c with
  | nil => rfl
  | cons line lines ih =>
    rw [List.foldl_cons, ih, declared_withLine]
    unfold withLine
    cases hline : memberOf? c.declared line with
    | none => rw [List.filterMap_cons_none hline]; rfl
    | some m => rw [List.filterMap_cons_some hline]; rfl

/-- The member list gives every class its members, in the order of the lines. -/
theorem classes_addMemberLines {b : Builder} (h : b.Made) (number : Nat) (lines : List String) :
    ∃ b', addMemberLines .lenient b number lines = .ok b' ∧
      b'.classes = b.classes.map fun c => (lines.filterMap (memberOf? c.declared)).foldl .addMember c := by
  simp only [← foldl_withLine]
  induction lines generalizing b number with
  | nil => exact ⟨b, rfl, (List.map_id _).symm⟩
  | cons line lines ih =>
    obtain ⟨b', hb', hclasses⟩ := classes_addMemberLine h.coherent (number + 1) line
    obtain ⟨b'', hb'', hrest⟩ := ih (made_addMemberLine h hb') (number + 1)
    refine ⟨b'', ?_, ?_⟩
    · rw [addMemberLines, hb']
      exact hb''
    · rw [hrest, hclasses, List.map_map]
      rfl

/-! ## Both files -/

/-- The classes that the lines of a class list name. -/
def named (classText : String) : List ClassEntry := (textLines classText).filterMap classOf?

/-- What the lines of a member list, if there is one, give to the class declared `owner`. -/
def given (memberText : Option String) (owner : String) : List NewMember :=
  ((memberText.map textLines).getD []).filterMap (memberOf? owner)

theorem read_classes (classText : String) (memberText : Option String) :
    ∃ t, read (.ofString classText) (memberText.map .ofString) .lenient = .ok t ∧
      t.classes.toList =
        (unreplaced (named classText)).map fun c => (given memberText c.declared).foldl .addMember c := by
  obtain ⟨hmade, hclasses⟩ := classes_foldl_addClassLine (textLines classText)
  have hread : readClasses (.ofString classText) .empty =
      (.atEnd (.ofString classText), (textLines classText).foldl addClassLine .empty) := by
    rw [readClasses_eq, LineCursor.lines_ofString]
  unfold read
  rw [hread]
  dsimp only
  rw [LineCursor.check_atEnd_ofString]
  cases memberText with
  | none =>
    refine ⟨_, rfl, ?_⟩
    rw [Builder.classes_build, hclasses]
    exact (List.map_id _).symm
  | some members =>
    obtain ⟨b', hb', hmembers⟩ :=
      classes_addMemberLines hmade (LineCursor.ofString members).number (textLines members)
    have hreadMembers :
        readMembers .lenient (.ofString members) ((textLines classText).foldl addClassLine .empty) =
          .ok (.atEnd (.ofString members), b') := by
      rw [readMembers_eq, LineCursor.lines_ofString, hb']
      rfl
    refine ⟨b'.build, ?_, ?_⟩
    · simp only [Option.map_some, hreadMembers]
      show ((LineCursor.atEnd (.ofString members)).check >>= fun _ => .ok b'.build) = .ok b'.build
      rw [LineCursor.check_atEnd_ofString]
      rfl
    · rw [Builder.classes_build, hmembers, hclasses]
      rfl

/-- Reading two texts, malformed records left out, gives the table that their lines describe. -/
theorem read_eq_described (classText : String) (memberText : Option String) :
    (∀ line c, classOf? line = some c ↔
      ∃ obfuscated declared, IsClassLine line obfuscated declared ∧ c = .ofNames declared obfuscated) ∧
    (∀ owner line m, memberOf? owner line = some m ↔ IsMemberLine owner line m) ∧
    ∃ t, read (.ofString classText) (memberText.map .ofString) .lenient = .ok t ∧
      t.classes.toList =
        (unreplaced (named classText)).map (fun c => (given memberText c.declared).foldl .addMember c) ∧
      ∀ c ∈ t.classes,
        c.methods.toList = (given memberText c.declared).filterMap NewMember.method? ∧
        c.fields = ((given memberText c.declared).filterMap NewMember.field?).foldl
          (fun fields (obfuscated, declared) => fields.insert obfuscated declared) .empty := by
  obtain ⟨t, hread, hclasses⟩ := read_classes classText memberText
  refine ⟨fun line c => classOf?_eq_some_iff, fun owner line m => memberOf?_eq_some_iff, t, hread, hclasses, ?_⟩
  intro c hc
  rw [← Array.mem_toList_iff, hclasses, List.mem_map] at hc
  obtain ⟨named, hnamed, rfl⟩ := hc
  obtain ⟨line, -, hline⟩ := List.mem_filterMap.1 (mem_of_mem_unreplaced hnamed)
  obtain ⟨obfuscated, declared, -, rfl⟩ := classOf?_eq_some_iff.1 hline
  have hname := ClassEntry.name_foldl_addMember (.ofNames declared obfuscated) (given memberText declared) .declared
  change ClassEntry.declared _ = declared at hname
  rw [ClassEntry.methods_foldl_addMember, ClassEntry.fields_foldl_addMember]
  simp only [ClassEntry.declared_ofNames, hname]
  exact ⟨rfl, rfl⟩

/-- A class list whose last line takes a name from each of the classes before it. -/
def replacingClasses : String := unlines ["a net/Block", "b net/Item", "# no class", "a net/Item"]

/-- Members of the class that is left, of one that was replaced, and a record whose signature is malformed. -/
def replacedMembers : String :=
  unlines ["net/Item x (I)V tick", "net/Block b hardness", "net/Item y (I tock", "net.Item b count"]

/-- One class is left, with the members of its declared name. -/
theorem read_described_of_replaced :
    ∃ t, read (.ofString replacingClasses) (some (.ofString replacedMembers)) .lenient = .ok t ∧
      ∃ c ∈ t.classes, c.obfuscated = "a" ∧ c.declared = "net.Item" ∧
        c.methods.toList = [⟨"void", "tick", "x", ["integer"]⟩] ∧ c.fields = Pairing.empty.insert "b" "count" := by
  have hnamed : unreplaced (named replacingClasses) = [.ofNames "net.Item" "a"] := by
    have hlines : textLines replacingClasses = ["a net/Block", "b net/Item", "# no class", "a net/Item"] := by
      decide +kernel
    have hclass (line obfuscated declared : String) (hskip : ¬(isComment line ∨ isBlankLine line))
        (hnames : classNames? line = some (obfuscated, declared)) :
        classOf? line = some (.ofNames declared obfuscated) := by
      rw [classOf?, if_neg hskip, hnames]
      rfl
    have hblock := hclass "a net/Block" "a" "net.Block" (by decide) (by decide +kernel)
    have hreplaced := hclass "b net/Item" "b" "net.Item" (by decide) (by decide +kernel)
    have hleft := hclass "a net/Item" "a" "net.Item" (by decide) (by decide +kernel)
    have hcomment : classOf? "# no class" = none := if_pos (by decide)
    simp [named, hlines, hblock, hreplaced, hleft, hcomment, unreplaced, ClassEntry.SharesName]
  have hgiven : given (some replacedMembers) "net.Item" =
      [.method ⟨"void", "tick", "x", ["integer"]⟩, .field "b" "count"] := by
    decide +kernel
  obtain ⟨_, _, t, hread, hclasses, hmembers⟩ := read_eq_described replacingClasses (some replacedMembers)
  have hmem :
      .ofMembers "net.Item" "a" [.method ⟨"void", "tick", "x", ["integer"]⟩, .field "b" "count"] ∈ t.classes := by
    rw [← Array.mem_toList_iff, hclasses, hnamed, List.map_singleton, ClassEntry.declared_ofNames, hgiven]
    exact List.mem_singleton_self _
  obtain ⟨hmethods, hfields⟩ := hmembers _ hmem
  rw [ClassEntry.declared_ofMembers, hgiven] at hmethods hfields
  exact ⟨t, hread, _, hmem, ClassEntry.obfuscated_ofMembers .., ClassEntry.declared_ofMembers .., hmethods, hfields⟩

end Flat

end NameBridge
