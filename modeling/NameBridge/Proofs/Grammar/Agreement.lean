import NameBridge.Proofs.Grammar.Passes
import NameBridge.Proofs.Grammar.Rendering
import NameBridge.Proofs.Table.Listed

/-!
Both grammars say the same.

The flat grammar adds all classes without members first and then each member to the class that has the
declared name; the retrace grammar adds each class once its block has been read. For classes with different
names both end with the same builder (`Builder.listed`), so both files give the very same table.
-/

namespace NameBridge

open Table (Builder)

namespace ClassTerm

def bare (c : ClassTerm) : ClassEntry := .ofNames c.declared.text c.obfuscated.text

/-- The flat class list of these classes. -/
def flatClassText (spelling : ClassTerm → Spelling) (classes : List ClassTerm) : String :=
  unlines (classes.map fun c => c.flatLine (spelling c))

/-- The flat member list of these classes. -/
def flatMemberText (spelling : ClassTerm → Spelling) (classes : List ClassTerm) : String :=
  unlines (classes.flatMap fun c => c.flatMemberLines (spelling c))

/-- The file of these classes in the retrace grammar. -/
def retraceText (classes : List ClassTerm) : String := unlines (classes.flatMap retraceLines)

/-- No two classes share a name on either side. -/
structure Distinct (classes : List ClassTerm) : Prop where
  declared : (classes.map (·.declared.text)).Nodup
  obfuscated : (classes.map (·.obfuscated.text)).Nodup

theorem entry_eq_foldl (c : ClassTerm) :
    c.entry = c.members.foldl (fun entry m => entry.addMember m.newMember) c.bare := by
  rw [entry, ClassEntry.ofMembers, List.foldl_map]
  rfl

variable {classes : List ClassTerm}

theorem Distinct.foldl_insertClass (h : Distinct classes) {f : ClassTerm → ClassEntry}
    (hdeclared : ∀ c, (f c).declared = c.declared.text) (hobfuscated : ∀ c, (f c).obfuscated = c.obfuscated.text) :
    (classes.map f).foldl Builder.insertClass .empty = .listed (classes.map f) := by
  refine @Builder.foldl_insertClass_listed [] (classes.map f) ?_ ?_
  · simpa [Function.comp_def, hobfuscated] using h.obfuscated
  · simpa [Function.comp_def, hdeclared] using h.declared

end ClassTerm

/-! ## The flat file -/

namespace Flat

theorem foldl_addClassLine {classes : List ClassTerm} (h : ClassTerm.Distinct classes)
    (spelling : ClassTerm → Spelling) :
    (classes.map fun c => c.flatLine (spelling c)).foldl addClassLine .empty = .listed (classes.map ClassTerm.bare) := by
  have hline : (fun b c => addClassLine b (ClassTerm.flatLine (spelling c) c)) =
      fun b (c : ClassTerm) => b.insertClass c.bare :=
    funext fun b => funext fun c => addClassLine_flatLine (spelling c) c b
  rw [← h.foldl_insertClass (fun _ => rfl) (fun _ => rfl), List.foldl_map, List.foldl_map, hline]

variable (options : ReadOptions) {before after : List ClassEntry}

/-- The member lines of one class fill its place. -/
theorem addMemberLines_members {entry : ClassEntry} {n : ClassName} (hname : entry.declared = n.text)
    (hafter : entry.declared ∉ after.map (·.declared)) (slash : Nat → Bool) (number : Nat) (members : List MemberTerm) :
    addMemberLines options (.listed (before ++ entry :: after)) number
        (members.map (MemberTerm.flatLine (n.spelled slash))) =
      .ok (.listed (before ++ members.foldl (fun entry m => entry.addMember m.newMember) entry :: after)) := by
  induction members generalizing entry number with
  | nil => rfl
  | cons m members ih =>
    -- the class is found by its name as long as no later class has the same
    have hfound : ((Builder.listed (before ++ entry :: after)).withDeclared? n.text).isSome := by
      rw [← hname, Builder.withDeclared?_listed hafter]
      rfl
    have hadd : (Builder.listed (before ++ entry :: after)).modifyDeclared n.text (·.addMember m.newMember) =
        .listed (before ++ entry.addMember m.newMember :: after) := by
      rw [← hname]
      exact Builder.modifyDeclared_listed hafter (ClassEntry.declared_addMember ..) (ClassEntry.obfuscated_addMember ..)
    rw [List.map_cons, addMemberLines, addMemberLine_flatLine options hfound, hadd]
    have hname' : (entry.addMember m.newMember).declared = entry.declared := ClassEntry.declared_addMember ..
    exact ih (hname'.trans hname) (by rwa [hname']) (number + 1)

/-- The member list fills the places of all classes, one after the other. -/
theorem addMemberLines_classes {classes : List ClassTerm} (hdeclared : (classes.map (·.declared.text)).Nodup)
    (spelling : ClassTerm → Spelling) (number : Nat) :
    addMemberLines options (.listed (before ++ classes.map ClassTerm.bare)) number
        (classes.flatMap fun c => c.flatMemberLines (spelling c)) =
      .ok (.listed (before ++ classes.map ClassTerm.entry)) := by
  induction classes generalizing before number with
  | nil => rfl
  | cons c classes ih =>
    rw [List.map_cons, List.nodup_cons] at hdeclared
    have hafter : c.bare.declared ∉ (classes.map ClassTerm.bare).map (·.declared) := by
      simpa [Function.comp_def, ClassTerm.bare, ClassEntry.ofNames] using hdeclared.1
    rw [List.flatMap_cons, addMemberLines_append, List.map_cons, ClassTerm.flatMemberLines,
      addMemberLines_members options rfl hafter, ← ClassTerm.entry_eq_foldl, List.map_cons,
      List.append_cons before c.entry (classes.map ClassTerm.bare),
      List.append_cons before c.entry (classes.map ClassTerm.entry)]
    exact ih hdeclared.2 _

theorem read_flatText {classes : List ClassTerm} (h : ClassTerm.Distinct classes) (spelling : ClassTerm → Spelling) :
    read (.ofString (ClassTerm.flatClassText spelling classes))
        (some (.ofString (ClassTerm.flatMemberText spelling classes))) options =
      .ok (Builder.listed (classes.map ClassTerm.entry)).build := by
  have hclasses : ∀ line ∈ classes.map fun c => c.flatLine (spelling c), IsLine line := by
    intro line hline
    obtain ⟨c, _, rfl⟩ := List.mem_map.1 hline
    exact isLine_flatLine (spelling c) c
  have hmembers : ∀ line ∈ classes.flatMap fun c => c.flatMemberLines (spelling c), IsLine line := by
    intro line hline
    obtain ⟨c, _, hline⟩ := List.mem_flatMap.1 hline
    obtain ⟨m, _, rfl⟩ := List.mem_map.1 hline
    exact m.isLine_flatLine c.declared _
  rw [ClassTerm.flatClassText, ClassTerm.flatMemberText, read, readClasses_eq,
    LineCursor.lines_ofString_unlines hclasses, foldl_addClassLine h]
  simp only [LineCursor.check_atEnd_ofString, readMembers_eq,
    LineCursor.lines_ofString_unlines hmembers]
  have hfill := @addMemberLines_classes options [] classes h.declared spelling
  simp only [List.nil_append] at hfill
  simp only [hfill, bind, Except.bind, Except.map, LineCursor.check_atEnd_ofString]
  rfl

end Flat

/-! ## The retrace file -/

namespace Retrace

theorem line_retraceHeader (s : Scan) (c : ClassTerm) : s.line c.retraceHeader = ⟨s.close, some c.bare⟩ := by
  have hcomment : ¬isComment c.retraceHeader = true := by simp [isComment_retraceHeader]
  rw [Scan.line_end hcomment (memberBody?_retraceHeader c), Scan.line_outside hcomment, Scan.outside,
    isBlankLine_retraceHeader, header?_retraceHeader]
  rfl

theorem line_retraceLine (b : Builder) (entry : ClassEntry) (m : MemberTerm) :
    Scan.line ⟨b, some entry⟩ m.retraceLine = ⟨b, some (entry.addMember m.newMember)⟩ := by
  have hcomment : ¬isComment m.retraceLine = true := by simp [isComment_retraceLine]
  rw [Scan.line_member hcomment (memberBody?_retraceLine m), Scan.member]
  simp only [ofBody_retraceBody]

/-- The lines of a class close the block before and leave its own open. -/
theorem foldl_retraceLines (s : Scan) (c : ClassTerm) :
    c.retraceLines.foldl Scan.line s = ⟨s.close, some c.entry⟩ := by
  have hmembers (b : Builder) (entry : ClassEntry) (members : List MemberTerm) :
      (members.map MemberTerm.retraceLine).foldl Scan.line ⟨b, some entry⟩ =
        ⟨b, some (members.foldl (fun entry m => entry.addMember m.newMember) entry)⟩ := by
    induction members generalizing entry with
    | nil => rfl
    | cons m members ih => rw [List.map_cons, List.foldl_cons, line_retraceLine, ih, List.foldl_cons]
  rw [ClassTerm.retraceLines, List.foldl_cons, line_retraceHeader, hmembers, ClassTerm.entry_eq_foldl]

theorem close_foldl_retraceLines (s : Scan) (classes : List ClassTerm) :
    ((classes.flatMap ClassTerm.retraceLines).foldl Scan.line s).close =
      (classes.map ClassTerm.entry).foldl Builder.insertClass s.close := by
  induction classes generalizing s with
  | nil => rfl
  | cons c classes ih =>
    rw [List.flatMap_cons, List.foldl_append, foldl_retraceLines, ih]
    rfl

theorem read_retraceText {classes : List ClassTerm} (h : ClassTerm.Distinct classes) (options : ReadOptions) :
    read (.ofString (ClassTerm.retraceText classes)) options =
      .ok (Builder.listed (classes.map ClassTerm.entry)).build := by
  have hlines : ∀ line ∈ classes.flatMap ClassTerm.retraceLines, IsLine line := by
    intro line hline
    obtain ⟨c, _, hline⟩ := List.mem_flatMap.1 hline
    exact isLine_of_mem_retraceLines hline
  have hentries : (classes.map ClassTerm.entry).foldl Builder.insertClass .empty =
      .listed (classes.map ClassTerm.entry) :=
    h.foldl_insertClass (fun _ => ClassEntry.declared_ofMembers ..) (fun _ => ClassEntry.obfuscated_ofMembers ..)
  rw [ClassTerm.retraceText, read, readBlocks_eq, LineCursor.lines_ofString_unlines hlines, close_foldl_retraceLines]
  simp only [LineCursor.check_atEnd_ofString]
  rw [← hentries]
  rfl

end Retrace

/-- Classes with different names, written in either grammar, are read as the very same table: these classes in
this order, each with its members in order. -/
theorem grammars_agree {classes : List ClassTerm} (h : ClassTerm.Distinct classes) (spelling : ClassTerm → Spelling)
    (flatOptions retraceOptions : ReadOptions) :
    ∃ t, Flat.read (.ofString (ClassTerm.flatClassText spelling classes))
        (some (.ofString (ClassTerm.flatMemberText spelling classes))) flatOptions = .ok t ∧
      Retrace.read (.ofString (ClassTerm.retraceText classes)) retraceOptions = .ok t ∧
      t.classes.toList = classes.map ClassTerm.entry :=
  ⟨_, Flat.read_flatText flatOptions h spelling, Retrace.read_retraceText h retraceOptions,
    Builder.classes_build_listed _⟩

/-- A class whose field and method have types that the two grammars write differently. -/
def block : ClassTerm where
  declared := ⟨.ofString "net" (by decide) (by decide), [.ofString "Block" (by decide) (by decide)]⟩
  obfuscated := ⟨.ofString "a" (by decide) (by decide), []⟩
  members := [
    .field { element := .primitive .int } (.ofString "age" (by decide) (by decide))
      (.ofString "b" (by decide) (by decide)),
    .method { element := .primitive .boolean }
      [{ element := .primitive .int, dimensions := 2 },
        { element := .ofClass ⟨.ofString "Block" (by decide) (by decide), []⟩ (by decide) }]
      (.ofString "fits" (by decide) (by decide)) (.ofString "c" (by decide) (by decide))]

/-- A class with nothing but its names. -/
def item : ClassTerm where
  declared := ⟨.ofString "Item" (by decide) (by decide), []⟩
  obfuscated := ⟨.ofString "net" (by decide) (by decide), [.ofString "a" (by decide) (by decide)]⟩

/-- Class names with slashes in the class list and with dots in the member list. -/
def slashedClasses : Spelling := ⟨fun _ => true, fun _ => true, fun _ => false⟩

theorem grammars_agree_on_block_and_item :
    ∃ t, Flat.read (.ofString "a net/Block\nnet/a Item\n")
        (some (.ofString "net.Block b age\nnet.Block c ([[ILBlock;)Z fits\n")) {} = .ok t ∧
      Retrace.read (.ofString
        "net.Block -> a:\n    int age -> b\n    boolean fits(int[][],Block) -> c\nItem -> net.a:\n") {} = .ok t ∧
      t.classes.toList = [block.entry, item.entry] := by
  have hdistinct : ClassTerm.Distinct [block, item] := ⟨by decide, by decide⟩
  have h := grammars_agree hdistinct (fun _ => slashedClasses) {} {}
  have hclasses : ClassTerm.flatClassText (fun _ => slashedClasses) [block, item] =
      "a net/Block\nnet/a Item\n" := by decide
  have hmembers : ClassTerm.flatMemberText (fun _ => slashedClasses) [block, item] =
      "net.Block b age\nnet.Block c ([[ILBlock;)Z fits\n" := by decide
  have hretrace : ClassTerm.retraceText [block, item] =
      "net.Block -> a:\n    int age -> b\n    boolean fits(int[][],Block) -> c\nItem -> net.a:\n" := by decide
  rwa [hclasses, hmembers, hretrace] at h

end NameBridge
