import NameBridge.Proofs.Grammar.Passes
import NameBridge.Proofs.Table.Replacement

/-!
The blocks of a retrace text, found in one pass.

An outline goes over the lines one at a time and knows nothing of builders or cursors: it lists the classes
whose blocks have ended, holds the class whose block is open, and counts. Adding the classes of the outline one
after the other gives the table that the two loops over a cursor give, and at the end the cursor has given every
line once (`read_eq_outline`).
-/

namespace NameBridge.Retrace

open Table (Builder)

/-! ## Outlines -/

/-- The blocks of the lines so far. -/
structure Outline where
  /-- The classes of the blocks that have ended, in order, with their members. -/
  ended : List ClassEntry := []
  /-- The class of the block that is open. -/
  current : Option ClassEntry := none
  ignoredLines : Nat := 0
  constructorsSkipped : Nat := 0

/-- The body of a line that is indented by four spaces and not more: the fifth character is not blank. -/
def indented? (line : String) : Option (List Char) :=
  match line.toList with
  | ' ' :: ' ' :: ' ' :: ' ' :: c :: cs => if Text.isBlank c then none else some (Text.trim (c :: cs))
  | _ => none

namespace Outline

/-- End the open block, if there is one. -/
def close (o : Outline) : Outline := { o with ended := o.ended ++ o.current.toList, current := none }

/-- A line outside of blocks that is no comment. -/
def outside (o : Outline) (line : String) : Outline :=
  if isBlankLine line then o
  else
    match header? line with
    | some (declared, obfuscated) => { o with current := some (.ofNames declared obfuscated) }
    | none => { o with ignoredLines := o.ignoredLines + 1 }

/-- A member of the block of `entry`: a constructor, else a method, else a field. -/
def member (o : Outline) (entry : ClassEntry) (body : List Char) : Outline :=
  if isConstructor body then { o with constructorsSkipped := o.constructorsSkipped + 1 }
  else
    match method? body with
    | some record => { o with current := some (entry.insertMethod record) }
    | none =>
      match field? body with
      | some (obfuscated, declared) => { o with current := some (entry.insertField obfuscated declared) }
      | none => { o with ignoredLines := o.ignoredLines + 1 }

/-- A comment changes nothing. Any other line is a member of the open block, or it ends the block and is looked
at as a line outside of blocks. -/
def line (o : Outline) (text : String) : Outline :=
  if isComment text then o
  else
    match o.current, indented? text with
    | some entry, some body => o.member entry body
    | _, _ => o.close.outside text

/-- The outline of all lines; the end of the text ends the last block. -/
def ofLines (lines : List String) : Outline := (lines.foldl line {}).close

/-- The classes of the ended blocks, added one after the other, and the two counts. -/
def builder (o : Outline) : Builder :=
  (o.ended.foldl Builder.insertClass .empty).modifyStats fun stats =>
    { stats with ignoredLines := o.ignoredLines, constructorsSkipped := o.constructorsSkipped }

end Outline

/-! ## Member lines -/

theorem after?_eq_some_iff {lead cs rest : List Char} : after? lead cs = some rest ↔ cs = lead ++ rest := by
  induction lead generalizing cs with
  | nil => simp [after?]
  | cons l lead ih =>
    cases cs with
    | nil => simp [after?]
    | cons c cs =>
      rw [after?, List.cons_append, List.cons.injEq]
      split
      · rename_i heq
        rw [ih, heq]
        simp
      · rename_i hne
        simp [Ne.symm hne]

theorem memberBody?_eq_indented? (line : String) : memberBody? line = indented? line := by
  unfold memberBody? indented?
  split
  · rename_i c cs hline
    have hbody : after? [' ', ' ', ' ', ' '] line.toList = some (c :: cs) := after?_eq_some_iff.2 hline
    rw [hbody]
    cases hc : Text.isBlank c with
    | true => simp [hc]
    | false => simp [hc, Text.trim, Text.trimStart]
  · rename_i hline
    cases hbody : after? [' ', ' ', ' ', ' '] line.toList with
    | none => rfl
    | some body =>
      rw [after?_eq_some_iff] at hbody
      cases body with
      | nil => rfl
      | cons c cs => exact absurd hbody (hline c cs)

example : indented? "    int count -> b " = some "int count -> b".toList ∧ indented? "     int count -> b" = none ∧
    indented? "\tint count -> b" = none := by
  decide

/-! ## The pass over a builder -/

namespace Outline

theorem classes_builder (o : Outline) : o.builder.classes = unreplaced o.ended := by
  unfold builder
  rw [Builder.classes_modifyStats, (Builder.classes_foldl_insertClass o.ended).2]

/-- Where the pass over a builder stands when the outline is `o`. -/
def scan (o : Outline) : Scan := ⟨o.builder, o.current⟩

theorem scan_close (o : Outline) : o.close.scan = ⟨o.scan.close, none⟩ := by
  unfold scan close Scan.close builder
  cases o.current with
  | none => simp only [Option.toList_none, List.append_nil]
  | some entry =>
    simp only [Option.toList_some, List.foldl_append, List.foldl_cons, List.foldl_nil, Builder.insertClass_modifyStats]

theorem scan_outside (o : Outline) (h : o.current = none) (line : String) :
    (o.outside line).scan = Scan.outside o.builder line := by
  unfold outside Scan.outside
  split
  · rw [scan, h]
  · cases header? line with
    | none => rw [scan, h]; rfl
    | some names => rfl

theorem scan_member (o : Outline) {entry : ClassEntry} (h : o.current = some entry) (body : List Char) :
    (o.member entry body).scan = Scan.member o.builder entry (.ofBody body) := by
  unfold member Member.ofBody
  split
  · rw [scan, h]; rfl
  · cases method? body with
    | some record => rfl
    | none =>
      cases field? body with
      | some names => rfl
      | none => rw [scan, h]; rfl

/-- One line takes the outline where it takes the builder and the open block. -/
theorem scan_line (o : Outline) (text : String) : (o.line text).scan = o.scan.line text := by
  -- a line that is no member closes the block on both sides before it is looked at
  have hclosed : (o.close.outside text).scan = Scan.outside o.scan.close text := by
    rw [scan_outside o.close rfl]
    exact congrArg (fun s : Scan => Scan.outside s.builder text) (scan_close o)
  unfold line Scan.line
  rw [memberBody?_eq_indented?]
  split
  · rfl
  · cases hcurrent : o.current with
    | none => simpa only [scan, hcurrent] using hclosed
    | some entry =>
      cases indented? text with
      | none => simpa only [scan, hcurrent] using hclosed
      | some body => simpa only [scan, hcurrent] using scan_member o hcurrent body

theorem scan_foldl_line (lines : List String) (o : Outline) :
    (lines.foldl line o).scan = lines.foldl Scan.line o.scan := by
  induction lines generalizing o with
  | nil => rfl
  | cons text lines ih => rw [List.foldl_cons, List.foldl_cons, ih, scan_line]

end Outline

/-- The two loops give what the outline of the lines gives. -/
theorem readBlocks_eq_outline (c : LineCursor) :
    readBlocks c .empty = (c.atEnd, (Outline.ofLines c.lines).builder) := by
  have hclose := Outline.scan_close (c.lines.foldl Outline.line {})
  rw [Outline.scan_foldl_line] at hclose
  rw [readBlocks_eq]
  exact Prod.ext rfl (congrArg Scan.builder hclose).symm

/-- Reading a text gives the table of the classes in its outline, with the outline's two counts, and every line
is taken once. -/
theorem read_eq_outline (text : String) (options : ReadOptions) :
    ∃ t, read (.ofString text) options = .ok t ∧
      t = (Outline.ofLines (textLines text)).builder.build ∧
      t.classes.toList = unreplaced (Outline.ofLines (textLines text)).ended ∧
      t.stats.ignoredLines = (Outline.ofLines (textLines text)).ignoredLines ∧
      t.stats.constructorsSkipped = (Outline.ofLines (textLines text)).constructorsSkipped ∧
      (readBlocks (.ofString text) .empty).1.peek = none ∧
      (readBlocks (.ofString text) .empty).1.number = (textLines text).length := by
  have hblocks := readBlocks_eq_outline (.ofString text)
  rw [LineCursor.lines_ofString] at hblocks
  rw [hblocks]
  generalize Outline.ofLines (textLines text) = o at hblocks ⊢
  have hread : read (.ofString text) options = .ok o.builder.build := by
    unfold read
    rw [hblocks]
    dsimp only
    rw [LineCursor.check_atEnd_ofString]
    rfl
  have hnumber : (LineCursor.ofString text).number = 0 := LineCursor.number_fill _ 0
  refine ⟨o.builder.build, hread, rfl, ?_, rfl, rfl, ?_, ?_⟩
  · rw [Builder.classes_build, Outline.classes_builder]
  · exact LineCursor.take_eq_none_iff.1 (LineCursor.take_atEnd _)
  · rw [LineCursor.number_atEnd, LineCursor.lines_ofString, hnumber, Nat.zero_add]

end NameBridge.Retrace
