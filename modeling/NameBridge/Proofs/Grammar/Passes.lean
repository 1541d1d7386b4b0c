import NameBridge.Grammar.Flat
import NameBridge.Grammar.Retrace
import NameBridge.Proofs.Text.Lines

/-!
Reading is one pass over the lines.

The loops of both grammars take line after line from a cursor. Here each is a fold over the list of
lines. For the retrace grammar the fold carries whether a block is open: the loop over blocks, the loop
over members inside it and the line they hand to each other come to one step per line
(`readBlocks_eq`).
-/

namespace NameBridge

open Table (Builder)

/-- Reading a text to its end does not fail. -/
theorem LineCursor.check_atEnd_ofString (s : String) : (ofString s).atEnd.check = .ok () := by
  simp only [check, takeFault, fault_ofString]

namespace Flat

theorem readClasses_eq (c : LineCursor) (b : Builder) : readClasses c b = (c.atEnd, c.lines.foldl addClassLine b) := by
  fun_induction readClasses c b with
  | case1 c b h =>
    obtain ⟨hlines, hend⟩ := LineCursor.lines_of_take_eq_none h
    rw [hlines, hend]
    rfl
  | case2 c b line c' h ih =>
    obtain ⟨hlines, hend⟩ := LineCursor.lines_of_take_eq_some h
    rw [ih, hlines, hend]
    rfl

/-- What the numbered lines of a member list add, up to the first that fails the file. -/
def addMemberLines (options : ReadOptions) (b : Builder) (number : Nat) : List String → Except TableError Builder
  | [] => .ok b
  | line :: lines => do
    let b' ← addMemberLine options b (number + 1) line
    addMemberLines options b' (number + 1) lines

theorem addMemberLines_append (options : ReadOptions) (b : Builder) (number : Nat) (lines lines' : List String) :
    addMemberLines options b number (lines ++ lines') =
      (addMemberLines options b number lines).bind (addMemberLines options · (number + lines.length) lines') := by
  induction lines generalizing b number with
  | nil => rfl
  | cons line lines ih =>
    rw [List.cons_append, addMemberLines, addMemberLines]
    cases addMemberLine options b (number + 1) line with
    | error e => rfl
    | ok b' =>
      show addMemberLines options b' (number + 1) (lines ++ lines') = _
      rw [ih, List.length_cons, Nat.add_right_comm, Nat.add_assoc number]
      rfl

theorem readMembers_eq (options : ReadOptions) (c : LineCursor) (b : Builder) :
    readMembers options c b = (addMemberLines options b c.number c.lines).map (c.atEnd, ·) := by
  fun_induction readMembers options c b with
  | case1 c b h =>
    obtain ⟨hlines, hend⟩ := LineCursor.lines_of_take_eq_none h
    rw [hlines, hend]
    rfl
  | case2 c b line c' h ih =>
    obtain ⟨hlines, hend⟩ := LineCursor.lines_of_take_eq_some h
    rw [hlines, hend, addMemberLines, ← LineCursor.number_take h]
    cases addMemberLine options b c'.number line with
    | error e => rfl
    | ok b' => exact ih b'

end Flat

namespace Retrace

/-- Where a pass over the lines stands: what has been built, and the class whose block is open. -/
structure Scan where
  builder : Builder
  current : Option ClassEntry

namespace Scan

/-- The builder once the open block, if there is one, is closed. -/
def close (s : Scan) : Builder :=
  match s.current with
  | some entry => s.builder.insertClass entry
  | none => s.builder

/-- A line outside of blocks that is no comment: a blank one, a header or one to ignore. -/
def outside (b : Builder) (line : String) : Scan :=
  if isBlankLine line then ⟨b, none⟩
  else
    match header? line with
    | some (declared, obfuscated) => ⟨b, some (.ofNames declared obfuscated)⟩
    | none => ⟨b.modifyStats (·.ignoreLine), none⟩

/-- A member line of the open block. -/
def member (b : Builder) (entry : ClassEntry) (m : Member) : Scan :=
  let block := (Block.mk entry b.stats).add m
  ⟨{ b with stats := block.stats }, some block.entry⟩

/-- One line. A comment changes nothing; a line that is no member of the open block closes it. -/
def line (s : Scan) (text : String) : Scan :=
  if isComment text then s
  else
    match s.current, memberBody? text with
    | some entry, some body => member s.builder entry (.ofBody body)
    | _, _ => outside s.close text

theorem line_comment {text : String} (h : isComment text = true) (s : Scan) : s.line text = s := by
  simp [line, h]

theorem line_member {text : String} {body : List Char} (h : ¬isComment text = true)
    (hbody : memberBody? text = some body) (b : Builder) (entry : ClassEntry) :
    line ⟨b, some entry⟩ text = member b entry (.ofBody body) := by
  simp [line, h, hbody]

theorem line_outside {text : String} (h : ¬isComment text = true) (b : Builder) :
    line ⟨b, none⟩ text = outside b text := by
  simp [line, h, close]

/-- A line that ends a block is looked at as if the block had been closed before. -/
theorem line_end {text : String} (h : ¬isComment text = true) (hbody : memberBody? text = none) (s : Scan) :
    s.line text = line ⟨s.close, none⟩ text := by
  rw [line_outside h]
  simp [line, h, hbody]

end Scan

/-- The members of a block, and then the lines after it. -/
theorem close_foldl_readMembers (c : LineCursor) (block : Block) (b : Builder) :
    (readMembers c block).1.atEnd = c.atEnd ∧
      (c.lines.foldl Scan.line ⟨{ b with stats := block.stats }, some block.entry⟩).close =
        ((readMembers c block).1.lines.foldl Scan.line
          ⟨{ b with stats := (readMembers c block).2.stats }.insertClass (readMembers c block).2.entry, none⟩).close := by
  fun_induction readMembers c block with
  | case1 c block h =>
    rw [(LineCursor.lines_of_take_eq_none h).1]
    exact ⟨rfl, rfl⟩
  | case2 c block text c' h hcomment ih =>
    obtain ⟨hlines, hend⟩ := LineCursor.lines_of_take_eq_some h
    rw [hlines, hend, List.foldl_cons, Scan.line_comment hcomment]
    exact ih
  | case3 c block text c' h hcomment body hbody ih =>
    obtain ⟨hlines, hend⟩ := LineCursor.lines_of_take_eq_some h
    rw [hlines, hend, List.foldl_cons, Scan.line_member hcomment hbody]
    exact ih
  | case4 c block text c' h hcomment hbody =>
    rw [(LineCursor.lines_of_take_eq_some h).1, List.foldl_cons, List.foldl_cons, Scan.line_end hcomment hbody]
    exact ⟨rfl, rfl⟩

/-- The loop over blocks takes every line once, one step each. -/
theorem readBlocks_eq (c : LineCursor) (b : Builder) :
    readBlocks c b = (c.atEnd, (c.lines.foldl Scan.line ⟨b, none⟩).close) := by
  fun_induction readBlocks c b with
  | case1 c b h =>
    obtain ⟨hlines, hend⟩ := LineCursor.lines_of_take_eq_none h
    rw [hlines, hend]
    rfl
  | case2 c b text c' h hskip ih =>
    obtain ⟨hlines, hend⟩ := LineCursor.lines_of_take_eq_some h
    rw [ih, hlines, hend, List.foldl_cons]
    congr 3
    by_cases hcomment : isComment text
    · rw [Scan.line_comment hcomment]
    · rw [Scan.line_outside hcomment, Scan.outside, if_pos (by simpa [hcomment] using hskip)]
  | case3 c b text c' h hskip hheader ih =>
    obtain ⟨hlines, hend⟩ := LineCursor.lines_of_take_eq_some h
    simp only [Bool.or_eq_true, not_or] at hskip
    rw [ih, hlines, hend, List.foldl_cons, Scan.line_outside hskip.1, Scan.outside, if_neg hskip.2, hheader]
  | case4 c b text c' h hskip declared obfuscated hheader found ih =>
    obtain ⟨hlines, hend⟩ := LineCursor.lines_of_take_eq_some h
    simp only [Bool.or_eq_true, not_or] at hskip
    obtain ⟨hfound, hfold⟩ := close_foldl_readMembers c' ⟨.ofNames declared obfuscated, b.stats⟩ b
    rw [ih, hlines, hend, List.foldl_cons, Scan.line_outside hskip.1, Scan.outside, if_neg hskip.2, hheader]
    exact Prod.ext hfound hfold.symm

end Retrace

end NameBridge
