import NameBridge.Grammar.Basic
import NameBridge.Grammar.RetraceLine
import NameBridge.Table.Builder

/-!
The retrace grammar: blocks of a header and indented members.

A comment line may stand anywhere and never ends a block; any other line that is no member line
ends it, and is then looked at again as a line outside of blocks.
-/

namespace NameBridge.Retrace

/-- A class whose members are being read, and the counters so far. -/
structure Block where
  entry : ClassEntry
  stats : Stats

def Block.add (block : Block) : Member → Block
  | .constructor => { block with stats := block.stats.skipConstructor }
  | .method record => { block with entry := block.entry.insertMethod record }
  | .field obfuscated declared => { block with entry := block.entry.insertField obfuscated declared }
  | .unknown => { block with stats := block.stats.ignoreLine }

/-- Read the members of a block. -/
def readMembers (c : LineCursor) (block : Block) : LineCursor × Block :=
  match _h : c.take with
  | none => (c, block)
  | some (line, c') =>
    if isComment line then readMembers c' block
    else
      match memberBody? line with
      | some body => readMembers c' (block.add (.ofBody body))
      -- the line that ends the block stays ahead of the cursor
      | none => (c, block)
termination_by c.remaining
decreasing_by all_goals exact LineCursor.take_remaining_lt _h

theorem readMembers_remaining_le (c : LineCursor) (block : Block) :
    (readMembers c block).1.remaining ≤ c.remaining := by
  fun_induction readMembers c block with
  | case1 => exact Nat.le_refl _
  | case2 c block line c' h _ ih => exact Nat.le_trans ih (Nat.le_of_lt (LineCursor.take_remaining_lt h))
  | case3 c block line c' h _ body _ ih =>
    exact Nat.le_trans ih (Nat.le_of_lt (LineCursor.take_remaining_lt h))
  | case4 => exact Nat.le_refl _

/-- Read the lines outside of blocks; each header starts a block. -/
def readBlocks (c : LineCursor) (b : Table.Builder) : LineCursor × Table.Builder :=
  match _h : c.take with
  | none => (c, b)
  | some (line, c') =>
    if isComment line || isBlankLine line then readBlocks c' b
    else
      match header? line with
      | none => readBlocks c' (b.modifyStats (·.ignoreLine))
      | some (declared, obfuscated) =>
        let found := readMembers c' ⟨.ofNames declared obfuscated, b.stats⟩
        readBlocks found.1 ({ b with stats := found.2.stats }.insertClass found.2.entry)
termination_by c.remaining
decreasing_by
  · exact LineCursor.take_remaining_lt _h
  · exact LineCursor.take_remaining_lt _h
  · exact Nat.lt_of_le_of_lt (readMembers_remaining_le _ _) (LineCursor.take_remaining_lt _h)

/-- The table of a file in the retrace grammar. It holds no signatures, so the policy for malformed
records does not matter. -/
def read (lines : LineCursor) (_options : ReadOptions) : Except TableError Table := do
  let (c, b) := readBlocks lines .empty
  c.check
  return b.build

end NameBridge.Retrace
