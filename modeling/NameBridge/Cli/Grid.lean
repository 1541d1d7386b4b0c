import NameBridge.Text.Width

/-!
Grids: rows of cells in a frame with rounded corners.

The first row holds the titles and is set off from the others by a line. Cells are aligned to the
left with a blank on either side. Widths are counted in columns of the terminal, and a cell may have
several lines.
-/

namespace NameBridge.Grid

def cellLines (cell : String) : List (List Char) := cell.toList.splitOn '\n'

def cellColumns (cell : String) : Nat :=
  ((cellLines cell).map Text.lineColumns).foldl max 0

/-- The widths of the grid's columns: each holds its widest cell. -/
def widths : List (List String) → List Nat
  | [] => []
  | row :: rows =>
    let own := row.map cellColumns
    match widths rows with
    | [] => own
    | others => List.zipWith max own others

/-- A line of a cell filled up to a width. -/
def pad (width : Nat) (line : List Char) : String :=
  String.ofList (line ++ List.replicate (width - Text.lineColumns line) ' ')

def rule (left cross right : String) (ws : List Nat) : String :=
  left ++ String.intercalate cross
    (ws.map fun w => String.ofList (List.replicate (w + 2) '─')) ++ right

/-- The lines of a row: as many as its highest cell has. -/
def rowLines (ws : List Nat) (row : List String) : List String :=
  let cells := row.map cellLines
  let height := (cells.map (·.length)).foldl max 0
  (List.range height).map fun i =>
    let parts := List.zipWith (fun w lines => pad w (lines.getD i [])) ws cells
    "│ " ++ String.intercalate " │ " parts ++ " │"

/-- The grid of some titles and rows, one line after the other. -/
def render (titles : List String) (rows : List (List String)) : String :=
  let ws := widths (titles :: rows)
  String.intercalate "\n" <|
    [rule "╭" "┬" "╮" ws] ++ rowLines ws titles ++ [rule "├" "┼" "┤" ws] ++
      rows.flatMap (rowLines ws) ++ [rule "╰" "┴" "╯" ws]

end NameBridge.Grid
