import Determinize.Text.Style
import Determinize.Text.Width

/-!
Grids of text, drawn with rounded frames. All cells of a column are as wide as the widest line
in it and all cells of a row as high as the highest one, texts are aligned to the left and to the
top, and a rule divides the header from the rows below it.
-/

namespace Determinize.Text

/-- A text in a grid, which may be bold. -/
inductive Cell where
  | plain (text : String)
  | bold (text : String)
  deriving DecidableEq, Repr

/-- A grid: its header and its other rows. -/
structure Grid where
  header : List Cell
  rows : List (List Cell)
  deriving DecidableEq, Repr

namespace Cell

/-- A cell as it is written: bold text stands between a sequence that makes it bold and one that
switches all styles off. -/
def written : Cell → List Char
  | .plain text => text.toList
  | .bold text => styleSequence [1] ++ text.toList ++ styleSequence [0]

/-- The lines of a cell. -/
def lines (cell : Cell) : List (List Char) := styledLines cell.written

def width (cell : Cell) : Nat := (cell.lines.map columns).foldl max 0

def height (cell : Cell) : Nat := cell.lines.length

/-- Line `index` of a cell that is `width` columns wide, between blanks. -/
def drawLine (cell : Cell) (width index : Nat) : List Char :=
  let line := (cell.lines[index]?).getD []
  ' ' :: line ++ List.replicate (width - columns line + 1) ' '

end Cell

namespace Grid

/-- The widths of the columns. -/
def widths (grid : Grid) : List Nat :=
  grid.rows.foldl (fun widths row => List.zipWith max widths (row.map Cell.width))
    (grid.header.map Cell.width)

/-- A frame line between two corners, with a mark between columns. -/
def rule (left mark right : String) (widths : List Nat) : String :=
  left ++ mark.intercalate (widths.map fun w => "".pushn '─' (w + 2)) ++ right

/-- The lines of a row. -/
def drawRow (widths : List Nat) (row : List Cell) : List String :=
  (List.range ((row.map Cell.height).foldl max 1)).map fun index =>
    "│" ++ String.join
      (List.zipWith (fun cell width => String.ofList (cell.drawLine width index) ++ "│") row widths)

/-- The lines of a grid with its frame. -/
def drawLines (grid : Grid) : List String :=
  let widths := grid.widths
  rule "╭" "┬" "╮" widths :: drawRow widths grid.header ++
    rule "├" "┼" "┤" widths :: grid.rows.flatMap (drawRow widths) ++
    [rule "╰" "┴" "╯" widths]

/-- A grid with its frame, without a line feed at the end. -/
def draw (grid : Grid) : String := "\n".intercalate grid.drawLines

end Grid

end Determinize.Text
