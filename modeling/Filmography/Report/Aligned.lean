import Filmography.Text.Width

/-!
# Aligned text

Lines of cells are aligned by padding cells with spaces. A cell that another cell follows is as wide
as the widest such cell above and below it, as far as lines have one in its place without a gap, and
two spaces more. The last cell of a line is not padded.

In text, a tab ends a cell and a line feed ends a line.
-/

namespace Filmography.Aligned

/-- The least width of a padded cell, not counting the spaces after it. -/
def minWidth : Nat := 4

/-- The count of spaces between a padded cell and the next one. -/
def gap : Nat := 2

/-- Replace every number by the greatest of the run of numbers to which it belongs. With `sofar` the
greatest of the run that leads up to the list, this also tells the greatest of that whole run. -/
def levelFrom (sofar : Nat) : List (Option Nat) → Nat × List (Option Nat)
  | [] => (sofar, [])
  | none :: l => (sofar, none :: (levelFrom minWidth l).2)
  | some w :: l =>
    let r := levelFrom (max sofar w) l
    (r.1, some r.1 :: r.2)

/-- Replace every number by the greatest of the run of numbers to which it belongs, or by the least
width if that is greater. -/
def level (l : List (Option Nat)) : List (Option Nat) :=
  (levelFrom minWidth l).2

/-- The width of the cell at place `j` of the cells of a line, if another cell follows it. -/
def cellWidth? (j : Nat) (cells : List Text) : Option Nat :=
  if j + 1 < cells.length then cells[j]?.map Text.width else none

/-- Pad a cell to a width. -/
def pad (width : Nat) (cell : Text) : Text :=
  cell ++ List.replicate (width - Text.width cell + gap) ' '

/-- Pad the cells at place `j`. -/
def alignColumn (lines : List (List Text)) (j : Nat) : List (List Text) :=
  List.zipWith
    (fun line width? =>
      match width? with
      | none => line
      | some width => line.modify j (pad width))
    lines (level (lines.map (cellWidth? j)))

/-- Pad the cells at all places. -/
def alignCells (lines : List (List Text)) : List (List Text) :=
  (List.range ((lines.map List.length).foldl max 0)).foldl alignColumn lines

/-- Align the cells of a text. -/
def align (t : Text) : Text :=
  let lines := (Text.splitOn '\n' t).map (Text.splitOn '\t')
  Text.joined ['\n'] ((alignCells lines).map List.flatten)

end Filmography.Aligned
