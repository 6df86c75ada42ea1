import FramedWire.Text.Width

/-!
# Boxed tables

A header and rows of cells in a box. A cell may have several lines; a column is as wide as
its widest line, with one blank on either side.
-/
namespace FramedWire.Text

abbrev Cell := List (List Char)

/-- The lines of a cell's text. -/
def cellOf (text : String) : Cell :=
  text.toList.foldr
    (fun c lines =>
      if c = '\n' then [] :: lines
      else
        match lines with
        | line :: lines => (c :: line) :: lines
        | [] => [[c]])
    [[]]

structure Table where
  header : List Cell
  rows : List (List Cell)

namespace Table

def columnWidths (t : Table) : List Nat :=
  (t.header :: t.rows).foldl
    (fun widths row => List.zipWith max widths (row.map fun cell => (cell.map width).foldl max 0))
    (t.header.map fun _ => 0)

/-- A line of the box: its left end, what fills it, what stands between columns, and its
right end. -/
def rule (left fill between right : Char) (widths : List Nat) : List Char :=
  [left] ++ [between].intercalate (widths.map fun w => List.replicate (w + 2) fill) ++ [right]

def pad (w : Nat) (line : List Char) : List Char :=
  ' ' :: line ++ List.replicate (w - width line) ' ' ++ [' ']

/-- The lines of one row; a cell that has fewer lines than another ends in empty ones. -/
def rowLines (widths : List Nat) (row : List Cell) : List (List Char) :=
  let height := (row.map List.length).foldl max 0
  (List.range height).map fun i =>
    ['│'] ++ ['┆'].intercalate (List.zipWith (fun w cell => pad w (cell[i]?.getD [])) widths row) ++
      ['│']

def lines (t : Table) : List (List Char) :=
  let widths := t.columnWidths
  let body := [rule '├' '╌' '┼' '┤' widths].intercalate (t.rows.map (rowLines widths))
  [rule '┌' '─' '┬' '┐' widths] ++ rowLines widths t.header ++ [rule '╞' '═' '╪' '╡' widths] ++
    body ++ [rule '└' '─' '┴' '┘' widths]

def text (t : Table) : String :=
  String.ofList (['\n'].intercalate t.lines)

end Table

end FramedWire.Text
