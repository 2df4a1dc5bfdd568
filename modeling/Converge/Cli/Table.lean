import Converge.Text.Width
/-!
# Tables

Rows of cells as lines of text: a border around every cell, one space of padding, text at the
left.  A column is as wide as its widest line and a row as high as its highest cell.
-/

namespace Converge.Cli.Table

/-- The lines of a cell. -/
def cellLines : List Char → List (List Char)
  | [] => [[]]
  | c :: rest =>
    if c = '\n' then [] :: cellLines rest
    else
      match cellLines rest with
      | [] => [[c]]
      | line :: others => (c :: line) :: others

/-- The greatest of some numbers. -/
def greatest (ns : List Nat) : Nat := ns.foldl max 0

/-- The columns that a cell takes. -/
def cellWidth (cell : List (List Char)) : Nat := greatest (cell.map columns)

/-- The widths of the columns, of which there are `count`. -/
def widths : Nat → List (List (List (List Char))) → List Nat
  | 0, _ => []
  | count + 1, rows =>
    greatest (rows.map fun row => cellWidth (row.headD [])) :: widths count (rows.map List.tail)

/-- A line between rows. -/
def border (widths : List Nat) : List Char :=
  '+' :: widths.flatMap fun w => List.replicate (w + 2) '-' ++ ['+']

/-- A piece of a row: the same line of each of its cells. -/
def rowLine (i : Nat) : List Nat → List (List (List Char)) → List Char
  | w :: widths, cell :: cells =>
    let line := (cell[i]?).getD []
    ' ' :: line ++ List.replicate (w - columns line) ' ' ++ ' ' :: '|' :: rowLine i widths cells
  | _, _ => []

/-- The lines of a row. -/
def rowLines (widths : List Nat) (row : List (List (List Char))) : List (List Char) :=
  (List.range (greatest (row.map List.length))).map fun i => '|' :: rowLine i widths row

/-- The lines of a table, the first row being its header. -/
def lines (rows : List (List String)) : List (List Char) :=
  let rows := rows.map fun row => row.map fun cell => cellLines cell.toList
  let widths := widths ((rows.head?.map List.length).getD 0) rows
  border widths :: rows.flatMap fun row => rowLines widths row ++ [border widths]

/-- A table as text; there is no break after its last line. -/
def text (rows : List (List String)) : String :=
  "\n".intercalate ((lines rows).map String.ofList)

end Converge.Cli.Table
