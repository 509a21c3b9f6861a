import MailSearch.CommandLine.Layout

/-!
# Tables

Text in columns, with a head row and a box around it. A cell that is wider than its column is broken
into lines, and a row is as high as its highest cell.
-/

namespace MailSearch.CommandLine

/-- A column: its title and the width of its cells. -/
structure Column where
  title : String
  width : Nat
  deriving DecidableEq, Repr

namespace Table

open Layout

/-- A line across the table, with what it is drawn with at both ends and between columns. -/
def across (opening junction closing : Char) (pieces : List (List Char)) : List Char :=
  opening :: [junction].intercalate pieces ++ [closing]

def rule (opening junction closing : Char) (widths : List Nat) : List Char :=
  across opening junction closing (widths.map fun width => List.replicate (width + 2) '─')

/-- A line of a cell, with one blank on either side. -/
def cellLine (width : Nat) (line : List Char) : List Char :=
  ' ' :: pad width line ++ [' ']

/-- A row: the lines of its cells side by side. A cell with fewer lines than others has blank ones at
its end. -/
def row (widths : List Nat) (cells : List String) : List (List Char) :=
  let columns := List.zipWith (fun width cell => (width, lay .ellipsis width cell)) widths cells
  let height := (columns.map fun (_, lines) => lines.length).foldl max 0
  (List.range height).map fun i =>
    across '│' '│' '│' (columns.map fun (width, lines) => cellLine width (lines.getD i []))

def lines (columns : List Column) (rows : List (List String)) : List (List Char) :=
  let widths := columns.map Column.width
  rule '╭' '┬' '╮' widths :: row widths (columns.map Column.title) ++
    rule '├' '┼' '┤' widths :: rows.flatMap (row widths) ++ [rule '╰' '┴' '╯' widths]

end Table

end MailSearch.CommandLine
