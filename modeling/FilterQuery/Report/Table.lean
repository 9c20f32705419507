/-!
# Tables of text

A table is a list of rows, each on a line of its own. Cells stand in columns two spaces apart. The
first column is aligned to the right and the others to the left. The last column is not filled up,
so that no line ends in blanks that are not part of a cell. Only the last column may hold characters
whose width is not one.
-/

namespace FilterQuery.Report

/-- The larger of two widths, column by column. -/
def widen : List Nat → List Nat → List Nat
  | a :: as, b :: bs => max a b :: widen as bs
  | as, [] => as
  | [], bs => bs

/-- The width of each column. -/
def columnWidths (rows : List (List String)) : List Nat :=
  (rows.map fun row => row.map String.length).foldl widen []

/-- A cell with blanks in front of it. -/
def padLeft (width : Nat) (cell : String) : String :=
  "".pushn ' ' (width - cell.length) ++ cell

/-- A cell with blanks after it. -/
def padRight (width : Nat) (cell : String) : String :=
  cell.pushn ' ' (width - cell.length)

/-- Fills up the cells after the first one, but not the last. -/
def fillRest : List Nat → List String → List String
  | width :: widths, cell :: next :: cells =>
    padRight width cell :: fillRest widths (next :: cells)
  | _, cells => cells

/-- Fills up the cells of a row. -/
def fillRow : List Nat → List String → List String
  | width :: widths, cell :: cells => padLeft width cell :: fillRest widths cells
  | _, cells => cells

/-- The text of a table. -/
def table (rows : List (List String)) : String :=
  let widths := columnWidths rows
  String.join (rows.map fun row => "  ".intercalate (fillRow widths row) ++ "\n")

end FilterQuery.Report
