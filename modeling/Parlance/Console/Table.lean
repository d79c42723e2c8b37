import Parlance.Text.Width

/-!
# Tables

A table in a frame: a line of headings and below it the rows. Every column is as wide as the widest
line of its texts in terminal columns, with a blank at both sides, and one more blank stands between
two columns. A row has as many lines as the longest of its texts.
-/

namespace Parlance.Table

/-- The edition of the Unicode data by which tables count columns. -/
def edition : Text.Edition := .v18

/-- The columns that a line takes. -/
def lineWidth (line : List Char) : Nat :=
  Text.width edition line

/-- The lines of a text. Only a line feed ends one. -/
def textLines (text : String) : List (List Char) :=
  text.toList.splitOn '\n'

/-- The width of the widest line of some texts. -/
def widest (texts : List String) : Nat :=
  ((texts.flatMap textLines).map lineWidth).foldl max 0

/-- The widths of the columns of some rows. -/
def columnWidths (count : Nat) (rows : List (List String)) : List Nat :=
  (List.range count).map fun i => widest (rows.map fun row => row.getD i "")

/-- A character so many times. -/
def repeated (count : Nat) (c : Char) : String :=
  String.ofList (List.replicate count c)

/-- A line in a column. -/
def cell (width : Nat) (line : List Char) : String :=
  " " ++ String.ofList line ++ repeated (width - lineWidth line) ' ' ++ " "

/-- A line of a row in its frame. -/
def rowLine (widths : List Nat) (parts : List (List Char)) : String :=
  "│" ++ String.intercalate " " (List.zipWith cell widths parts) ++ "│"

/-- The lines of a row in its frame. A text that ends before the longest one leaves its column
blank. -/
def rowLines (widths : List Nat) (row : List String) : List String :=
  let texts := row.map textLines
  let height := (texts.map List.length).foldl max 0
  (List.range height).map fun i => rowLine widths (texts.map fun text => text.getD i [])

/-- A line of the frame. -/
def ruler (widths : List Nat) (left middle right : Char) : String :=
  let inner := widths.foldr (fun width total => width + 2 + total) 0 + (widths.length - 1)
  left.toString ++ repeated inner middle ++ right.toString

/-- The lines of a table. -/
def lines (headings : List String) (rows : List (List String)) : List String :=
  let widths := columnWidths headings.length (headings :: rows)
  [ruler widths '┌' '─' '┐'] ++ rowLines widths headings ++ [ruler widths '╞' '═' '╡'] ++
    rows.flatMap (rowLines widths) ++ [ruler widths '└' '─' '┘']

/-- A table. -/
def render (headings : List String) (rows : List (List String)) : String :=
  String.intercalate "\n" (lines headings rows)

end Parlance.Table
