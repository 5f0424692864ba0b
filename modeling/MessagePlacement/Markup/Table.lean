import MessagePlacement.Markup.Render

/-!
# Tables

A table is printed as a title, centred over the table, a row of headers in heavy lines and
the rows in light lines.  Every column is as wide as the longest line of its cells, with a
blank at each side, and a cell of several lines makes its row higher.  Headers and cells
may hold markup.
-/

namespace MessagePlacement

/-- A column: its header and on which side its cells are aligned. -/
structure Column where
  header : String
  alignsRight : Bool := false
  deriving DecidableEq, Repr

/-- A table. -/
structure Table where
  title : String
  columns : List Column
  rows : List (List String)
  deriving DecidableEq, Repr

namespace Table

/-- The four signs of a horizontal line: left end, filling, crossing, right end. -/
structure Rule where
  left : String
  fill : Char
  crossing : String
  right : String

/-- The line above the headers. -/
def topRule : Rule := ⟨"┏", '━', "┳", "┓"⟩

/-- The line below the headers. -/
def headerRule : Rule := ⟨"┡", '━', "╇", "┩"⟩

/-- The line below the rows. -/
def bottomRule : Rule := ⟨"└", '─', "┴", "┘"⟩

/-- A number of blanks. -/
def blanks (n : Nat) : String := String.ofList (List.replicate n ' ')

/-- The greatest member of a list. -/
def greatest (ns : List Nat) : Nat := ns.foldl max 0

/-- A horizontal line over columns of the given widths. -/
def rule (r : Rule) (widths : List Nat) : String :=
  r.left ++ Text.join r.crossing (widths.map fun w => String.ofList (List.replicate (w + 2) r.fill))
    ++ r.right

/-- The lines of a row of cells, each given by its width and its lines, between vertical
signs. -/
def row (vertical : String) (cells : List (Nat × List String)) : List String :=
  let height := greatest (cells.map fun (_, lines) => lines.length)
  (List.range height).map fun i =>
    let line := cells.map fun (width, lines) => lines[i]?.getD (blanks width)
    vertical ++ " " ++ Text.join (" " ++ vertical ++ " ") line ++ " " ++ vertical

/-- A title centred over a width. -/
def centred (width : Nat) (title : String) : String :=
  let left := (width - Text.width title) / 2
  blanks left ++ title ++ blanks (width - Text.width title - left)

/-- The cells of the `i`th column without their markup, the header first. -/
def renderColumn (t : Table) (c : Column) (i : Nat) : Except Fault (List Markup.Rendered) :=
  (c.header :: t.rows.map fun cells => cells[i]?.getD "").mapM Markup.render

/-- The cells of a column by their width and their lines. -/
def layColumn (c : Column) (cells : List Markup.Rendered) : List (Nat × List String) :=
  let width := greatest (cells.map fun cell => Text.longestLine cell.text)
  cells.map fun cell => (width, (Text.layLines c.alignsRight width cell.text).map String.ofList)

/-- The rows of columns of some height. -/
def rowsOf {α : Type} (height : Nat) (columns : List (List α)) : List (List α) :=
  columns.foldr (List.zipWith (· :: ·)) (List.replicate height [])

/-- The lines of a table of a title, a row of headers and further rows. -/
def lines (title : String) : List (List (Nat × List String)) → List String
  | [] => []
  | headers :: rows =>
    let widths := headers.map (·.1)
    let top := rule topRule widths
    [centred (Text.width top) title, top] ++ row "┃" headers ++ [rule headerRule widths]
      ++ rows.flatMap (row "│") ++ [rule bottomRule widths]

/-- A table as it is printed. -/
def printed (t : Table) : Except Fault String := do
  let columns ← t.columns.zipIdx.mapM fun (c, i) => t.renderColumn c i
  columns.forM fun cells => cells.forM Markup.Rendered.readStyles
  let laid := (t.columns.zip columns).map fun (c, cells) => layColumn c cells
  let rows := rowsOf (t.rows.length + 1) laid
  pure (Text.join "" ((lines t.title rows).map (· ++ "\n")))

end Table

end MessagePlacement
