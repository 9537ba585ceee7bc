import PluginReadme.Terminal.Wrap

/-!
# Rules, panels and tables

The figures of a terminal report, as lines of a given number of columns.
-/

namespace PluginReadme.Terminal

def bar (n : Nat) : Text := List.replicate n '─'

/-- A title between two lines that fill the width; the right one takes what does not divide. -/
def titled (width : Nat) (title : Text) : Text :=
  let room := width - Text.width title - 2
  bar (room / 2) ++ ' ' :: title ++ ' ' :: bar (room - room / 2)

/-- A text in a frame, which may have a title. -/
def panel (width : Nat) (title : Option Text) (content : Text) : List Text :=
  let top := match title with
    | some title => titled (width - 2) title
    | none => bar (width - 2)
  let rows := (wrapped (width - 4) content).map fun line ↦
    ("│ " : Text) ++ padded (width - 4) line ++ " │"
  ('╭' :: top ++ ['╮']) :: rows ++ ['╰' :: bar (width - 2) ++ ['╯']]

/-- A column of a table: its title, the least width it has, and whether its cells stand at its
right. -/
structure Column where
  title : Text
  leastWidth : Nat := 0
  atRight : Bool := false

def Column.width (column : Column) (cells : List Text) : Nat :=
  (column.title :: cells).foldr (fun cell width ↦ max (Text.width cell) width) column.leastWidth

/-- A cell with a space at either side. -/
def Column.cell (column : Column) (width : Nat) (content : Text) : Text :=
  let space := List.replicate (width - Text.width content) ' '
  ' ' :: (if column.atRight then space ++ content else content ++ space) ++ [' ']

def table (title : Text) (columns : List Column) (rows : List (List Text)) : List Text :=
  let sized := columns.zipIdx.map fun (column, index) ↦
    (column, column.width (rows.filterMap (·[index]?)))
  let line (cells : List Text) : Text :=
    (sized.zipWith (fun (column, width) cell ↦ column.cell width cell) cells).flatten
  let width := sized.foldr (fun (_, width) whole ↦ width + 2 + whole) 0
  padded width title :: line (columns.map (·.title)) :: rows.map line

end PluginReadme.Terminal
