import PluginReadme.Text.Lines

/-!
# Lines inside containers

Block structure sees a line as its content and the column at which that content starts. Quote marks
and list marks are taken off the front, so a line inside a container is a line again, with columns
counted from the container's edge.
-/

namespace PluginReadme.Block

def isSpaceOrTab (c : Char) : Bool := c == ' ' || c == '\t'

/-- A line at some depth of containers. -/
structure Line where
  /-- The column of the content; a negative one marks a line that continues a paragraph of a quote
  without a quote mark. -/
  indent : Int
  /-- The column of the container's edge, from which tab stops are counted. -/
  edge : Nat
  /-- What follows the white space at the front; empty for a blank line. -/
  body : Text
  /-- A line feed follows. -/
  ended : Bool
  deriving DecidableEq, Repr

def Line.isBlank (line : Line) : Bool := line.body.isEmpty

/-- Passes spaces and tabs from a column on, with tab stops every four columns from the edge; the
column reached and the text left. -/
def passSpace (edge : Nat) : Nat → Text → Nat × Text
  | column, ' ' :: rest => passSpace edge (column + 1) rest
  | column, '\t' :: rest => passSpace edge (column + (4 - (column + edge) % 4)) rest
  | column, t => (column, t)

def Line.ofText (t : Text) (ended : Bool) : Line :=
  let (column, body) := passSpace 0 0 t
  { indent := column, edge := 0, body, ended }

/-- The lines of a document. White space after the last line feed is no line. -/
def linesOf (t : Text) : List Line :=
  let pieces := Text.splitOn '\n' t
  let last := pieces.getLastD []
  pieces.dropLast.map (Line.ofText · true) ++
    if last.all isSpaceOrTab then [] else [Line.ofText last false]

/-- The text as block structure sees it: line feeds end lines, and the null character is replaced.
-/
def normalize (t : Text) : Text :=
  (Text.unifyLineEnds t).map fun c ↦ if c.toNat == 0 then Char.ofNat 0xFFFD else c

/-! ## Taking off marks -/

/-- The line after its quote mark and the one space that may follow; a tab after the mark counts as
that space and leaves the columns that remain of it. -/
def Line.unquote (line : Line) : Line :=
  let inner := line.indent.toNat + 1
  match line.body.tail with
  | ' ' :: rest =>
    let (column, body) := passSpace line.edge (inner + 1) rest
    { line with indent := column - (inner + 1), edge := inner + 1, body }
  | '\t' :: rest =>
    if (line.edge + inner) % 4 == 3 then
      let (column, body) := passSpace line.edge (inner + 1) rest
      { line with indent := column - (inner + 1), edge := inner + 1, body }
    else
      let (column, body) := passSpace (line.edge + 1) inner ('\t' :: rest)
      { line with indent := column - inner, edge := inner + 1, body }
  | rest =>
    let (column, body) := passSpace line.edge inner rest
    { line with indent := column - inner, edge := inner, body }

/-- A list mark: whether it counts, its number, the character that ends it, its length and what
follows it. -/
structure ListMark where
  ordered : Bool
  number : Nat
  sign : Char
  length : Nat
  rest : Text
  deriving DecidableEq, Repr

def atGap (t : Text) : Bool :=
  match t with
  | [] => true
  | c :: _ => isSpaceOrTab c

/-- Up to nine digits, then a point or a closing parenthesis. -/
def orderedMark? (body : Text) : Option ListMark :=
  let digits := body.takeWhile Char.isDigit
  match body.drop digits.length with
  | sign :: rest =>
    if 1 ≤ digits.length && digits.length ≤ 9 && (sign == '.' || sign == ')') && atGap rest then
      let number := digits.foldl (fun n c ↦ n * 10 + (c.toNat - 0x30)) 0
      some ⟨true, number, sign, digits.length + 1, rest⟩
    else none
  | [] => none

def bulletMark? (body : Text) : Option ListMark :=
  match body with
  | sign :: rest =>
    if (sign == '*' || sign == '-' || sign == '+') && atGap rest then some ⟨false, 0, sign, 1, rest⟩
    else none
  | [] => none

def listMark? (body : Text) : Option ListMark := orderedMark? body <|> bulletMark? body

/-- The first line of a list item without its mark, and the column that the item's lines have to
reach. White space of more than four columns belongs to the content. -/
def Line.enterItem (line : Line) (mark : ListMark) : Line × Nat :=
  let initial := line.indent.toNat + mark.length
  let (column, body) := passSpace line.edge initial mark.rest
  let gap := if body.isEmpty || 4 < column - initial then 1 else column - initial
  ({ line with indent := column, body }, initial + gap)

end PluginReadme.Block
