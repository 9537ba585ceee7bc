import PluginReadme.Text.Basic

/-!
# Lines

A line of a readme ends with a line feed, alone or after a carriage return; a carriage return that
stands alone belongs to its line. Files of settings and rules know more line ends.
-/

namespace PluginReadme

namespace Text

/-- The lines of a readme, without their ends. There is always at least one. -/
def lines : Text → List Text
  | [] => [[]]
  | '\n' :: rest => [] :: lines rest
  | '\r' :: '\n' :: rest => [] :: lines rest
  | c :: rest => consFirst c (lines rest)

def dropFinalFeed (t : Text) : Text := if t.getLast? = some '\n' then t.dropLast else t

/-- A carriage return stands before a line feed. -/
def hasCarriageReturn (t : Text) : Bool := occurs "\r\n" t

/-- The line end in use: one carriage return before a line feed makes it that pair. -/
def lineEnd (t : Text) : Text := if hasCarriageReturn t then "\r\n" else "\n"

/-- Every line end, a lone carriage return included, becomes a line feed. -/
def unifyLineEnds : Text → Text
  | [] => []
  | '\r' :: '\n' :: rest => '\n' :: unifyLineEnds rest
  | '\r' :: rest => '\n' :: unifyLineEnds rest
  | c :: rest => c :: unifyLineEnds rest

/-- The control characters and separators that end a line in the widest sense. -/
def isLineBreak (c : Char) : Bool :=
  let n := c.toNat
  (0x0A ≤ n && n ≤ 0x0D) || (0x1C ≤ n && n ≤ 0x1E) || n == 0x85 || n == 0x2028 || n == 0x2029

/-- The lines in the widest sense, each with its end; a last line without end is one only if it is
not empty. `line` holds the characters of the line just read, last first. -/
def wideLinesFrom : Text → Text → List Text
  | line, [] => if line.isEmpty then [] else [line.reverse]
  | line, '\r' :: '\n' :: rest => ('\n' :: '\r' :: line).reverse :: wideLinesFrom [] rest
  | line, c :: rest =>
    if isLineBreak c then (c :: line).reverse :: wideLinesFrom [] rest
    else wideLinesFrom (c :: line) rest

def wideLines (t : Text) : List Text := wideLinesFrom [] t

/-- The lines in the widest sense, without their ends. -/
def bareWideLines (t : Text) : List Text := (wideLines t).map (dropEndWhile isLineBreak)

end Text

end PluginReadme
