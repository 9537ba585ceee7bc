import PluginReadme.Text.Basic

/-!
# Blank characters

A blank is white space in the widest sense: the control characters from tab to carriage return
and the four separators before the space, the space itself, next line, and every space, line and
paragraph separator. The zero width space and the byte order mark are not blank.
-/

namespace PluginReadme

def isBlank (c : Char) : Bool :=
  let n := c.toNat
  (0x09 ≤ n && n ≤ 0x0D) || (0x1C ≤ n && n ≤ 0x20) || n == 0x85 || n == 0xA0 || n == 0x1680 ||
    (0x2000 ≤ n && n ≤ 0x200A) || n == 0x2028 || n == 0x2029 || n == 0x202F || n == 0x205F ||
    n == 0x3000

namespace Text

def strip (t : Text) : Text := trim isBlank t

def stripLeft (t : Text) : Text := t.dropWhile isBlank

def stripRight (t : Text) : Text := dropEndWhile isBlank t

/-- A text of blanks only; the empty text is one. -/
def isBlankText (t : Text) : Bool := t.all isBlank

/-- Every run of `least` or more blanks becomes one space; `run` holds the blanks just read. -/
def collapseFrom (least : Nat) : Text → Text → Text
  | run, [] => if least ≤ run.length then " " else run.reverse
  | run, c :: rest =>
    if isBlank c then collapseFrom least (c :: run) rest
    else if run.isEmpty then c :: collapseFrom least [] rest
    else if least ≤ run.length then ' ' :: c :: collapseFrom least [] rest
    else run.reverse ++ c :: collapseFrom least [] rest

/-- Every run of two or more blanks becomes one space. -/
def collapseRuns (t : Text) : Text := collapseFrom 2 [] t

end Text

end PluginReadme
