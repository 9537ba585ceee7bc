import PluginReadme.Text.Blank
import PluginReadme.Text.Lines

/-!
# Headings

A heading stands between runs of equals signs: three for the name of the plugin, two for a section,
one for an item of a section. Each shape has blanks inside its marks, except that the name of the
plugin may touch them.
-/

namespace PluginReadme.Heading

def isMark (c : Char) : Bool := c == '='

/-- What stands between a run of `n` marks at the front and another one at the end. -/
def between? (n : Nat) (line : Text) : Option Text :=
  let marks := List.replicate n '='
  if 2 * n ≤ line.length && Text.startsWith marks line && Text.endsWith marks line then
    some ((line.drop n).take (line.length - 2 * n))
  else none

def isPadded (inside : Text) : Bool :=
  3 ≤ inside.length && inside.head?.any isBlank && inside.getLast?.any isBlank

/-- The title of a heading with `n` marks and blanks inside them. -/
def title? (n : Nat) (line : Text) : Option Text :=
  ((between? n line).filter isPadded).map Text.strip

/-- The title of the section that a line opens. -/
def section? (line : Text) : Option Text := title? 2 line

def isCanonical (line : Text) : Bool :=
  [3, 2, 1].any fun n ↦ (title? n line).isSome

/-- A name on one line; white space in place of a name counts unless it is line feeds only. -/
def isOneLine (inside : Text) : Bool :=
  let name := Text.strip inside
  if name.isEmpty then inside.any (· != '\n') else !name.contains '\n'

/-- The name of the plugin, which exactly three marks enclose. -/
def pluginName? (line : Text) : Option Text :=
  match between? 3 (Text.dropFinalFeed line) with
  | some inside =>
    if isOneLine inside && !inside.head?.any isMark && !inside.getLast?.any isMark then
      some (Text.strip inside)
    else none
  | none => none

def write (n : Nat) (title : Text) : Text :=
  let marks := List.replicate n '='
  marks ++ ' ' :: title ++ ' ' :: marks

/-- A well-formed heading for a line with marks: the longer of its two runs decides, and three marks
are the most there are. -/
def suggested? (line : Text) : Option Text :=
  let marks := max (line.takeWhile isMark).length (Text.takeEndWhile isMark line).length
  let title := Text.strip
    (Text.dropEndWhile isMark (Text.dropFinalFeed (line.dropWhile isMark)))
  if title.isEmpty then none else some (write (min 3 marks) title)

/-! ## Number signs -/

def isHash (c : Char) : Bool := c == '#'

/-- The title without the one to six number signs that close it. They have to stand apart, since a
word may end in one. -/
def withoutClosingHashes (title : Text) : Text :=
  let rest := Text.dropEndWhile isHash title
  let count := title.length - rest.length
  if 1 ≤ count && count ≤ 6 && rest.getLast?.any isBlank then Text.strip rest else Text.strip title

/-- The heading that a line with leading number signs stands for: one or two signs make a section,
more an item. -/
def ofHashes? (line : Text) : Option Text :=
  let body := Text.strip line
  let level := min 6 (body.takeWhile isHash).length
  let rest := body.drop level
  let title := Text.collapseRuns (withoutClosingHashes (Text.stripLeft rest))
  if level = 0 || rest.contains '\n' || title.isEmpty then none
  else some (write (if level ≤ 2 then 2 else 1) title)

/-- A picture, or a link around one, stands here. -/
def isPicture (t : Text) : Bool := Text.startsWith "!" t || Text.startsWith "[!" t

/-- The line starts with number signs and a blank, and what follows is no picture. -/
def isHashed (line : Text) : Bool :=
  match Text.stripLeft line with
  | '#' :: rest => (rest.dropWhile isHash).head?.any isBlank && !isPicture (Text.stripLeft rest)
  | _ => false

end PluginReadme.Heading
