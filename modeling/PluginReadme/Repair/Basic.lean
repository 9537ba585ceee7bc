import PluginReadme.Check.Marks
import PluginReadme.Repair.Chunk

/-!
# Repair

General markup becomes the markup of readmes: malformed headings get one of their shapes, number
signs become headings, fenced blocks become inline or indented code, and long runs of blank lines
are cut. A line that no rule fits stays as it is, and every change is logged.
-/

namespace PluginReadme

namespace Repair

/-- What becomes of fenced blocks of several lines. -/
inductive Style where
  | indented
  | fenced
  deriving DecidableEq, Repr, Inhabited

def Style.name : Style → Text
  | .indented => "indented"
  | .fenced => "fenced"

def Style.choices : List (Text × Style) :=
  ([.indented, .fenced] : List Style).map fun style ↦ (style.name, style)

inductive Change where
  | normalizedHeading (line : Nat)
  | closedHeading (line : Nat)
  | convertedHashes (level line : Nat)
  | removedBlock (line : Nat)
  | inlinedBlock (line : Nat)
  | unifiedIndentation (line : Nat)
  | normalizedBlock (count line : Nat)
  | removedLanguage (language : Text) (line : Nat)
  | indentedBlock (count line : Nat)
  | cutBlankLines
  deriving DecidableEq, Repr

def Change.message : Change → Text
  | .normalizedHeading line => "Normalized malformed heading at line " ++ Text.ofNat line
  | .closedHeading line =>
    "Added missing trailing equals to heading at line " ++ Text.ofNat line
  | .convertedHashes level line =>
    "Converted hash heading (level " ++ Text.ofNat level ++ ") to readme heading at line " ++
      Text.ofNat line
  | .removedBlock line => "Removed empty fenced block at line " ++ Text.ofNat line
  | .inlinedBlock line =>
    "Converted single-line fenced block at line " ++ Text.ofNat line ++ " to inline code"
  | .unifiedIndentation line =>
    "Normalized mixed indentation in code block starting line " ++ Text.ofNat line
  | .normalizedBlock count line =>
    "Normalized multi-line fenced block (" ++ Text.ofNat count ++ " lines) at line " ++
      Text.ofNat line
  | .removedLanguage language line =>
    "Removed language hint (" ++ language ++ ") from fenced block at line " ++ Text.ofNat line
  | .indentedBlock count line =>
    "Converted multi-line fenced block (" ++ Text.ofNat count ++ " lines) starting at line " ++
      Text.ofNat line ++ " to indented code block"
  | .cutBlankLines => "Collapsed excessive blank lines"

/-- Lines with the changes that led to them. -/
structure Outcome where
  lines : List Text
  changes : List Change
  deriving DecidableEq, Repr

/-! ## Headings -/

def headingOf (isSection : Bool) (title : Text) : Text :=
  Heading.write (if isSection then 2 else 1) title

/-- A line that starts with marks, cut into the marks in front, what they enclose, and the marks at
the end. Of a line of marks only, the last is the mark at the end and the one before it is
enclosed. -/
def enclosed (line : Text) : Nat × Text × Nat :=
  let body := line.dropWhile Heading.isMark
  if body.isEmpty then
    if line.length ≤ 2 then (line.length, [], 0) else (line.length - 2, "=", 1)
  else
    let inside := Text.dropEndWhile Heading.isMark body
    (line.length - body.length, inside, body.length - inside.length)

/-- The heading that a line with marks stands for, if it is not that heading already. A line between
three marks and three names the plugin. -/
def heading? (number : Nat) (line : Text) : Option (Text × Change) :=
  let trimmed := Text.strip line
  if Text.startsWith "    " line || Text.startsWith "\t" line || !Text.startsWith "=" trimmed then
    none
  else
    let (front, inside, back) := enclosed trimmed
    let title := Text.strip inside
    if title.isEmpty || (front = 3 && back = 3) then none
    else if back = 0 then
      if inside.head?.any isBlank then
        some (headingOf (2 ≤ front) title, .closedHeading number)
      else none
    else
      let heading := headingOf (2 ≤ front || 2 ≤ back) title
      if heading = line then none else some (heading, .normalizedHeading number)

/-- The heading that a line with number signs at its front stands for. -/
def hashHeading? (number : Nat) (line : Text) : Option (Text × Change) :=
  if Text.startsWith "#" line then
    (Heading.ofHashes? line).map fun heading ↦
      (heading, .convertedHashes (line.takeWhile Heading.isHash).length number)
  else none

def line (number : Nat) (line : Text) : Outcome :=
  match heading? number line <|> hashHeading? number line with
  | some (heading, change) => ⟨[heading], [change]⟩
  | none => ⟨[line], []⟩

/-! ## Blocks -/

/-- Four spaces in place of each tab at the front of a line. -/
def tabsToSpaces (line : Text) : Text :=
  let tabs := line.takeWhile (· == '\t')
  List.replicate (4 * tabs.length) ' ' ++ line.drop tabs.length

/-- Code between two backticks, with a backslash before every backtick inside. -/
def inlineCode (code : Text) : Text :=
  '\x60' :: Text.replaceAll ['\x60'] ['\\', '\x60'] (Text.strip code) ++ ['\x60']

def block (style : Style) (block : Block) : Outcome :=
  match block.lines with
  | [] => ⟨[], [.removedBlock block.number]⟩
  | [code] => ⟨[inlineCode code], [.inlinedBlock block.number]⟩
  | lines =>
    let unified := lines.map tabsToSpaces
    let mixed := if Check.mixesIndentation lines then [Change.unifiedIndentation block.number]
      else []
    match style with
    | .fenced =>
      let changed := if unified ≠ lines || !block.closed then
        [Change.normalizedBlock lines.length block.number] else []
      ⟨(Fence.mark ++ block.language) :: unified ++ [Fence.mark], mixed ++ changed⟩
    | .indented =>
      let language := if block.language.isEmpty then []
        else [Change.removedLanguage block.language block.number]
      ⟨unified.map fun code ↦ "    " ++ Text.stripLeft code,
        mixed ++ language ++ [.indentedBlock lines.length block.number]⟩

def chunk (style : Style) : Chunk → Outcome
  | .line number content => line number content
  | .block content => block style content

/-! ## Blank lines -/

/-- The lines with at most two blank ones in a row, which become empty; `run` blank lines were just
before. -/
def cutBlanksFrom (run : Nat) : List Text → List Text
  | [] => []
  | line :: rest =>
    if Text.isBlankText line then
      if run < 2 then [] :: cutBlanksFrom (run + 1) rest else cutBlanksFrom (run + 1) rest
    else line :: cutBlanksFrom 0 rest

def cutBlanks (lines : List Text) : Outcome :=
  let kept := cutBlanksFrom 0 lines
  ⟨kept, if kept.length < lines.length then [.cutBlankLines] else []⟩

/-! ## Readmes -/

def lines (style : Style) (lines : List Text) : Outcome :=
  let outcomes := (chunks lines).map (chunk style)
  let cut := cutBlanks (outcomes.flatMap (·.lines))
  ⟨cut.lines, outcomes.flatMap (·.changes) ++ cut.changes⟩

end Repair

structure Repaired where
  text : Text
  changes : List Repair.Change
  deriving DecidableEq, Repr

def repair (style : Repair.Style) (t : Text) : Repaired :=
  let outcome := Repair.lines style (Text.lines t)
  ⟨Text.join (Text.lineEnd t) outcome.lines, outcome.changes⟩

end PluginReadme
