import PluginReadme.Block.Html

/-!
# Lines that start a block

Which block a line starts depends on the line and on the containers around it alone. A line that
starts a block ends a paragraph before it, with exceptions for lists and HTML.
-/

namespace PluginReadme.Block

/-- The containers around a line, as far as the rules look at them. -/
structure Frame where
  /-- The column that the lines of the innermost list item have to reach. -/
  margin : Nat
  /-- The margin around the innermost list. -/
  outerMargin : Option Nat
  /-- The number of containers; a list and its item are two. -/
  depth : Nat
  deriving DecidableEq, Repr

def Frame.outermost : Frame := ⟨0, none, 0⟩

/-- Blocks inside this many containers are not looked at. -/
def maximalDepth : Nat := 20

/-- Indented as code, relative to the container. -/
def Frame.isCode (frame : Frame) (line : Line) : Bool := 4 ≤ line.indent - frame.margin

structure Fence where
  sign : Char
  length : Nat
  deriving DecidableEq, Repr

/-- The fence that a line opens. After backticks no backtick may follow. -/
def fence? (body : Text) : Option Fence :=
  match body with
  | sign :: _ =>
    let run := body.takeWhile (· == sign)
    if (sign == '\x60' || sign == '~') && 3 ≤ run.length &&
        !(sign == '\x60' && (body.drop run.length).contains '\x60') then
      some ⟨sign, run.length⟩
    else none
  | [] => none

/-- A line that closes the fence: as many of its characters at least, and nothing else. -/
def Fence.closedBy (fence : Fence) (body : Text) : Bool :=
  let run := body.takeWhile (· == fence.sign)
  fence.length ≤ run.length && (body.drop run.length).all isSpaceOrTab

def isQuoted (body : Text) : Bool := body.head? == some '>'

/-- At least three of one mark, with spaces between them at most. -/
def isRule (body : Text) : Bool :=
  match body with
  | sign :: _ =>
    (sign == '*' || sign == '-' || sign == '_') &&
      body.all (fun c ↦ c == sign || isSpaceOrTab c) && 3 ≤ body.countP (· == sign)
  | [] => false

/-- One to six number signs, then white space or the end. -/
def isNumberHeading (body : Text) : Bool :=
  let run := body.takeWhile (· == '#')
  1 ≤ run.length && run.length ≤ 6 && atGap (body.drop run.length)

def isUnderline (body : Text) : Bool :=
  match body with
  | sign :: _ => (sign == '=' || sign == '-') && (body.dropWhile (· == sign)).all isSpaceOrTab
  | [] => false

/-- A line of a deeper item that is too far left for its list continues a paragraph. -/
def Frame.isStray (frame : Frame) (line : Line) : Bool :=
  match frame.outerMargin with
  | some outer => decide (4 ≤ line.indent - outer) && decide (line.indent < frame.margin)
  | none => false

def Frame.list? (frame : Frame) (line : Line) : Option ListMark :=
  if frame.isCode line || frame.isStray line then none else listMark? line.body

/-- What a line may put an end to. -/
inductive Running where
  | paragraph
  | definition
  | quote
  | list
  deriving DecidableEq, Repr

/-- A list ends what is running. A paragraph at the container's margin is ended only by an item
with content, and by a counted one only if it starts at one. -/
def Frame.listEnds (frame : Frame) (running : Running) (line : Line) : Bool :=
  match frame.list? line with
  | some mark =>
    !(running == .paragraph && decide (frame.margin ≤ line.indent) &&
      ((mark.ordered && mark.number != 1) || mark.rest.all isSpaceOrTab))
  | none => false

/-- A line that starts another block ends what is running before it. -/
def Frame.ends (frame : Frame) (running : Running) (line : Line) : Bool :=
  !frame.isCode line &&
    ((fence? line.body).isSome || isQuoted line.body || isRule line.body ||
      (running != .list &&
        (frame.listEnds running line || isNumberHeading line.body ||
          (match htmlKind? line.body with
            | some kind => kind != .tag
            | none => false))))

/-- A line that continues what is running: it is not blank, and it is indented as code, marked as
a continuation, or starts no other block. -/
def Frame.continues (frame : Frame) (running : Running) (line : Line) : Bool :=
  !line.isBlank && (frame.isCode line || decide (line.indent < 0) || !frame.ends running line)

end PluginReadme.Block
