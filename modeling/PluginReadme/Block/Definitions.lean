import PluginReadme.Block.Definition

/-!
# The link definitions of a document

The block structure of a document is walked once, container by container. Only the link definitions
are kept: a definition counts inside quotes and list items, but not inside code, HTML or a paragraph
that is under way. The first definition of a label wins.
-/

namespace PluginReadme.Block

/-! ## Blocks without blocks inside

Each function says how many lines, the first included, a block takes from a list of lines that
starts with it. -/

/-- Indented code: up to the last line indented as code before anything else. -/
def codeLength (frame : Frame) (lines : List Line) : Nat :=
  let run := lines.takeWhile fun line ↦ line.isBlank || frame.isCode line
  (run.reverse.dropWhile Line.isBlank).length

/-- The lines after an opening fence that belong to its block, with the closing fence. A line left
of the container ends the block. -/
def fencedTail (frame : Frame) (fence : Fence) : List Line → Nat
  | [] => 0
  | line :: rest =>
    if !line.isBlank && decide (line.indent < frame.margin) then 0
    else if !frame.isCode line && fence.closedBy line.body then 1
    else fencedTail frame fence rest + 1

/-- The lines after the first line of an HTML block that belong to it. The blank line that ends a
block does not; any other blank line does, and a line left of the container ends the block. -/
def htmlTail (frame : Frame) (kind : HtmlKind) : List Line → Nat
  | [] => 0
  | line :: rest =>
    if !line.isBlank && decide (line.indent < frame.margin) then 0
    else if kind.endsAt line.body then if line.isBlank then 0 else 1
    else htmlTail frame kind rest + 1

inductive Fault where
  /-- The text of an HTML block in a list runs up to a blank line without end, which is the last one
  and does not reach the margin. -/
  | pastEnd
  deriving DecidableEq, Repr

def Fault.message : Fault → Text
  | .pastEnd => "string index out of range"

/-- The last of the lines of an HTML block has neither an end nor what the margin asks for. -/
def endsShort (frame : Frame) (lines : List Line) : Bool :=
  lines.getLast?.any fun (line : Line) ↦
    line.isBlank && !line.ended && decide (line.indent < frame.margin)

def htmlLength (frame : Frame) (kind : HtmlKind) (line : Line) (window : List Line) :
    Except Fault Nat :=
  let length := if kind.endsAt line.body then 0 else htmlTail frame kind window
  if endsShort frame (window.take length) then .error .pastEnd else .ok (length + 1)

/-- The lines of a heading with the line under it, if one follows before the paragraph ends. -/
def underlined? (frame : Frame) : List Line → Option Nat
  | [] => none
  | line :: rest =>
    if line.isBlank then none
    else if frame.isCode line then (underlined? frame rest).map (· + 1)
    else if decide (frame.margin ≤ line.indent) && isUnderline line.body then some 2
    else if line.indent < 0 then (underlined? frame rest).map (· + 1)
    else if frame.ends .paragraph line then none
    else (underlined? frame rest).map (· + 1)

def Line.source (line : Line) : Text := if line.ended then line.body ++ ['\n'] else line.body

def definition? (frame : Frame) (number : Nat) (line : Line) (rest : List Line) :
    Option LinkDefinition :=
  LinkDefinition.read? number line.source
    ((rest.takeWhile (frame.continues .definition)).map Line.source)

/-! ## Containers -/

/-- The lines of a quote without their quote marks, from a line on; `emptied` says that the line
before held a quote mark only. A line without mark continues the quote unless it starts a block,
and then the second answer is true: nothing after it is seen from inside. -/
def quoteLines (frame : Frame) : (emptied : Bool) → List Line → List Line × Bool
  | _, [] => ([], false)
  | emptied, line :: rest =>
    if line.isBlank then ([], false)
    else if isQuoted line.body && !decide (line.indent < frame.margin) then
      let inner := line.unquote
      let (more, cut) := quoteLines frame inner.isBlank rest
      (inner :: more, cut)
    else if emptied then ([], false)
    else if frame.ends .quote line then ([], true)
    else
      let (more, cut) := quoteLines frame false rest
      ({ line with indent := -1 } :: more, cut)

/-- The next item of the same list starts on the line. -/
def nextItem? (frame : Frame) (mark : ListMark) (line : Line) : Option ListMark :=
  if decide (line.indent < frame.margin) || frame.isCode line || frame.ends .list line then none
  else
    match if mark.ordered then orderedMark? line.body else bulletMark? line.body with
    | some next => if next.sign == mark.sign then some next else none
    | none => none

/-- The lines taken by blocks, and the definitions in them. -/
abbrev Taken := Except Fault (Nat × List LinkDefinition)

mutual

/-- The lines taken by the blocks of a container and the definitions among them. The container has
`limit` of the lines; later ones can only continue a paragraph. -/
def blocks : (fuel : Nat) → Frame → (limit number : Nat) → List Line → Taken
  | 0, _, limit, _, _ => .ok (limit, [])
  | fuel + 1, frame, limit, number, lines =>
    let blanks := (lines.takeWhile Line.isBlank).length
    if limit = 0 then .ok (0, [])
    else if limit ≤ blanks then .ok (blanks, [])
    else
      match lines.drop blanks with
      | [] => .ok (blanks, [])
      | line :: rest =>
        if line.indent < frame.margin then .ok (blanks, [])
        else if maximalDepth ≤ frame.depth then .ok (limit, [])
        else do
          let (taken, found) ← block fuel frame (limit - blanks) (number + blanks) line rest
          let passed := blanks + taken
          let next := if passed < limit && ((line :: rest).drop taken).head?.any Line.isBlank
            then passed + 1 else passed
          let (more, later) ← blocks fuel frame (limit - next) (number + next) (lines.drop next)
          return (next + more, found ++ later)

/-- The lines taken by the block that starts on a line, and the definitions in it. -/
def block : (fuel : Nat) → Frame → (limit number : Nat) → Line → List Line → Taken
  | 0, _, limit, _, _, _ => .ok (limit, [])
  | fuel + 1, frame, limit, number, line, rest =>
    let window := rest.take (limit - 1)
    if frame.isCode line then .ok (codeLength frame (line :: window), [])
    else if let some fence := fence? line.body then .ok (fencedTail frame fence window + 1, [])
    else if isQuoted line.body then quote fuel frame number line window rest
    else if isRule line.body then .ok (1, [])
    else if let some mark := frame.list? line then items fuel frame limit number mark line rest
    else if let some definition := definition? frame number line rest then
      .ok (definition.endLine - number, [definition])
    else if let some kind := htmlKind? line.body then
      (htmlLength frame kind line window).map (·, [])
    else if isNumberHeading line.body then .ok (1, [])
    else if let some length := underlined? frame window then .ok (length, [])
    else .ok ((rest.takeWhile (frame.continues .paragraph)).length + 1, [])

def quote : (fuel : Nat) → Frame → (number : Nat) → Line → (window rest : List Line) → Taken
  | 0, _, _, _, window, _ => .ok (window.length + 1, [])
  | fuel + 1, frame, number, line, window, rest =>
    let first := line.unquote
    let (more, cut) := quoteLines frame first.isBlank window
    let inside := first :: more
    let seen := if cut then inside else inside ++ rest.drop more.length
    blocks fuel { frame with margin := 0, depth := frame.depth + 1 } inside.length number seen

def items : (fuel : Nat) → Frame → (limit number : Nat) → ListMark → Line → List Line → Taken
  | 0, _, limit, _, _, _, _ => .ok (limit, [])
  | fuel + 1, frame, limit, number, mark, line, rest => do
    let (first, margin) := line.enterItem mark
    let inner : Frame := ⟨margin, some frame.margin, frame.depth + 2⟩
    let (taken, found) ←
      if first.isBlank && rest.head?.all Line.isBlank then .ok (min 2 limit, [])
      else blocks fuel inner limit number (first :: rest)
    if limit ≤ taken then return (taken, found)
    else
      match (line :: rest).drop taken with
      | [] => return (taken, found)
      | next :: later =>
        match nextItem? frame mark next with
        | none => return (taken, found)
        | some mark =>
          let (more, others) ← items fuel frame (limit - taken) (number + taken) mark next later
          return (taken + more, found ++ others)

end

/-- Every block takes a line or is inside of another one, so this many steps suffice. -/
def enoughFuel (lines : List Line) : Nat := 3 * (lines.length + maximalDepth + 2)

/-- Keeps the first definition of each label. -/
def firstOfLabel : List LinkDefinition → List LinkDefinition
  | [] => []
  | definition :: more =>
    definition :: (firstOfLabel more).filter fun other ↦ other.label != definition.label

end PluginReadme.Block

namespace PluginReadme.LinkDefinition

/-- The definitions of a text, in order. -/
def collect (t : Text) : Except Block.Fault (List LinkDefinition) :=
  let lines := Block.linesOf (Block.normalize t)
  (Block.blocks (Block.enoughFuel lines) Block.Frame.outermost lines.length 0 lines).map fun taken ↦
    Block.firstOfLabel taken.2

end PluginReadme.LinkDefinition
