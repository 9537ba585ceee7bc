import PluginReadme.Check.Verdict
import PluginReadme.Check.Marks

/-!
# Quick fixes

A quick fix mends one issue in the text it was reported for. There is no result when the fix does
not apply: the line is gone, or what it lacks is there already.
-/

namespace PluginReadme

inductive QuickFix where
  | replaceHeading
  | convertHashes
  | closeFence
  | closeBold
  | closeItalic
  | closeLink
  | insertField
  deriving DecidableEq, Repr

namespace QuickFix

def title : QuickFix → Text
  | .replaceHeading => "Fix malformed heading"
  | .convertHashes => "Convert to == heading =="
  | .closeFence => "Close code fence"
  | .closeBold => "Add closing **"
  | .closeItalic => "Add closing *"
  | .closeLink => "Add closing )"
  | .insertField => "Insert missing header field"

def ofCode? : Code → Option QuickFix
  | .malformedHeading => some .replaceHeading
  | .hashHeading => some .convertHashes
  | .unclosedFence => some .closeFence
  | .unbalancedBold => some .closeBold
  | .unbalancedItalic => some .closeItalic
  | .unclosedLink => some .closeLink
  | .missingField => some .insertField
  | _ => none

/-- The fix writes the suggestion of its issue. -/
def needsSuggestion : QuickFix → Bool
  | .replaceHeading | .convertHashes | .insertField => true
  | .closeFence | .closeBold | .closeItalic | .closeLink => false

/-- The suggestion of an issue; an empty one is none. -/
def suggestion? (issue : Issue) : Option Text :=
  issue.suggestion.filter fun t ↦ !t.isEmpty

def offered (issue : Issue) : List QuickFix :=
  match ofCode? issue.code with
  | some fix => if fix.needsSuggestion && (suggestion? issue).isNone then [] else [fix]
  | none => []

/-! ## Fixing lines -/

/-- The index of the line that an issue is at, and the line. -/
def target? (lines : List Text) (issue : Issue) : Option (Nat × Text) := do
  let number ← issue.line
  if 1 ≤ number then
    let index := (number - 1).toNat
    return (index, ← lines[index]?)
  else none

/-- The lines with a text after one of them, whose blanks at the end are dropped. -/
def appendTo (lines : List Text) (index : Nat) (mark : Text) : List Text :=
  lines.modify index fun line ↦ Text.stripRight line ++ mark

/-- Closes the last fence, after the lines that follow it without a blank one. -/
def withClosedFence? (lines : List Text) (index : Nat) (line : Text) : Option (List Text) :=
  let before := lines.take (index + 1)
  let after := lines.drop (index + 1)
  if !Fence.isFence line || after.any Fence.isFence then none
  else
    let inside := after.takeWhile fun other ↦ !Text.isBlankText other
    some (before ++ inside ++ Fence.mark :: after.drop inside.length)

/-- Inserts a field into the header: the name in front of everything, the description at the end
with an empty line after it, any other field after the last one that is there. -/
def withField (lines : List Text) (subject : Option Subject) (insertion : Text) : List Text :=
  let region := Header.regionOf lines
  let insertAt (index : Nat) (added : List Text) : List Text :=
    lines.take index ++ added ++ lines.drop index
  match subject with
  | some (.field .pluginName) => insertion :: lines
  | some (.field .shortDescription) => insertAt region.length [insertion, []]
  | _ =>
    let fields := region.zipIdx.filter fun (line, _) ↦ isHeaderField line
    match fields.getLast? with
    | some (_, index) => insertAt (index + 1) [insertion]
    | none => insertAt region.length [insertion]

def run (fix : QuickFix) (lines : List Text) (issue : Issue) : Option (List Text) := do
  match fix with
  | .insertField => return withField lines issue.subject (← suggestion? issue)
  | .replaceHeading | .convertHashes =>
    let (index, line) ← target? lines issue
    let heading ← suggestion? issue
    if line = heading then none else return lines.set index heading
  | .closeFence =>
    let (index, line) ← target? lines issue
    withClosedFence? lines index line
  | .closeBold =>
    let (index, line) ← target? lines issue
    if Check.boldCount line % 2 = 0 then none else return appendTo lines index Check.boldMark
  | .closeItalic =>
    let (index, line) ← target? lines issue
    if Check.italicCount line % 2 = 0 then none else return appendTo lines index "*"
  | .closeLink =>
    let (index, line) ← target? lines issue
    if Text.endsWith ")" (Text.stripRight line) then none else return appendTo lines index ")"

def issueOf? (t code : Text) (number : Nat) : Option Issue :=
  ((Verdict.of (Readme.ofText t) []).issues.filter fun issue ↦ issue.code.name == code)[number]?

def apply (t : Text) (issue : Issue) : Option Text := do
  let fix ← ofCode? issue.code
  return Text.join (Text.lineEnd t) (← fix.run (Text.lines t) issue)

end QuickFix

end PluginReadme
