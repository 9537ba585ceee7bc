import PluginReadme.Check.Verdict
import PluginReadme.Report.Bar
import PluginReadme.Terminal.Display

/-!
# Reports for people

A verdict on a terminal: the score with its band, a table of the categories, the first issues with
errors before everything else, and a conclusion.
-/

namespace PluginReadme.Report

variable [Display]

def mostShown : Nat := 10

/-! ## Categories -/

def inCategory (category : Category) (issues : List Issue) : List Issue :=
  issues.filter fun issue ↦ issue.code.category? == some category

/-- The score of a category: what a hundred points lose to its errors and its other issues. -/
def categoryScore (errors others : Nat) : Int :=
  max 0 (100 - (errors * Severity.penalty .error + others * Severity.penalty .warning : Nat))

/-- A number, or a hyphen for none. -/
def countText (n : Nat) : Text := if n = 0 then "-" else Text.ofNat n

def categoryRow (issues : List Issue) (category : Category) : List Text :=
  let found := inCategory category issues
  let errors := (found.filter (·.isError)).length
  let others := found.length - errors
  let score := categoryScore errors others
  [category.title, countText errors, countText others, Text.ofInt score, bar score 20]

def categoryColumns : List Terminal.Column :=
  [{ title := "Check", leastWidth := 14 }, { title := "Errors", atRight := true },
    { title := "Warnings", atRight := true }, { title := "Score", atRight := true },
    { title := "", leastWidth := 22 }]

def categoryTable (width : Nat) (issues : List Issue) : List Text :=
  Display.table width "Checks" categoryColumns (Category.all.map (categoryRow issues))

/-! ## Issues -/

/-- Errors come first, then issues on earlier lines; those without a line count as line zero. -/
def comesBefore (a b : Issue) : Bool :=
  let line (issue : Issue) : Int := issue.line.getD 0
  if a.isError = b.isError then line a ≤ line b else a.isError

/-- The issues that are shown, in order. -/
def shownIssues (issues : List Issue) : List Issue :=
  (issues.mergeSort comesBefore).take mostShown

/-- A number that is set and not zero. -/
def nonzero? (n : Option Int) : Option Int := n.filter (· != 0)

def placeText (issue : Issue) : Text :=
  let line := match nonzero? issue.line with
    | some n => "line " ++ Text.ofInt n
    | none => "file"
  let column := match nonzero? issue.column with
    | some n => ", column " ++ Text.ofInt n
    | none => []
  line ++ column

def advice? (issue : Issue) : Option Text :=
  match issue.suggestion.filter fun t ↦ !t.isEmpty with
  | some suggestion => some ("→ " ++ suggestion)
  | none => issue.hint.filter fun t ↦ !t.isEmpty

/-- The messages for an issue with its number in the report. -/
def issueMessages (issue : Issue) (number : Nat) : List Text :=
  let style : Text := if issue.isError then "red" else "yellow"
  let advice := match advice? issue with
    | some advice => ["     [dim]" ++ Display.escaped advice ++ "[/dim]"]
    | none => []
  ["  " ++ Text.ofNat number ++ ". [" ++ style ++ "]" ++ Display.escaped issue.message ++ "[/" ++
      style ++ "] [dim](" ++ issue.code.name ++ ")[/dim]",
    "     [dim]" ++ placeText issue ++ "[/dim]"] ++ advice

def issuesMessages (issues : List Issue) : List Text :=
  let shown := (shownIssues issues).zipIdx.flatMap fun (issue, index) ↦
    issueMessages issue (index + 1)
  let hidden := issues.length - mostShown
  "[bold]Issues[/bold]".toList :: shown ++
    if hidden = 0 then []
    else ["  [dim]... " ++ Text.ofNat hidden ++ " more issues not shown[/dim]"]

/-! ## Reports -/

def scorePanel (width : Nat) (target : Text) (verdict : Verdict) : List Text :=
  let rating := Rating.ofScore verdict.score
  Display.panel width (some "Readme quality")
    ("Score: " ++ Text.ofInt verdict.score ++ " / 100\n" ++ bar verdict.score 30 ++
      "\n\nRating: " ++ rating.title ++ "\n" ++ rating.description ++ "\n\nTarget: " ++ target)

def conclusion (width : Nat) (verdict : Verdict) : List Text :=
  let found : Text := if verdict.issues.isEmpty then "No issues found."
    else "Found " ++ Text.ofNat verdict.errors.length ++ " errors and " ++
      Text.ofNat verdict.warnings.length ++ " warnings"
  Display.panel width none ((Rating.ofScore verdict.score).title ++ "\n" ++ found)

def issueLines (width : Nat) (issues : List Issue) : Except StyleFault (List Text) := do
  if issues.isEmpty then return []
  return [] :: (← (issuesMessages issues).mapM (Display.lines width)).flatten

def overview (width : Nat) (target : Text) (verdict : Verdict) : Except StyleFault Text := do
  let issues ← issueLines width verdict.issues
  let lines := [[], Display.rule width "WordPress readme.txt report"] ++
    scorePanel width target verdict ++ [[]] ++ categoryTable width verdict.issues ++ issues ++
    [[]] ++ conclusion width verdict
  return lines.flatMap fun line ↦ line ++ ['\n']

end PluginReadme.Report
