import PluginReadme.Check.Issue
import PluginReadme.Readme.Fence
import PluginReadme.Readme.Heading

/-!
# Issues of the markup

Headings that have none of the three shapes, fences and emphasis without a partner, links that stay
open, and code whose indentation mixes tabs with spaces.
-/

namespace PluginReadme.Check

/-! ## Headings -/

/-- A line that starts with a mark and has no shape of a heading. -/
def isMalformed (line : Text) : Bool :=
  let trimmed := Text.strip line
  Text.startsWith "=" trimmed && !Heading.isCanonical trimmed

def malformedHeadings (lines : List Text) : List Issue :=
  (lines.zipIdx.filter fun (line, _) ↦ isMalformed line).map fun (line, index) ↦
    let suggestion := Heading.suggested? (Text.strip line)
    { severity := .error
      code := .malformedHeading
      message := "Malformed readme heading syntax"
      line := some (index + 1)
      column := some 1
      endColumn := some line.length
      suggestion
      hint := suggestion.map fun heading ↦
        "Use proper heading format, e.g. \"" ++ heading ++ "\"" }

def hashHeadings (lines : List Text) : List Issue :=
  (lines.zipIdx.filter fun (line, _) ↦ Heading.isHashed line).map fun (line, index) ↦
    { Issue.warning .hashHeading
        "Hash (#) style headings are not standard in WordPress plugin readme" with
      line := some (index + 1)
      suggestion := Heading.ofHashes? line
      hint := some "Use == Section == or = Sub Item = syntax instead".toList }

/-! ## Fences -/

def unclosedFence (lines : List Text) : List Issue :=
  let fences := lines.zipIdx.filter fun (line, _) ↦ Fence.isFence line
  match fences.getLast? with
  | some (_, index) =>
    if fences.length % 2 = 1 then
      [{ (Issue.warning .unclosedFence
          ("Unclosed fenced code block (" ++ Fence.mark ++ ")")).onLine (some (index + 1)) with
        hint := some ("Close the fenced block or convert to indented / inline code " ++
          "for WordPress").toList }]
    else []
  | none => []

/-! ## Emphasis -/

def boldMark : Text := "**"

def boldCount (t : Text) : Nat := Text.countOf boldMark t

/-- The number of asterisks that are left when all pairs are taken out. -/
def italicCount (t : Text) : Nat := (Text.replaceAll boldMark [] t).count '*'

def lastLineWhere? (holds : Text → Bool) (lines : List Text) : Option Nat :=
  (lines.zipIdx.reverse.find? fun (line, _) ↦ holds line).map (·.2 + 1)

def unbalancedEmphasis (lines : List Text) (source : Text) : List Issue :=
  let bold := if boldCount source % 2 = 1 then
    [{ (Issue.warning .unbalancedBold "Unbalanced bold markers (**)").onLine
        (lastLineWhere? (Text.occurs boldMark) lines) with
      hint := some "Ensure bold sections use pairs of ** markers".toList }] else []
  let italic := if italicCount source % 2 = 1 then
    [{ (Issue.warning .unbalancedItalic "Unbalanced italic markers (*)").onLine
        (lastLineWhere? (fun line ↦ 0 < italicCount line) lines) with
      hint := some "Ensure italic sections use pairs of * markers".toList }] else []
  bold ++ italic

/-! ## Links -/

/-- A bracket opens here, and the address after its partner has no end. -/
def isOpenLink : Text → Bool
  | '[' :: rest =>
    match rest.dropWhile (· != ']') with
    | ']' :: '(' :: address => !address.contains ')'
    | _ => false
  | _ => false

/-- A bracket without a partner opens here. -/
def isOpenBracket : Text → Bool
  | '[' :: rest => !rest.contains ']'
  | _ => false

def unclosedLinksOn (line : Text) (number : Nat) : List Issue :=
  let link := match Text.offset? isOpenLink line with
    | some offset =>
      [{ (Issue.warning .unclosedLink "Possible unclosed markdown link").spanning number offset
          line.length with
        suggestion := some (Text.stripRight line ++ ")")
        hint := some "Close the ) or ensure WordPress compatible formatting".toList }]
    | none => []
  let bracket := match Text.offset? isOpenBracket line with
    | some offset =>
      [(Issue.warning .unclosedBracket "Unclosed [ bracket - malformed link or formatting").spanning
        number offset line.length]
    | none => []
  link ++ bracket

def unclosedLinks (lines : List Text) : List Issue :=
  lines.zipIdx.flatMap fun (line, index) ↦ unclosedLinksOn line (index + 1)

/-! ## Indentation -/

/-- Four spaces or a tab, and something that is not blank after them. -/
def isIndentedCode (line : Text) : Bool :=
  (Text.startsWith "    " line || Text.startsWith "\t" line) && !Text.isBlankText line

/-- A block of code with the number of its first line. -/
structure CodeBlock where
  fenced : Bool
  firstLine : Nat
  lines : List Text

/-- The block that the collected lines make; no lines make none. -/
def CodeBlock.ofCollected (fenced : Bool) (collected : List (Text × Nat)) : List CodeBlock :=
  match collected.reverse with
  | [] => []
  | (line, index) :: more => [⟨fenced, index + 1, line :: more.map (·.1)⟩]

/-- The blocks of code from a line on: the lines between fences, and outside of them the runs of
indented lines. The lines collected so far come last first. -/
def codeBlocksFrom (fenced : Bool) (collected : List (Text × Nat)) :
    List (Text × Nat) → List CodeBlock
  | [] => CodeBlock.ofCollected fenced collected
  | (line, index) :: rest =>
    if Fence.isFence line then
      CodeBlock.ofCollected fenced collected ++ codeBlocksFrom (!fenced) [] rest
    else if fenced || isIndentedCode line then
      codeBlocksFrom fenced ((line, index) :: collected) rest
    else CodeBlock.ofCollected fenced collected ++ codeBlocksFrom false [] rest

def codeBlocks (lines : List Text) : List CodeBlock := codeBlocksFrom false [] lines.zipIdx

/-- Some lines start with a tab and some with a space. -/
def mixesIndentation (lines : List Text) : Bool :=
  lines.any (Text.startsWith "\t") && lines.any (Text.startsWith " ")

def mixedIndentation (lines : List Text) : List Issue :=
  ((codeBlocks lines).filter fun block ↦ mixesIndentation block.lines).map fun block ↦
    let kind : Text := if block.fenced then "Mixed tabs and spaces inside fenced code block"
      else "Mixed indentation inside indented code block"
    { (Issue.warning .mixedIndentation
        (kind ++ " (block starting at line " ++ Text.ofNat block.firstLine ++ ")")).onLine
        (some block.firstLine) with
      hint := some "Use spaces consistently for indentation".toList }

/-- The issues of the markup apart from headings between equals signs. -/
def markup (lines : List Text) (source : Text) : List Issue :=
  unclosedFence lines ++ hashHeadings lines ++ unbalancedEmphasis lines source ++
    unclosedLinks lines ++ mixedIndentation lines

end PluginReadme.Check
