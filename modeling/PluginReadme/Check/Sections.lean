import PluginReadme.Check.Issue
import PluginReadme.Readme.Document
import PluginReadme.Text.Scan

/-!
# Issues of the sections

Some sections belong to every readme, the description comes first, and what a section holds depends
on its title.
-/

namespace PluginReadme

namespace Section

def standardTitles : List Text :=
  ([ "Description", "Installation", "Frequently Asked Questions", "Screenshots", "Changelog",
    "Upgrade Notice" ] : List String).map String.toList

def recommendedTitles : List Text := standardTitles.take 5

end Section

namespace Check

/-! ## Marks inside sections -/

def hasNumberedLine (content : Text) : Bool :=
  (Text.splitOn '\n' content).any fun line ↦
    let rest := line.dropWhile isDecimal
    rest.length < line.length && Text.startsWith "." rest

/-- How far the reading of a question has come after its first mark: nothing but line feeds, blanks,
the question itself, or blanks on the lines after it. -/
inductive QuestionState where
  | opened
  | blank
  | asked
  | ended

/-- A mark that ends its line closes the question that is being read. -/
def closesQuestion : QuestionState → Text → Bool
  | _, [] => false
  | state, c :: rest =>
    let closes := c == '=' && (rest.isEmpty || Text.startsWith "\n" rest)
    match state with
    | .opened =>
      closesQuestion (if c == '\n' then .opened else if isBlank c then .blank else .asked) rest
    | .blank => closes || closesQuestion (if isBlank c then .blank else .asked) rest
    | .asked => closes || closesQuestion (if c == '\n' then .ended else .asked) rest
    | .ended => closes || (isBlank c && closesQuestion .ended rest)

/-- A question stands between two marks, the first at the start of a line and the second at the end
of the same or a later one; the question itself is on one line. -/
def hasQuestionFrom : (lineStart : Bool) → Text → Bool
  | _, [] => false
  | lineStart, c :: rest =>
    (lineStart && c == '=' && closesQuestion .opened rest) || hasQuestionFrom (c == '\n') rest

def hasQuestion (content : Text) : Bool := hasQuestionFrom true content

/-- A version between marks, which start and end a line. -/
def versionMark : Recogniser Unit := fun before t ↦
  match t with
  | '=' :: rest =>
    let isPart (c : Char) : Bool := isDecimal c || c == '.'
    let number := Text.stripLeft rest
    match Text.stripLeft (number.dropWhile isPart) with
    | '=' :: tail =>
      if before.all (· == '\n') && number.head?.any isPart &&
          (tail.isEmpty || Text.startsWith "\n" tail) then
        some ((), t.length - tail.length - 1)
      else none
    | _ => none
  | _ => none

def betweenMarks : List (Piece Unit) → List Text
  | [] => [[]]
  | .plain c :: rest => Text.consFirst c (betweenMarks rest)
  | .mark _ :: rest => [] :: betweenMarks rest

/-- The texts after the version marks. -/
def notices (content : Text) : List Text :=
  (betweenMarks (Scan.pieces versionMark content)).drop 1

def hasVersion (content : Text) : Bool := !(notices content).isEmpty

/-! ## Sections -/

/-- What is wrong with the content of a section, given its title in small letters. -/
def contentFaults (title content : Text) : List (Code × String) :=
  let fault (holds : Bool) (code : Code) (message : String) : List (Code × String) :=
    if holds then [(code, message)] else []
  if title = "description".toList then
    fault (content.length < 100) .descriptionTooShort
      "Description section is quite short, consider adding more detail" ++
    fault (2000 < content.length) .descriptionTooLong
      "Description section is very long, consider moving some content to other sections"
  else if title = "installation".toList then
    fault (!hasNumberedLine content && decide (50 < content.length)) .installationSteps
      "Consider using numbered steps in the Installation section"
  else if title = "frequently asked questions".toList || title = "faq".toList then
    fault (!hasQuestion content) .faqFormat
      "FAQ section should contain questions in the format \"= Question =\""
  else if title = "screenshots".toList then
    fault (!hasNumberedLine content) .screenshotsFormat
      "Screenshots section should contain numbered items (1. Description)"
  else if title = "changelog".toList then
    fault (!hasVersion content) .changelogFormat
      "Changelog section should contain version entries in the format \"= 1.0 =\""
  else if title = "upgrade notice".toList then
    (notices content).flatMap fun notice ↦
      fault (300 < (Text.strip notice).length) .upgradeNoticeTooLong
        "Upgrade notice for version should be 300 characters or less"
  else []

def sectionContent (part : Section) : List Issue :=
  let place (issue : Issue) : Issue := { issue with line := some (part.firstLine + 1) }
  if Text.isBlankText part.content then
    [{ place (.warning .emptySection ("Section \"" ++ part.title ++ "\" is empty")) with
      hint := some "Add content to this section or remove it".toList }]
  else
    (contentFaults (Text.lower part.title) part.content).map fun (code, message) ↦
      place (.warning code message.toList)

def missingSections (sections : List Section) : List Issue :=
  let titles := sections.map fun part ↦ Text.lower part.title
  (Section.recommendedTitles.filter fun title ↦ !titles.contains (Text.lower title)).map fun title ↦
    { Issue.warning .missingSection ("Consider adding a \"" ++ title ++ "\" section") with
      suggestion := some (Heading.write 2 title)
      hint := some ("The " ++ title ++ " section helps users understand and use your plugin") }

def sectionOrder : List Section → List Issue
  | [] => []
  | first :: _ =>
    if Text.lower first.title = "description".toList then []
    else
      [{ Issue.warning .sectionOrder
          "Description section should typically be the first section" with
        line := some (first.firstLine + 1) }]

def sections (sections : List Section) : List Issue :=
  missingSections sections ++ sectionOrder sections ++ sections.flatMap sectionContent

end Check

end PluginReadme
