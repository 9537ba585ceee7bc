import PluginReadme.Readme.Header
import PluginReadme.Text.Class

/-!
# Readmes

A readme is a header and the sections after it. A section reaches to the next heading of a section;
a malformed heading is plain text of the section it stands in.
-/

namespace PluginReadme

def mostTags : Nat := 5

def longestShortDescription : Nat := 150

/-- One point or two between numbers, such as `1.2` or `1.2.3`. -/
def isVersion (t : Text) : Bool :=
  let parts := Text.splitOn '.' (Text.dropFinalFeed t)
  (parts.length == 2 || parts.length == 3) &&
    parts.all fun part ↦ !part.isEmpty && part.all isDecimal

/-- A section with the numbers, from zero, of its first and its last line. -/
structure Section where
  title : Text
  content : Text
  firstLine : Int
  lastLine : Int
  deriving DecidableEq, Repr, Inhabited

def Section.level : Nat := 2

structure Readme where
  header : Header
  sections : List Section := []
  /-- The text that was read. -/
  source : Text := []
  deriving DecidableEq, Repr, Inhabited

namespace Section

/-- The sections of the lines from the given line on. -/
def ofLinesFrom (number : Nat) : List Text → List Section
  | [] => []
  | line :: rest =>
    match Heading.section? line with
    | some title =>
      let body := rest.takeWhile fun other ↦ (Heading.section? other).isNone
      { title
        content := Text.strip (Text.join "\n" body)
        firstLine := number
        lastLine := number + body.length } :: ofLinesFrom (number + 1) rest
    | none => ofLinesFrom (number + 1) rest

def ofLines (lines : List Text) : List Section := ofLinesFrom 0 lines

end Section

namespace Readme

def ofText (t : Text) : Readme :=
  let lines := Text.lines t
  { header := Header.ofLines lines, sections := Section.ofLines lines, source := t }

def find? (readme : Readme) (title : Text) : Option Section :=
  readme.sections.find? fun candidate ↦ Text.lower candidate.title == Text.lower title

end Readme

/-! ## Notes on the header -/

/-- What reading brings up: what is missing, and what could be better. -/
structure Notes where
  errors : List Text := []
  warnings : List Text := []
  deriving DecidableEq, Repr, Inhabited

namespace Notes

def append (notes more : Notes) : Notes :=
  { errors := notes.errors ++ more.errors, warnings := notes.warnings ++ more.warnings }

instance : Append Notes := ⟨append⟩

@[simp] theorem errors_append (notes more : Notes) :
    (notes ++ more).errors = notes.errors ++ more.errors := rfl

@[simp] theorem warnings_append (notes more : Notes) :
    (notes ++ more).warnings = notes.warnings ++ more.warnings := rfl

end Notes

namespace Header

def missingText : Field → Text
  | .pluginName => "Plugin name is required (=== Plugin Name ===)"
  | .shortDescription => "Short description is required"
  | field => field.title ++ " field is required"

def versionText (label : Text) : Text := label ++ " should be in format X.Y or X.Y.Z"

/-- The notes on a required field: it is missing, or else there may be advice on its value. -/
def noteOn (header : Header) (field : Field) (advice : Option Text := none) : Notes :=
  if header.lacks field then { errors := [missingText field] } else { warnings := advice.toList }

def tagsAdvice? (header : Header) : Option Text :=
  if mostTags < header.tags.length then
    some ("Maximum " ++ Text.ofNat mostTags ++ " tags recommended")
  else none

def descriptionAdvice? (header : Header) : Option Text :=
  if longestShortDescription < header.shortDescription.length then
    some ("Short description should be " ++ Text.ofNat longestShortDescription ++
      " characters or less")
  else none

/-- The notes on a version; one that is not set is in order. -/
def versionNote (value label : Text) : Notes :=
  if !value.isEmpty && !isVersion value then { warnings := [versionText label] } else {}

def notes (header : Header) : Notes :=
  header.noteOn .pluginName ++ header.noteOn .contributors ++
    header.noteOn .tags header.tagsAdvice? ++ header.noteOn .requiresAtLeast ++
    header.noteOn .testedUpTo ++ header.noteOn .stableTag ++ header.noteOn .license ++
    header.noteOn .shortDescription header.descriptionAdvice? ++
    versionNote header.requiresAtLeast "Requires at least" ++
    versionNote header.testedUpTo "Tested up to" ++ versionNote header.stableTag "Stable tag" ++
    versionNote header.requiresPhp "Requires PHP"

def errors (header : Header) : List Text := header.notes.errors

def warnings (header : Header) : List Text := header.notes.warnings

/-! ## Versions -/

def versions (header : Header) : List (Field × Text) :=
  [(.requiresAtLeast, header.requiresAtLeast), (.testedUpTo, header.testedUpTo),
    (.stableTag, header.stableTag), (.requiresPhp, header.requiresPhp)]

def wrongVersions (header : Header) : List (Field × Text) :=
  header.versions.filter fun (_, value) ↦ !value.isEmpty && !isVersion value

end Header

end PluginReadme
