import PluginReadme.Json
import PluginReadme.Readme.Header

/-!
# Issues

An issue says what is wrong with a readme, where it is, and how it could be mended. Every kind of
issue has a code, and every code that a check can report belongs to one category.
-/

namespace PluginReadme

inductive Severity where
  | error
  | warning
  | info
  /-- A severity that no check uses. -/
  | other (name : Text)
  deriving DecidableEq, Repr, Inhabited

namespace Severity

def name : Severity → Text
  | .error => "error"
  | .warning => "warning"
  | .info => "info"
  | .other name => name

def ofName (name : Text) : Severity :=
  (([.error, .warning, .info] : List Severity).find? fun severity ↦ severity.name == name).getD
    (.other name)

end Severity

inductive Code where
  | missingField
  | pluginNameLength
  | invalidContributor
  | tooManyTags
  | longTag
  | invalidVersion
  | shortDescriptionTooLong
  | shortDescriptionMarkup
  | shortDescriptionTooShort
  | licenseNotGpl
  | invalidUrl
  | missingSection
  | sectionOrder
  | emptySection
  | descriptionTooShort
  | descriptionTooLong
  | installationSteps
  | faqFormat
  | screenshotsFormat
  | changelogFormat
  | upgradeNoticeTooLong
  | malformedHeading
  | promotionalLanguage
  | unclosedFence
  | hashHeading
  | unbalancedBold
  | unbalancedItalic
  | unclosedLink
  | unclosedBracket
  | mixedIndentation
  | emailAddress
  | fileTooLarge
  /-- A kind that no check reports. -/
  | other (name : Text)
  deriving DecidableEq, Repr, Inhabited

namespace Code

/-- The codes that checks report. -/
def known : List Code :=
  [.missingField, .pluginNameLength, .invalidContributor, .tooManyTags, .longTag, .invalidVersion,
    .shortDescriptionTooLong, .shortDescriptionMarkup, .shortDescriptionTooShort, .licenseNotGpl,
    .invalidUrl, .missingSection, .sectionOrder, .emptySection, .descriptionTooShort,
    .descriptionTooLong, .installationSteps, .faqFormat, .screenshotsFormat, .changelogFormat,
    .upgradeNoticeTooLong, .malformedHeading, .promotionalLanguage, .unclosedFence, .hashHeading,
    .unbalancedBold, .unbalancedItalic, .unclosedLink, .unclosedBracket, .mixedIndentation,
    .emailAddress, .fileTooLarge]

def name : Code → Text
  | .missingField => "MISSING_FIELD"
  | .pluginNameLength => "PLUGIN_NAME_LENGTH"
  | .invalidContributor => "INVALID_CONTRIBUTOR"
  | .tooManyTags => "TOO_MANY_TAGS"
  | .longTag => "LONG_TAG"
  | .invalidVersion => "INVALID_VERSION"
  | .shortDescriptionTooLong => "SHORT_DESCRIPTION_TOO_LONG"
  | .shortDescriptionMarkup => "SHORT_DESCRIPTION_MARKUP"
  | .shortDescriptionTooShort => "SHORT_DESCRIPTION_TOO_SHORT"
  | .licenseNotGpl => "LICENSE_NOT_GPL"
  | .invalidUrl => "INVALID_URL"
  | .missingSection => "MISSING_SECTION"
  | .sectionOrder => "SECTION_ORDER"
  | .emptySection => "EMPTY_SECTION"
  | .descriptionTooShort => "DESCRIPTION_TOO_SHORT"
  | .descriptionTooLong => "DESCRIPTION_TOO_LONG"
  | .installationSteps => "INSTALLATION_STEPS"
  | .faqFormat => "FAQ_FORMAT"
  | .screenshotsFormat => "SCREENSHOTS_FORMAT"
  | .changelogFormat => "CHANGELOG_FORMAT"
  | .upgradeNoticeTooLong => "UPGRADE_NOTICE_TOO_LONG"
  | .malformedHeading => "MALFORMED_HEADING"
  | .promotionalLanguage => "PROMOTIONAL_LANGUAGE"
  | .unclosedFence => "UNCLOSED_FENCE"
  | .hashHeading => "HASH_HEADING"
  | .unbalancedBold => "UNBALANCED_BOLD"
  | .unbalancedItalic => "UNBALANCED_ITALIC"
  | .unclosedLink => "UNCLOSED_LINK"
  | .unclosedBracket => "UNCLOSED_BRACKET"
  | .mixedIndentation => "MIXED_INDENTATION"
  | .emailAddress => "EMAIL_ADDRESS"
  | .fileTooLarge => "FILE_TOO_LARGE"
  | .other name => name

def ofName (name : Text) : Code :=
  (known.find? fun code ↦ code.name == name).getD (.other name)

end Code

/-! ## Categories -/

inductive Category where
  | header
  | sections
  | markup
  | content
  deriving DecidableEq, Repr, Inhabited

namespace Category

def all : List Category := [.header, .sections, .markup, .content]

def title : Category → Text
  | .header => "Header fields"
  | .sections => "Sections"
  | .markup => "Markup"
  | .content => "Content"

end Category

/-- The category of a code; one that no check reports has none. -/
def Code.category? : Code → Option Category
  | .missingField | .pluginNameLength | .invalidContributor | .tooManyTags | .longTag
  | .invalidVersion | .shortDescriptionTooLong | .shortDescriptionMarkup
  | .shortDescriptionTooShort | .licenseNotGpl | .invalidUrl => some .header
  | .missingSection | .sectionOrder | .emptySection | .descriptionTooShort | .descriptionTooLong
  | .installationSteps | .faqFormat | .screenshotsFormat | .changelogFormat
  | .upgradeNoticeTooLong => some .sections
  | .malformedHeading | .hashHeading | .unclosedFence | .unbalancedBold | .unbalancedItalic
  | .unclosedLink | .unclosedBracket | .mixedIndentation => some .markup
  | .promotionalLanguage | .emailAddress | .fileTooLarge => some .content
  | .other _ => none

/-! ## Issues -/

/-- The entry of the header that an issue is about. -/
inductive Subject where
  | field (field : Field)
  /-- An entry that headers do not have. -/
  | other (key : Text)
  deriving DecidableEq, Repr, Inhabited

namespace Subject

def key : Subject → Text
  | .field entry => entry.key
  | .other key => key

def ofKey (key : Text) : Subject :=
  match Field.all.find? fun entry ↦ entry.key == key with
  | some entry => .field entry
  | none => .other key

end Subject

/-- An issue. Lines and columns count from one, and the last column belongs to the place. -/
structure Issue where
  severity : Severity
  code : Code
  message : Text
  subject : Option Subject := none
  line : Option Int := none
  column : Option Int := none
  endColumn : Option Int := none
  /-- A text to put in place of what is wrong. -/
  suggestion : Option Text := none
  /-- Advice in words. -/
  hint : Option Text := none
  deriving DecidableEq, Repr, Inhabited

namespace Issue

def isError (issue : Issue) : Bool := issue.severity == .error

def warning (code : Code) (message : Text) : Issue := { severity := .warning, code, message }

def onLine (issue : Issue) (line : Option Nat) : Issue :=
  { issue with line := line.map fun n ↦ (n : Int) }

def spanning (issue : Issue) (line start stop : Nat) : Issue :=
  { issue with line := some line, column := some (start + 1), endColumn := some stop }

def toJson (issue : Issue) : Json :=
  .table
    [("severity", .text issue.severity.name),
      ("code", .text issue.code.name),
      ("message", .text issue.message),
      ("field", Json.ofText? (issue.subject.map Subject.key)),
      ("line_number", Json.ofInt? issue.line),
      ("column", Json.ofInt? issue.column),
      ("end_column", Json.ofInt? issue.endColumn),
      ("suggestion", Json.ofText? issue.suggestion),
      ("hint", Json.ofText? issue.hint)]

end Issue

end PluginReadme
