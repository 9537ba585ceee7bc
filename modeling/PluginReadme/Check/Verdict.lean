import PluginReadme.Check.Fields
import PluginReadme.Check.Marks
import PluginReadme.Check.Score
import PluginReadme.Check.Sections
import PluginReadme.Check.Wording

/-!
# Verdicts

All checks run on every readme, in a fixed order. Issues whose code is to be ignored are left out
before the score is counted.
-/

namespace PluginReadme

namespace Check

def longestSource : Nat := 10 * 1024

/-- The quotient rounded to the nearest whole number, half of the divisor to the even one. -/
def roundedQuotient (n divisor : Nat) : Nat :=
  let whole := n / divisor
  let twice := 2 * (n % divisor)
  if twice < divisor || (twice == divisor && whole % 2 == 0) then whole else whole + 1

def size (source : Text) : List Issue :=
  if source.length ≤ longestSource then []
  else
    [{ Issue.warning .fileTooLarge
        ("Readme file is " ++ Text.ofNat (roundedQuotient source.length 1024) ++
          "KB (recommended max: " ++ Text.ofNat (longestSource / 1024) ++ "KB)") with
      hint := some "Consider moving detailed documentation to your website".toList }]

def issues (readme : Readme) : List Issue :=
  let lines := Text.lines readme.source
  header readme.header lines ++ sections readme.sections ++ malformedHeadings lines ++
    promotionalLanguage lines ++ markup lines readme.source ++ mailAddresses lines ++
    size readme.source

end Check

/-- The issues of a readme, its score, and named figures on it. -/
structure Verdict where
  issues : List Issue := []
  score : Int := 100
  figures : List (Text × Json) := []
  deriving Inhabited

namespace Verdict

def errors (verdict : Verdict) : List Issue := verdict.issues.filter (·.isError)

/-- Everything that is no error. -/
def warnings (verdict : Verdict) : List Issue := verdict.issues.filter fun issue ↦ !issue.isError

def isValid (verdict : Verdict) : Bool := verdict.errors.isEmpty

/-- The issues whose code is not to be ignored; codes are named in any case. -/
def kept (ignored : List Text) (issues : List Issue) : List Issue :=
  let codes := ignored.map Text.upper
  issues.filter fun issue ↦ !codes.contains issue.code.name

def ofIssues (readme : Readme) (issues : List Issue) : Verdict :=
  let verdict : Verdict := { issues, score := scoreOf issues readme }
  let count (n : Nat) : Json := .integer n
  { verdict with
    figures :=
      [("total_sections", count readme.sections.length),
        ("total_lines", count (Text.lines readme.source).length),
        ("total_issues", count issues.length),
        ("errors", count verdict.errors.length),
        ("warnings", count verdict.warnings.length)] }

def of (readme : Readme) (ignored : List Text) : Verdict :=
  ofIssues readme (kept ignored (Check.issues readme))

end Verdict

end PluginReadme
