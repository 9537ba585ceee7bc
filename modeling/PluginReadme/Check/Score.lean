import PluginReadme.Check.Issue
import PluginReadme.Readme.Document

/-!
# Scores

A readme starts with a hundred points, loses points for every issue, wins some for good practice,
and ends between zero and a hundred. A score falls into one of five bands.
-/

namespace PluginReadme

def Severity.penalty : Severity → Nat
  | .error => 15
  | .warning => 5
  | .info => 5
  | .other _ => 0

inductive Merit where
  | longDescription
  | installation
  | faq
  | changelog
  | requiresPhp
  | licenseUri
  deriving DecidableEq, Repr, Inhabited

namespace Merit

def all : List Merit :=
  [.longDescription, .installation, .faq, .changelog, .requiresPhp, .licenseUri]

def name : Merit → Text
  | .longDescription => "long_description"
  | .installation => "installation"
  | .faq => "faq"
  | .changelog => "changelog"
  | .requiresPhp => "requires_php"
  | .licenseUri => "license_uri"

def points : Merit → Nat
  | .longDescription => 5
  | .installation => 3
  | .faq => 3
  | .changelog => 5
  | .requiresPhp => 2
  | .licenseUri => 2

def longDescriptionLength : Nat := 200

def isEarned (readme : Readme) : Merit → Bool
  | .longDescription =>
    (readme.find? "description").any fun description ↦
      longDescriptionLength < description.content.length
  | .installation => (readme.find? "installation").isSome
  | .faq => readme.sections.any fun candidate ↦ Text.occurs "faq" (Text.lower candidate.title)
  | .changelog => (readme.find? "changelog").isSome
  | .requiresPhp => !readme.header.lacks .requiresPhp
  | .licenseUri => !readme.header.lacks .licenseUri

def earned (readme : Readme) : List Merit := all.filter (isEarned readme)

end Merit

def clampScore (points : Int) : Int := max 0 (min 100 points)

def penalties (issues : List Issue) : Nat :=
  issues.foldr (fun issue total ↦ issue.severity.penalty + total) 0

def bonus (readme : Readme) : Nat :=
  (Merit.earned readme).foldr (fun merit total ↦ merit.points + total) 0

def scoreOf (issues : List Issue) (readme : Readme) : Int :=
  clampScore (100 - penalties issues + bonus readme)

/-! ## Bands -/

structure Rating where
  threshold : Int
  title : Text
  description : Text
  color : Text
  deriving DecidableEq, Repr, Inhabited

namespace Rating

def broken : Rating :=
  ⟨0, "Broken", "The directory will not parse this readme correctly.", "red"⟩

def better : List Rating :=
  [⟨90, "Directory ready", "Looks great on WordPress.org.", "green"⟩,
    ⟨80, "Good", "A few small things left to polish.", "green"⟩,
    ⟨60, "Needs work", "Fix the warnings before submitting.", "yellow"⟩,
    ⟨40, "Poor", "Several problems will show up on the plugin page.", "yellow"⟩]

def ofScore (score : Int) : Rating :=
  (better.find? fun rating ↦ rating.threshold ≤ score).getD broken

end Rating

def scoreColor (score : Int) : Text :=
  if 80 ≤ score then "green" else if 60 ≤ score then "cyan" else if 40 ≤ score then "yellow"
  else "red"

end PluginReadme
