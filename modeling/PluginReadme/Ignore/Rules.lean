import PluginReadme.Ignore.Pattern

/-!
# Ignore rules

The patterns of one list decide together: a pattern that matches an entry itself outranks those that
match a folder, and of patterns of one rank the last decides. Filters are written for any matcher of
patterns; the program has the one that is made of rules.
-/

namespace PluginReadme.Ignore

abbrev Rules := List Pattern

def Rules.ofLines (lines : List Text) : Except Fault Rules := do
  return (← lines.mapM Pattern.ofLine).filterMap id

/-- A path as patterns see it, from the top of the tree. -/
def normalPath (path : Text) : Text :=
  match path with
  | '/' :: rest => rest
  | '.' :: '/' :: rest => rest
  | _ => path

/-- What the last of the patterns with a rank says. -/
def lastOfRank? (rank : Rank) (rules : Rules) (path : Text) : Option Bool :=
  ((rules.filter fun pattern ↦ pattern.rank? path == some rank).getLast?).map (·.ignores)

def Rules.ignore (rules : Rules) (path : Text) : Bool :=
  let path := normalPath path
  (lastOfRank? .entry rules path <|> lastOfRank? .folder rules path).getD false

/-! ## Matchers -/

/-- A test for the paths that are ignored. -/
abbrev Test := Text → Bool

class Matcher where
  /-- The test that the patterns on some lines make, if all of them are accepted. -/
  test (lines : List Text) : Except Fault Test

instance Rules.matcher : Matcher where
  test lines := (Rules.ofLines lines).map Rules.ignore

end PluginReadme.Ignore
