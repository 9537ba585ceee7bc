import PluginReadme.Preview.Page
import PluginReadme.Repair.Basic
import PluginReadme.Request
import PluginReadme.Tree.Path

/-!
# Settings

What can be set for a run, in a file or on the command line. What is not set has its default value,
and the command line wins over the file.
-/

namespace PluginReadme

inductive ReportFormat where
  | overview
  | json
  deriving DecidableEq, Repr, Inhabited

def ReportFormat.name : ReportFormat → Text
  | .overview => "rich"
  | .json => "json"

def ReportFormat.choices : List (Text × ReportFormat) :=
  ([.overview, .json] : List ReportFormat).map fun format ↦ (format.name, format)

/-- The mildest severity that makes a check fail. -/
inductive FailLevel where
  | error
  | warning
  deriving DecidableEq, Repr, Inhabited

def FailLevel.name : FailLevel → Text
  | .error => "error"
  | .warning => "warning"

def FailLevel.choices : List (Text × FailLevel) :=
  ([.error, .warning] : List FailLevel).map fun level ↦ (level.name, level)

/-- The settings of a run, and the file they come from. -/
structure Settings where
  style : Repair.Style := .indented
  allowVideos : Bool := true
  allowHtml : Bool := false
  base : Option Text := none
  theme : Page.Theme := .plain
  format : ReportFormat := .overview
  failOn : FailLevel := .error
  leastScore : Nat := 0
  ignored : List Text := []
  excluded : List Text := []
  source : Option Path := none
  deriving DecidableEq, Repr, Inhabited

namespace Settings

/-- The settings that the command line can give a value. -/
structure Overrides where
  style : Option Repair.Style := none
  base : Option Text := none
  theme : Option Page.Theme := none
  format : Option ReportFormat := none
  failOn : Option FailLevel := none
  leastScore : Option Nat := none
  deriving DecidableEq, Repr, Inhabited

def merged (settings : Settings) (overrides : Overrides) : Settings :=
  { settings with
    style := overrides.style.getD settings.style
    base := overrides.base <|> settings.base
    theme := overrides.theme.getD settings.theme
    format := overrides.format.getD settings.format
    failOn := overrides.failOn.getD settings.failOn
    leastScore := overrides.leastScore.getD settings.leastScore }

/-! ## Settings by name -/

def entries (settings : Settings) : List (Text × Json) :=
  let texts (ts : List Text) : Json := .list (ts.map .text)
  [("multi_line_style", .text settings.style.name),
    ("allow_videos", .bool settings.allowVideos),
    ("allow_html", .bool settings.allowHtml),
    ("base_url", Json.ofText? settings.base),
    ("theme", .text settings.theme.name),
    ("output_format", .text settings.format.name),
    ("fail_on", .text settings.failOn.name),
    ("min_score", .integer settings.leastScore),
    ("ignore", texts settings.ignored),
    ("exclude", texts settings.excluded),
    ("source", Json.ofText? (settings.source.map Path.text))]

/-- What is wrong with the name of a setting: it is kept for the settings themselves, or there is no
such setting. -/
inductive NameFault where
  | kept
  | unknown (name : Text)
  deriving DecidableEq, Repr

def NameFault.message : NameFault → Text
  | .kept => "CheckerConfig.merged() got multiple values for argument 'self'"
  | .unknown name => "CheckerConfig.__init__() got an unexpected keyword argument '" ++ name ++ "'"

def replaced (name : Text) (value : Json) (entries : List (Text × Json)) : List (Text × Json) :=
  entries.map fun (key, old) ↦ (key, if key = name then value else old)

/-- The entries with other values in place of their own. A null changes nothing, and the values are
taken as they are. -/
def replacedAll (entries : List (Text × Json)) :
    List (Text × Json) → Except NameFault (List (Text × Json))
  | [] => .ok entries
  | (_, .null) :: rest => replacedAll entries rest
  | (name, value) :: rest =>
    if (entries.lookup name).isSome then replacedAll (replaced name value entries) rest
    else .error (.unknown name)

/-- The name that stands for the settings themselves. -/
def ownName : Text := "self"

def overridden (entries overrides : List (Text × Json)) :
    Except NameFault (List (Text × Json)) :=
  if (overrides.lookup ownName).isSome then .error .kept else replacedAll entries overrides

end Settings

end PluginReadme
