import PluginReadme.Command.Arguments
import PluginReadme.Ignore.Filter
import PluginReadme.Preview.Skeleton
import PluginReadme.Settings.File
import PluginReadme.Text.Number

/-!
# Commands

The commands of the program with their options. Values that are one of a few choices are kept as
they are written, since a wrong one is reported by the command itself; everything else that is wrong
with the arguments leaves no command at all.
-/

namespace PluginReadme

namespace Command

/-- Checks a readme, or all readmes in a folder. -/
structure CheckOptions where
  target : Path := {}
  format : Option Text := none
  leastScore : Option Nat := none
  failOn : Option Text := none
  ignored : List Text := []
  config : Option Path := none
  verbose : Nat := 0
  deriving DecidableEq, Repr, Inhabited

/-- Writes the preview page of a readme. -/
structure PreviewOptions where
  file : Path
  output : Option Path := none
  theme : Option Text := none
  noVideos : Bool := false
  base : Option Text := none
  config : Option Path := none
  deriving DecidableEq, Repr, Inhabited

structure FixOptions where
  file : Path
  style : Option Text := none
  diff : Bool := false
  write : Bool := false
  config : Option Path := none
  deriving DecidableEq, Repr, Inhabited

structure InitOptions where
  folder : Path := {}
  name : Text := Skeleton.defaultName
  force : Bool := false
  deriving DecidableEq, Repr, Inhabited

/-! ## Options -/

def verboseChoice : Choice := ⟨"--verbose", some 'v', false⟩

def configChoice : Choice := ⟨"--config", none, true⟩

def checkChoices : List Choice :=
  [⟨"--format", some 'f', true⟩, ⟨"--min-score", none, true⟩, ⟨"--fail-on", none, true⟩,
    ⟨"--ignore", none, true⟩, configChoice, verboseChoice]

def previewChoices : List Choice :=
  [⟨"--output", some 'o', true⟩, ⟨"--theme", none, true⟩, ⟨"--no-videos", none, false⟩,
    ⟨"--base-url", none, true⟩, configChoice, verboseChoice]

def fixChoices : List Choice :=
  [⟨"--style", none, true⟩, ⟨"--diff", none, false⟩, ⟨"--write", some 'w', false⟩, configChoice,
    verboseChoice]

def initChoices : List Choice := [⟨"--name", some 'n', true⟩, ⟨"--force", none, false⟩]

/-- The level below which log records are left out, for the number of times that more of them were
asked for. -/
def logLevel (verbose : Int) : Nat :=
  if verbose = 0 then 30 else if verbose = 1 then 20 else 10

/-! ## Values -/

def oneAtMost? : List Text → Option (Option Path)
  | [] => some none
  | [t] => some (some (Path.ofText t))
  | _ => none

def exactlyOne? : List Text → Option Path
  | [t] => some (Path.ofText t)
  | _ => none

/-- The score of an option, from zero to a hundred. -/
def score? : Option Text → Option (Option Nat)
  | none => some none
  | some t => do
    let n ← Text.wholeNumber? t
    if 0 ≤ n && n ≤ 100 then some (some n.toNat) else none

def path? (t : Option Text) : Option Path := t.map Path.ofText

end Command

inductive Command where
  | check (options : Command.CheckOptions)
  | preview (options : Command.PreviewOptions)
  | fix (options : Command.FixOptions)
  | init (options : Command.InitOptions)
  | version
  deriving DecidableEq, Repr, Inhabited

namespace Command

def check? (arguments : Arguments) : Option Command := do
  let target ← oneAtMost? arguments.plain
  let leastScore ← score? (arguments.value? "--min-score")
  return .check
    { target := target.getD {}, leastScore
      format := arguments.value? "--format"
      failOn := arguments.value? "--fail-on"
      ignored := arguments.values "--ignore"
      config := path? (arguments.value? "--config")
      verbose := arguments.count "--verbose" }

def preview? (arguments : Arguments) : Option Command := do
  let file ← exactlyOne? arguments.plain
  return .preview
    { file
      output := path? (arguments.value? "--output")
      theme := arguments.value? "--theme"
      noVideos := arguments.has "--no-videos"
      base := arguments.value? "--base-url"
      config := path? (arguments.value? "--config") }

def fix? (arguments : Arguments) : Option Command := do
  let file ← exactlyOne? arguments.plain
  return .fix
    { file
      style := arguments.value? "--style"
      diff := arguments.has "--diff"
      write := arguments.has "--write"
      config := path? (arguments.value? "--config") }

def init? (arguments : Arguments) : Option Command := do
  let folder ← oneAtMost? arguments.plain
  return .init
    { folder := folder.getD {}
      name := (arguments.value? "--name").getD Skeleton.defaultName
      force := arguments.has "--force" }

def version? (arguments : Arguments) : Option Command :=
  if arguments.plain.isEmpty then some .version else none

def named? (name : Text) (arguments : List Text) : Option Command :=
  if name = "check".toList then (Arguments.read checkChoices arguments).bind check?
  else if name = "preview".toList then (Arguments.read previewChoices arguments).bind preview?
  else if name = "fix".toList then (Arguments.read fixChoices arguments).bind fix?
  else if name = "init".toList then (Arguments.read initChoices arguments).bind init?
  else if name = "version".toList then (Arguments.read [] arguments).bind version?
  else none

/-- The command that arguments stand for. Two hyphens may stand before its name. -/
def ofArguments : List Text → Option Command
  | ['-', '-'] :: name :: arguments => named? name arguments
  | name :: arguments => named? name arguments
  | [] => none

/-! ## Files -/

def readmeFile : Text := "readme.txt"

/-- The paths where settings for a target may be found. -/
def settingsPaths (config : Option Path) (target : Path) : List Path :=
  let inFolder (folder : Path) : List Path :=
    [folder, folder.child Settings.ownFile, folder.child Settings.projectFile]
  inFolder target ++ inFolder target.parent ++ config.toList.flatMap inFolder

/-- The paths that a command looks at one by one. -/
def paths : Command → List Path
  | .check options => settingsPaths options.config options.target
  | .preview options =>
    settingsPaths options.config options.file ++
      options.output.toList.flatMap fun output ↦ [output, output.parent]
  | .fix options => settingsPaths options.config options.file
  | .init options => [options.folder, options.folder.child readmeFile]
  | .version => []

def searched? : Command → Option Path
  | .check options => some options.target
  | _ => none

/-- The content of a file of this name matters to a search. -/
def isRead (name : Text) : Bool :=
  Text.lower name == Ignore.readmeName || name == Ignore.fileName

end Command

end PluginReadme
