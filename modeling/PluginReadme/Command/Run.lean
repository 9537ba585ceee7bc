import PluginReadme.Command.Transcript
import PluginReadme.Command.Basic
import PluginReadme.Diff.Unified
import PluginReadme.Ignore.Filter
import PluginReadme.Report.Listing

/-!
# Running commands

Each command looks at a tree of files, prints, and says what is to be written. A check fails if one
of its readmes does; everything else that goes wrong is an error.
-/

namespace PluginReadme

/-- The verdict makes a check fail: it has errors, warnings where those count, or too low a score.
-/
def Settings.fails (settings : Settings) (verdict : Verdict) : Bool :=
  !verdict.isValid || (settings.failOn = .warning && !verdict.warnings.isEmpty) ||
    verdict.score < settings.leastScore

def Settings.exitCode (settings : Settings) (verdicts : List Verdict) : Nat :=
  if verdicts.any settings.fails then 1 else 0

namespace Command

open Transcript

variable [Display] [Ignore.Matcher] [LinkDefinition.Collector]

/-! ## Settings -/

/-- The value of an option with a few choices. -/
def chosen {α : Type} (option : Text) (choices : List (Text × α)) :
    Option Text → Transcript (Option α)
  | none => pure none
  | some name =>
    match choices.lookup name with
    | some value => pure (some value)
    | none =>
      refuse (option ++ " must be one of " ++ Text.join ", " (choices.map (·.1)) ++ " (got " ++
        Text.quoted name ++ ")")

/-- The settings that were loaded. Wrong ones are refused, and any other fault is a failure. -/
def loaded : Except Settings.LoadFault Settings → Transcript Settings
  | .ok settings => pure settings
  | .error (.invalid fault) => refuse fault.message
  | .error fault => failure (.settings fault)

/-- The settings for a target, from the file that is named or from the one that applies to the
folder of the target. -/
def settingsFor (tree : Tree) (config : Option Path) (target : Path) : Transcript Settings := do
  if let some path := config then
    if (← look tree path).isNone then
      refuse ("Config file does not exist: " ++ path.text)
  let folder := if tree.hasFolder target then target else target.parent
  loaded (Settings.load tree (config.getD folder))

/-- Refuses a path where no file stands. -/
def requireFile (tree : Tree) (path : Path) : Transcript Unit := do
  match ← look tree path with
  | none => refuse ("Path does not exist: " ++ path.text)
  | some entry => if entry.isFolder then refuse ("Path is not a file: " ++ path.text)

/-! ## Check -/

def readmesOf (tree : Tree) (settings : Settings) (target : Path) : Transcript (List Path) := do
  if tree.hasFolder target then
    let found ← ofExcept .pattern (Ignore.readmes tree target settings.excluded)
    if found.isEmpty then
      say ("[yellow]Warning:[/yellow] No " ++ readmeFile ++ " found under " ++ target.text)
      exit 0
    return found
  return [target]

def verdictOn (tree : Tree) (settings : Settings) (verbose : Bool) (path : Path) :
    Transcript (Text × Verdict) := do
  let readme := Readme.ofText (← readFile tree path)
  if verbose then
    say ("[dim]  " ++ path.text ++ ": " ++ Text.ofNat readme.sections.length ++ " sections[/dim]")
  return (path.text, Verdict.of readme settings.ignored)

def report (format : ReportFormat) (ofFolder : Bool) (verdicts : List (Text × Verdict)) :
    Transcript Unit :=
  match format with
  | .json =>
    if ofFolder then put (Report.text 2 (Report.listings verdicts))
    else verdicts.forM fun (target, verdict) ↦ put (Report.text 2 (Report.listing target verdict))
  | .overview => verdicts.forM fun (target, verdict) ↦ do
    put (← ofExcept .style (Report.overview width target verdict))

/-- The settings with more codes ignored. If there are any, all codes stand in order, each of them
once. -/
def ignoring (settings : Settings) (codes : List Text) : Settings :=
  if codes.isEmpty then settings
  else { settings with ignored := Text.inOrder (settings.ignored ++ codes.map Text.upper) }

/-- The settings of a check: its options outrank those for the target, and more codes may be
ignored. -/
def CheckOptions.settings (tree : Tree) (options : CheckOptions) : Transcript Settings := do
  let target := options.target
  let format ← chosen "--format" ReportFormat.choices options.format
  let failOn ← chosen "--fail-on" FailLevel.choices options.failOn
  if (← look tree target).isNone then refuse ("Path does not exist: " ++ target.text)
  let settings ← settingsFor tree options.config target
  let settings := settings.merged { format, failOn, leastScore := options.leastScore }
  return ignoring settings options.ignored

def announce (settings : Settings) (count : Nat) : Transcript Unit := do
  say ("[dim]Checking " ++ Text.ofNat count ++ " file(s)[/dim]")
  if let some source := settings.source then
    say ("[dim]Using config: " ++ source.text ++ "[/dim]")

def CheckOptions.verdicts (tree : Tree) (options : CheckOptions) (settings : Settings) :
    Transcript (List (Text × Verdict)) := do
  let files ← readmesOf tree settings options.target
  let verbose := options.verbose != 0
  if verbose then announce settings files.length
  files.mapM (verdictOn tree settings verbose)

def CheckOptions.run (tree : Tree) (options : CheckOptions) : Transcript Unit := do
  let settings ← options.settings tree
  let verdicts ← options.verdicts tree settings
  report settings.format (tree.hasFolder options.target) verdicts
  exit (settings.exitCode (verdicts.map (·.2)))

/-! ## Preview -/

def page (settings : Settings) (readme : Readme) : Except Markup.Fault Text :=
  Page.html settings.theme
    { allowVideos := settings.allowVideos, allowHtml := settings.allowHtml, base := settings.base }
    readme (Verdict.of readme settings.ignored)

def PreviewOptions.run (tree : Tree) (options : PreviewOptions) : Transcript Unit := do
  let theme ← chosen "--theme" Page.Theme.choices options.theme
  requireFile tree options.file
  let settings ← settingsFor tree options.config options.file
  let settings := settings.merged { theme, base := options.base }
  let settings :=
    { settings with allowVideos := settings.allowVideos && !options.noVideos }
  let readme := Readme.ofText (← readFile tree options.file)
  let html ← ofExcept .markup (page settings readme)
  match options.output with
  | none => echo html
  | some output => do
    writeFile tree output html
    say ("[green]Wrote[/green] " ++ output.text)

/-! ## Fix -/

/-- The style of a repair and the text of the file. -/
def FixOptions.input (tree : Tree) (options : FixOptions) :
    Transcript (Repair.Style × Text) := do
  let file := options.file
  let style ← chosen "--style" Repair.Style.choices options.style
  requireFile tree file
  let settings ← settingsFor tree options.config file
  let settings := settings.merged { style }
  return (settings.style, ← readFile tree file)

def FixOptions.conclude (tree : Tree) (options : FixOptions) (current : Text)
    (repaired : Repaired) : Transcript Unit :=
  let file := options.file
  if repaired.changes.isEmpty then do
    say "[green]No changes needed.[/green]"
    exit 0
  else do
    repaired.changes.forM fun change ↦ say ("  • " ++ change.message)
    if options.diff then
      echo (Diff.unified ("a/" ++ file.name) ("b/" ++ file.name) current repaired.text)
    if options.write then
      if repaired.text != current then
        writeFile tree file repaired.text
        say ("[green]Updated[/green] " ++ file.text)
    else say "[dim]Run with --write to apply these changes.[/dim]"

def FixOptions.run (tree : Tree) (options : FixOptions) : Transcript Unit := do
  let (style, current) ← options.input tree
  options.conclude tree current (repair style current)

/-! ## Init -/

def InitOptions.run (tree : Tree) (options : InitOptions) : Transcript Unit := do
  let folder := options.folder
  if !(← look tree folder).any Entry.isFolder then
    refuse ("Path is not a directory: " ++ folder.text)
  let path := folder.child readmeFile
  if (← look tree path).isSome && !options.force then
    refuse (path.text ++ " already exists (use --force to overwrite)")
  writeFile tree path (Skeleton.text options.name)
  say ("[green]Created[/green] " ++ path.text)

/-! ## Programs -/

def currentVersion : Text := "0.1.0"

def run (tree : Tree) : Command → Transcript Unit
  | .check options => options.run tree
  | .preview options => options.run tree
  | .fix options => options.run tree
  | .init options => options.run tree
  | .version => say ("[bold]wp-readme-checker[/bold] v" ++ currentVersion)

/-- What the program does with its arguments. Wrong ones make it stop at once. -/
def runArguments (tree : Tree) (arguments : List Text) : Transcript Unit :=
  match ofArguments arguments with
  | some command => command.run tree
  | none => exit 2

end Command

/-- The exit code of a program that does this and nothing else. -/
def Transcript.code (transcript : Transcript Unit) : Nat :=
  match transcript.result with
  | .ok _ => 0
  | .error stop => stop.code

end PluginReadme
