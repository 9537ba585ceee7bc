import PluginReadme.Settings.Basic
import PluginReadme.Text.Case
import PluginReadme.Text.Lines
import PluginReadme.Toml.Document
import PluginReadme.Tree.Basic

/-!
# Settings files

Settings are read from a file of their own, or from a table of the project file beside it. The names
of settings may be written with hyphens or underscores. Names are looked at before values, and
values in a fixed order.
-/

namespace PluginReadme.Settings

def ownFile : Text := ".wp-readme.toml"

def projectFile : Text := "pyproject.toml"

def toolTable : Text := "tool"

def ownTable : Text := "wp-readme-checker"

/-! ## Faults -/

inductive Cause where
  | unreadable (fault : Toml.Fault)
  | unknownOption
  | choice (names : List Text)
  | trueOrFalse
  | text
  | score
  | texts
  deriving DecidableEq, Repr

def Cause.message : Cause → Text
  | .unreadable fault => fault.message
  | .unknownOption => "unknown option"
  | .choice names => "expected one of " ++ Text.join ", " names
  | .trueOrFalse => "expected true or false"
  | .text => "expected a string"
  | .score => "expected an integer between 0 and 100"
  | .texts => "expected a list of strings"

structure Fault where
  key : Text
  source : Path
  cause : Cause
  deriving DecidableEq, Repr

/-- The key of what is wrong with a file as a whole. -/
def wholeFile : Text := "<file>"

def Fault.heading (fault : Fault) : Text :=
  "Invalid value for '" ++ fault.key ++ "' in " ++ fault.source.text

def Fault.message (fault : Fault) : Text := fault.heading ++ ": " ++ fault.cause.message

/-- Why no settings can be had from a file: it is no text, it has an integer of too many digits or a
value where a table should be, or something in it is wrong. -/
inductive LoadFault where
  | notText (fault : Utf8.Fault)
  | tooLong (digits : Nat)
  | notTools (kind : Text)
  | notTable (kind : Text)
  | invalid (fault : Fault)
  deriving DecidableEq, Repr

def LoadFault.message : LoadFault → Text
  | .notText fault => fault.message
  | .tooLong digits => (Toml.Cause.tooLong digits).message
  | .notTools kind => "'" ++ kind ++ "' object has no attribute 'get'"
  | .notTable kind => "'" ++ kind ++ "' object has no attribute 'items'"
  | .invalid fault => fault.message

/-! ## Values -/

def names : List Text := (entries {}).map (·.1) |>.filter (· != "source".toList)

/-- The values by name. Of two spellings of a name the later one counts. -/
def named (source : Path) : Toml.Table → Except Fault Toml.Table
  | [] => .ok []
  | (key, value) :: rest => do
    let name := key.map fun c ↦ if c == '-' then '_' else c
    if !names.contains name then throw ⟨key, source, .unknownOption⟩
    let more ← named source rest
    return if (more.lookup name).isSome then more else (name, value) :: more

def given {α : Type} (table : Toml.Table) (source : Path) (name : Text) (cause : Cause)
    (read : Toml.Value → Option α) (default : α) : Except Fault α :=
  match table.lookup name with
  | none => .ok default
  | some value =>
    match read value with
    | some a => .ok a
    | none => .error ⟨name, source, cause⟩

def choice? {α : Type} (choices : List (Text × α)) (value : Toml.Value) : Option α :=
  value.text?.bind fun name ↦ choices.lookup name

def bool? : Toml.Value → Option Bool
  | .bool b => some b
  | _ => none

def score? : Toml.Value → Option Nat
  | .integer n => if 0 ≤ n && n ≤ 100 then some n.toNat else none
  | _ => none

def texts? : Toml.Value → Option (List Text)
  | .list items => items.mapM Toml.Value.text?
  | _ => none

def ofTable (source : Path) (table : Toml.Table) : Except Fault Settings := do
  let table ← named source table
  let choice {α : Type} (name : Text) (choices : List (Text × α)) (default : α) :
      Except Fault α :=
    given table source name (.choice (choices.map (·.1))) (choice? choices) default
  let style ← choice "multi_line_style" Repair.Style.choices .indented
  let theme ← choice "theme" Page.Theme.choices .plain
  let format ← choice "output_format" ReportFormat.choices .overview
  let failOn ← choice "fail_on" FailLevel.choices .error
  let allowVideos ← given table source "allow_videos" .trueOrFalse bool? true
  let allowHtml ← given table source "allow_html" .trueOrFalse bool? false
  let base ← given table source "base_url" .text (fun value ↦ value.text?.map some) none
  let leastScore ← given table source "min_score" .score score? 0
  let ignored ← given table source "ignore" .texts texts? []
  let excluded ← given table source "exclude" .texts texts? []
  return { style, allowVideos, allowHtml, base, theme, format, failOn, leastScore, excluded,
           ignored := ignored.map Text.upper, source := some source }

/-! ## Files -/

def file? (tree : Tree) (folder : Path) : Option Path :=
  [folder.child ownFile, folder.child projectFile].find? tree.hasFile

def toolSettings (document : Toml.Table) : Except LoadFault Toml.Table := do
  let tools ← match document.lookup toolTable with
    | none => pure []
    | some (.table tools) => pure tools
    | some other => throw (.notTools other.kindName)
  match tools.lookup ownTable with
  | none => return []
  | some (.table table) => return table
  | some other => throw (.notTable other.kindName)

/-- What a fault of the document of a file means for the settings. -/
def LoadFault.ofDocument (source : Path) (fault : Toml.Fault) : LoadFault :=
  match fault.cause with
  | .tooLong digits => .tooLong digits
  | _ => .invalid ⟨wholeFile, source, .unreadable fault⟩

def ofContent (source : Path) (content : Bytes) : Except LoadFault Settings := do
  let t ← (Utf8.decode content).mapError .notText
  let document ← (Toml.Table.ofText (Text.unifyLineEnds t)).mapError (LoadFault.ofDocument source)
  let table ← if source.name = projectFile then toolSettings document else pure document
  (ofTable source table).mapError .invalid

/-- The settings that apply to a path: those of the file that it is, or of the file that applies to
the folder. Without a file they have their default values. -/
def load (tree : Tree) (path : Path) : Except LoadFault Settings :=
  let source := if tree.hasFolder path then file? tree path else some path
  match source.bind fun path ↦ ((tree.find? path).bind Entry.content?).map (path, ·) with
  | some (path, content) => ofContent path content
  | none => .ok {}

end PluginReadme.Settings
