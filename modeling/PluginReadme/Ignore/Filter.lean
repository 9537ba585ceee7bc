import PluginReadme.Ignore.Rules
import PluginReadme.Text.Case
import PluginReadme.Text.Lines
import PluginReadme.Tree.Basic

/-!
# Filters

A filter decides which entries of a tree are skipped: folders that never hold readmes of their own,
what further patterns name, and what the rule files of the tree say, each for its folder and below.
-/

namespace PluginReadme.Ignore

/-- What is skipped in every tree. -/
def defaultLines : List Text :=
  ([".git/", ".svn/", "node_modules/", "vendor/", "bower_components/", ".idea/", ".vscode/",
    "__pycache__/", ".venv/", "venv/"] : List String).map String.toList

def fileName : Text := ".gitignore"

variable [Matcher]

/-- The test of the patterns in a file, if it can be read; its lines end in the widest sense. -/
def testOfFile (content : Bytes) : Except Fault (Option Test) :=
  match Utf8.decode content with
  | .ok t => (Matcher.test (Text.bareWideLines (Text.unifyLineEnds t))).map some
  | .error _ => .ok none

/-- A filter for the tree below `root`, with the rule files of the folders that were entered. -/
structure Filter where
  root : Path
  general : Test
  ofRoot : Option Test
  nested : List (Path × Test)
  readsNested : Bool

namespace Filter

/-- The test of the rule file of a folder, if it has one that can be read. -/
def testIn (folder : Option Entry) : Except Fault (Option Test) :=
  match (folder.bind fun entry ↦ entry.child? fileName).bind Entry.content? with
  | some content => testOfFile content
  | none => .ok none

def make (tree : Tree) (root : Path) (further : List Text) (readsNested : Bool) :
    Except Fault Filter := do
  let general ← Matcher.test (defaultLines ++ further)
  let ofRoot ← testIn (tree.find? root)
  return { root, general, ofRoot, nested := [], readsNested }

/-- The filter after a folder has been entered. -/
def enter (filter : Filter) (path : Path) (folder : Option Entry) : Except Fault Filter := do
  if !filter.readsNested || path = filter.root then return filter
  match ← testIn folder with
  | some test => return { filter with nested := filter.nested ++ [(path, test)] }
  | none => return filter

/-- The text of a path as rules see it; folders end in a slash. -/
def ruleText (path : Path) (isFolder : Bool) : Text :=
  if isFolder then path.text ++ ['/'] else path.text

/-- The path is skipped. A path outside of the tree never is. -/
def ignores (filter : Filter) (path : Path) (isFolder : Bool) : Bool :=
  match if path.isAbsolute then filter.root.below? path else some path with
  | none => false
  | some inside =>
    let seen := ruleText inside isFolder
    let full := inside.within filter.root
    filter.general seen || filter.ofRoot.any (· seen) ||
      filter.nested.any fun (folder, test) ↦
        (folder.below? full).any fun rest ↦ test (ruleText rest isFolder)

end Filter

/-! ## Discovery -/

def readmeName : Text := "readme.txt"

/-- How far a walk has come: the filter with the rules that it met, and the readmes that it found.
-/
structure Walk where
  filter : Filter
  found : List Path := []

def readmesAmong (filter : Filter) (path : Path) (entries : List (Text × Entry)) : List Path :=
  ((entries.filter fun (name, entry) ↦
      !entry.isFolder && Text.lower name == readmeName).map fun (name, _) ↦
    path.child name).filter fun file ↦ !filter.ignores file false

mutual

/-- The walk after an entry that is not skipped. The rules of a folder are met before its entries
are looked at, and they are kept for the rest of the walk. -/
def walk (sofar : Walk) (path : Path) : Entry → Except Fault Walk
  | .file _ => .ok sofar
  | .folder entries => do
    let filter ← sofar.filter.enter path (some (.folder entries))
    walkAmong filter ⟨filter, sofar.found ++ readmesAmong filter path entries⟩ path entries

/-- The walk after those entries of a folder that are folders and not skipped. The filter that the
folder was entered with decides on all of them. -/
def walkAmong (filter : Filter) (sofar : Walk) (path : Path) :
    List (Text × Entry) → Except Fault Walk
  | [] => .ok sofar
  | (name, entry) :: rest => do
    let here := path.child name
    let sofar ←
      if entry.isFolder && !filter.ignores here true then walk sofar here entry else pure sofar
    walkAmong filter sofar path rest

end

def readmes (tree : Tree) (path : Path) (further : List Text) : Except Fault (List Path) := do
  let root := tree.resolve path
  let filter ← Filter.make tree root further true
  match tree.find? root with
  | some entry => return (← walk { filter } root entry).found.mergeSort Path.comesBefore
  | none => return []

end PluginReadme.Ignore
