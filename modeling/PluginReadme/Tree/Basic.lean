import PluginReadme.Text.Quoted
import PluginReadme.Text.Utf8
import PluginReadme.Tree.Path

/-!
# Trees of files

A tree is a value: commands look things up in it and answer what they want to write.
-/

namespace PluginReadme

inductive Entry where
  | file (content : Bytes)
  | folder (entries : List (Text × Entry))
  deriving Inhabited

namespace Entry

def isFolder : Entry → Bool
  | .file _ => false
  | .folder _ => true

def content? : Entry → Option Bytes
  | .file content => some content
  | .folder _ => none

def child? : Entry → Text → Option Entry
  | .file _, _ => none
  | .folder entries, name => entries.lookup name

/-- The entry with another one put in at some names; the folders on the way are made. An empty
folder takes nothing away from a folder. -/
def put (new : Entry) : List Text → Entry → Entry
  | [], old =>
    match new, old with
    | .folder [], .folder entries => .folder entries
    | _, _ => new
  | name :: rest, old =>
    let entries := match old with
      | .file _ => []
      | .folder entries => entries
    let changed := put new rest ((entries.lookup name).getD (.folder []))
    .folder ((entries.filter fun entry ↦ entry.1 != name) ++ [(name, changed)])

end Entry

inductive OpenFault where
  | missing
  | notFolder
  | isFolder
  | longName
  deriving DecidableEq, Repr

/-- The number that systems give to a fault, and its text. -/
def OpenFault.cause : OpenFault → Nat × Text
  | .missing => (2, "No such file or directory")
  | .notFolder => (20, "Not a directory")
  | .isFolder => (21, "Is a directory")
  | .longName => (36, "File name too long")

def OpenFault.message (fault : OpenFault) (path : Path) : Text :=
  let (number, cause) := fault.cause
  "[Errno " ++ Text.ofNat number ++ "] " ++ cause ++ ": " ++ Text.quoted path.text

/-- The files, from the top, and the working folder. -/
structure Tree where
  top : Entry
  here : Path
  deriving Inhabited

namespace Tree

/-- The greatest number of bytes of a name. -/
def longestName : Nat := 255

/-- Follows names from an entry; `above` are the folders it is in, the nearest first. -/
def follow (above : List Entry) (entry : Entry) : List Text → Except OpenFault Entry
  | [] => .ok entry
  | name :: rest =>
    if !entry.isFolder then .error .notFolder
    else if name = Path.upward then
      match above with
      | [] => follow [] entry rest
      | parent :: more => follow more parent rest
    else if longestName < (Utf8.encode name).length then .error .longName
    else
      match entry.child? name with
      | some next => follow (entry :: above) next rest
      | none => .error .missing

/-- The names of a path from the top. -/
def namesOf (tree : Tree) (path : Path) : List Text := (path.within tree.here).names

def find (tree : Tree) (path : Path) : Except OpenFault Entry :=
  follow [] tree.top (tree.namesOf path)

def find? (tree : Tree) (path : Path) : Option Entry := (tree.find path).toOption

def hasFile (tree : Tree) (path : Path) : Bool :=
  match tree.find? path with
  | some entry => !entry.isFolder
  | none => false

def hasFolder (tree : Tree) (path : Path) : Bool :=
  match tree.find? path with
  | some entry => entry.isFolder
  | none => false

/-- The path from the top without steps upwards. -/
def resolve (tree : Tree) (path : Path) : Path := (path.within tree.here).settled

def writeFault? (tree : Tree) (path : Path) : Option OpenFault :=
  match tree.find path with
  | .ok entry => if entry.isFolder then some .isFolder else none
  | .error .missing =>
    match tree.find path.parent with
    | .ok parent => if parent.isFolder then none else some .notFolder
    | .error fault => some fault
  | .error fault => some fault

end Tree

end PluginReadme
