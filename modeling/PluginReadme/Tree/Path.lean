import PluginReadme.Text.Basic

/-!
# Paths

A path is a sequence of names, which starts at the top of the tree or at the working folder. Empty
names and single points do not count; a step upwards does.
-/

namespace PluginReadme

/-- A path. The slashes at its front, one or two, make it start at the top. -/
structure Path where
  front : Text := []
  names : List Text := []
  deriving DecidableEq, Repr, Inhabited

namespace Path

/-- The name of the step upwards. -/
def upward : Text := ".."

def ofText (t : Text) : Path :=
  let slashes := (t.takeWhile (· == '/')).length
  { front := if slashes = 2 then "//" else if slashes = 0 then [] else "/"
    names := (Text.splitOn '/' t).filter fun name ↦ !name.isEmpty && name != ['.'] }

def text (path : Path) : Text :=
  if path.front.isEmpty && path.names.isEmpty then ['.']
  else path.front ++ Text.join "/" path.names

def isAbsolute (path : Path) : Bool := !path.front.isEmpty

def name (path : Path) : Text := path.names.getLastD []

def parent (path : Path) : Path := { path with names := path.names.dropLast }

def child (path : Path) (name : Text) : Path := { path with names := path.names ++ [name] }

/-- A path read in a folder. -/
def within (path folder : Path) : Path :=
  if path.isAbsolute then path else { folder with names := folder.names ++ path.names }

/-- What is left of a path below a folder, if it starts with that folder. -/
def below? (folder path : Path) : Option Path :=
  if folder.front = path.front then
    (folder.names.isPrefixOf? path.names).map fun names ↦ { names }
  else none

/-- Carries out the steps upwards; there is nothing above the top. -/
def settle : List Text → List Text → List Text
  | done, [] => done.reverse
  | done, name :: rest =>
    if name = upward then settle done.tail rest else settle (name :: done) rest

def settled (path : Path) : Path := { path with names := settle [] path.names }

/-- Compares paths name by name. -/
def namesBefore : List Text → List Text → Bool
  | _, [] => false
  | [], _ :: _ => true
  | a :: s, b :: t => if a = b then namesBefore s t else Text.before a b

def comesBefore (a b : Path) : Bool := !namesBefore b.names a.names

end Path

end PluginReadme
