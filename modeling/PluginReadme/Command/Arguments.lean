import PluginReadme.Text.Basic

/-!
# Arguments

The arguments of a command are options, which start with a hyphen, and plain ones. Options may stand
anywhere. The value of an option is joined to it or is the next argument, whatever that looks like;
options of one letter can be written together. After two hyphens everything is plain.
-/

namespace PluginReadme.Command

/-- An option: its long name, its letter, and whether it takes a value. -/
structure Choice where
  name : Text
  letter : Option Char := none
  takesValue : Bool := true
  deriving DecidableEq, Repr

/-- The options with their values, in order, and the plain arguments. The value of an option that
takes none is empty. -/
structure Arguments where
  given : List (Text × Text) := []
  plain : List Text := []
  deriving DecidableEq, Repr, Inhabited

namespace Arguments

def value? (arguments : Arguments) (name : Text) : Option Text :=
  arguments.given.reverse.lookup name

def values (arguments : Arguments) (name : Text) : List Text :=
  (arguments.given.filter fun entry ↦ entry.1 == name).map (·.2)

def count (arguments : Arguments) (name : Text) : Nat := (arguments.values name).length

def has (arguments : Arguments) (name : Text) : Bool := (arguments.value? name).isSome

/-! ## Reading -/

/-- What an argument gives, and the option that takes the next argument as its value. -/
abbrev Reading := List (Text × Text) × Option Text

/-- Reads the letters of an argument. What follows the letter of an option with a value is it. -/
def letters (choices : List Choice) : Text → Option Reading
  | [] => some ([], none)
  | c :: rest =>
    match choices.find? fun choice ↦ choice.letter == some c with
    | none => none
    | some choice =>
      if !choice.takesValue then
        (letters choices rest).map fun (given, waiting) ↦ ((choice.name, []) :: given, waiting)
      else if rest.isEmpty then some ([], some choice.name)
      else some ([(choice.name, rest)], none)

/-- Reads an argument that starts with a hyphen. -/
def option? (choices : List Choice) (argument : Text) : Option Reading :=
  let name := argument.takeWhile (· != '=')
  let joined := argument.drop name.length
  match choices.find? fun choice ↦ choice.name == name with
  | some choice =>
    match choice.takesValue, joined with
    | true, _ :: value => some ([(name, value)], none)
    | true, [] => some ([], some name)
    | false, [] => some ([(name, [])], none)
    | false, _ :: _ => none
  | none => if Text.startsWith "--" argument then none else letters choices (argument.drop 1)

/-- Reads arguments, of which the first is the value of the option that waits for it. -/
def readFrom (choices : List Choice) : (waiting : Option Text) → List Text → Option Arguments
  | some _, [] => none
  | none, [] => some {}
  | some name, value :: rest => do
    let more ← readFrom choices none rest
    return { more with given := (name, value) :: more.given }
  | none, argument :: rest =>
    if argument = "--".toList then some { plain := rest }
    else if Text.startsWith "-" argument && 1 < argument.length then do
      let (given, waiting) ← option? choices argument
      let more ← readFrom choices waiting rest
      return { more with given := given ++ more.given }
    else do
      let more ← readFrom choices none rest
      return { more with plain := argument :: more.plain }

def read (choices : List Choice) (arguments : List Text) : Option Arguments :=
  readFrom choices none arguments

end Arguments

end PluginReadme.Command
