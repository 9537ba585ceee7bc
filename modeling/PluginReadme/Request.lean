import PluginReadme.Json

/-!
# Requests from outside

Callers without types can hand in any JSON value. Every entry point takes a text, and settings with
fixed choices take one of them; anything else is refused with a message that shows what was given.
-/

namespace PluginReadme.Request

/-- What an entry point was given instead of a text. -/
structure NotText where
  entry : Text
  given : Json

def kindName : Json → Text
  | .null => "NoneType"
  | .bool _ => "bool"
  | .integer _ => "int"
  | .decimal _ _ => "float"
  | .text _ => "str"
  | .list _ => "list"
  | .table _ => "dict"

def NotText.message (fault : NotText) : Text :=
  fault.entry ++ "() expects str, got " ++ kindName fault.given

def text (entry : Text) : Json → Except NotText Text
  | .text t => .ok t
  | given => .error ⟨entry, given⟩

mutual

def shown : Json → Text
  | .null => "None"
  | .bool true => "True"
  | .bool false => "False"
  | .integer n => Text.ofInt n
  | .decimal digits places => Json.decimalText digits places
  | .text t => Text.quoted t
  | .list items => '[' :: shownItems items ++ [']']
  | .table entries => '\x7b' :: shownEntries entries ++ ['\x7d']

def shownItems : List Json → Text
  | [] => []
  | [item] => shown item
  | item :: more => shown item ++ ", " ++ shownItems more

def shownEntries : List (Text × Json) → Text
  | [] => []
  | [(key, value)] => Text.quoted key ++ ": " ++ shown value
  | (key, value) :: more => Text.quoted key ++ ": " ++ shown value ++ ", " ++ shownEntries more

end

/-- A value that is none of the choices of a setting. -/
structure UnknownChoice where
  setting : Text
  given : Json
  choices : List Text

def UnknownChoice.message (fault : UnknownChoice) : Text :=
  "Unknown " ++ fault.setting ++ " " ++ shown fault.given ++ ", expected one of " ++
    Text.join ", " fault.choices

def choice {α : Type} (setting : Text) (choices : List (Text × α)) (given : Json) :
    Except UnknownChoice α :=
  let unknown : Except UnknownChoice α := .error ⟨setting, given, choices.map (·.1)⟩
  match given with
  | .text name =>
    match choices.lookup name with
    | some value => .ok value
    | none => unknown
  | _ => unknown

end PluginReadme.Request
