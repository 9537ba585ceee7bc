import PluginReadme.Text.Quoted

/-!
# JSON values

The values that reports are made of, and their text with one entry a line. The entries of a table
keep their order.
-/

namespace PluginReadme

inductive Json where
  | null
  | bool (value : Bool)
  | integer (value : Int)
  /-- A number with a decimal point, as its digits and the count of those after the point. -/
  | decimal (digits : Int) (places : Nat)
  | text (value : Text)
  | list (items : List Json)
  | table (entries : List (Text × Json))
  deriving Inhabited

namespace Json

def ofText? : Option Text → Json
  | some t => .text t
  | none => .null

def ofInt? : Option Int → Json
  | some n => .integer n
  | none => .null

/-! ## Text -/

def decimalText (digits : Int) (places : Nat) : Text :=
  let all := Text.ofNat digits.natAbs
  let padded := List.replicate (places + 1 - all.length) '0' ++ all
  let whole := padded.take (padded.length - places)
  let part := Text.dropEndWhile (· == '0') (padded.drop (padded.length - places))
  (if digits < 0 then ['-'] else []) ++ whole ++ ['.'] ++ if part.isEmpty then ['0'] else part

/-- A character between the quotes of a JSON text: quotes, backslashes and control characters are
escaped. -/
def escapedChar (c : Char) : Text :=
  if c == '\"' || c == '\\' then ['\\', c]
  else if c == '\n' then "\\n"
  else if c == '\r' then "\\r"
  else if c == '\t' then "\\t"
  else if c.toNat == 0x08 then "\\b"
  else if c.toNat == 0x0C then "\\f"
  else if c.toNat < 0x20 then "\\u" ++ Text.hexDigits 4 c.toNat
  else [c]

def quoted (t : Text) : Text := '\"' :: t.flatMap escapedChar ++ ['\"']

def lineAt (indent depth : Nat) : Text := '\n' :: List.replicate (indent * depth) ' '

mutual

def writeAt (indent depth : Nat) : Json → Text
  | .null => "null"
  | .bool true => "true"
  | .bool false => "false"
  | .integer n => Text.ofInt n
  | .decimal digits places => decimalText digits places
  | .text t => quoted t
  | .list [] => "[]"
  | .list (item :: more) =>
    '[' :: lineAt indent (depth + 1) ++ writeAt indent (depth + 1) item ++
      writeItems indent (depth + 1) more ++ lineAt indent depth ++ [']']
  | .table [] => ['\x7b', '\x7d']
  | .table ((key, value) :: more) =>
    '\x7b' :: lineAt indent (depth + 1) ++ quoted key ++ ": " ++ writeAt indent (depth + 1) value ++
      writeEntries indent (depth + 1) more ++ lineAt indent depth ++ ['\x7d']

def writeItems (indent depth : Nat) : List Json → Text
  | [] => []
  | item :: more =>
    ',' :: lineAt indent depth ++ writeAt indent depth item ++ writeItems indent depth more

def writeEntries (indent depth : Nat) : List (Text × Json) → Text
  | [] => []
  | (key, value) :: more =>
    ',' :: lineAt indent depth ++ quoted key ++ ": " ++ writeAt indent depth value ++
      writeEntries indent depth more

end

/-- The text of a value, its parts on lines of their own. -/
def write (indent : Nat) (value : Json) : Text := writeAt indent 0 value

end Json

end PluginReadme
