import PluginReadme.Toml.Value

/-!
# Faults of TOML documents

Why a document cannot be read, and where. Readers answer what they read and the text after it, or a
cause and the text from the fault on, from which its place is counted.
-/

namespace PluginReadme.Toml

inductive Cause where
  | statement
  | trailing
  | missing (mark : Text)
  | forbidden (c : Char)
  | declaredTwice (key : Key)
  | overwritten
  | openHeader
  | openListHeader
  | closed (key : Key)
  | redefined (key : Key)
  | noEquals
  | keyStart
  | openList
  | openTable
  | repeated (name : Text)
  | escape
  | hexDigits
  | noCharacter
  | openText
  | illegal (c : Char)
  | noDate
  | tooLong (digits : Nat)
  | value
  deriving DecidableEq, Repr

def mostDigits : Nat := 4300

def shownKey (key : Key) : Text :=
  '(' :: Text.join ", " (key.map Text.quoted) ++ (if key.length = 1 then ",)" else ")" : Text)

def Cause.message : Cause → Text
  | .statement => "Invalid statement"
  | .trailing => "Expected newline or end of document after a statement"
  | .missing mark => "Expected " ++ Text.quoted mark
  | .forbidden c => "Found invalid character " ++ Text.quoted [c]
  | .declaredTwice key => "Cannot declare " ++ shownKey key ++ " twice"
  | .overwritten => "Cannot overwrite a value"
  | .openHeader => "Expected ']' at the end of a table declaration"
  | .openListHeader => "Expected ']]' at the end of an array declaration"
  | .closed key => "Cannot mutate immutable namespace " ++ shownKey key
  | .redefined key => "Cannot redefine namespace " ++ shownKey key
  | .noEquals => "Expected '=' after a key in a key/value pair"
  | .keyStart => "Invalid initial character for a key part"
  | .openList => "Unclosed array"
  | .openTable => "Unclosed inline table"
  | .repeated name => "Duplicate inline table key " ++ Text.quoted name
  | .escape => "Unescaped '\\' in a string"
  | .hexDigits => "Invalid hex value"
  | .noCharacter => "Escaped character is not a Unicode scalar value"
  | .openText => "Unterminated string"
  | .illegal c => "Illegal character " ++ Text.quoted [c]
  | .noDate => "Invalid date or datetime"
  | .tooLong digits =>
    "Exceeds the limit (" ++ Text.ofNat mostDigits ++
      " digits) for integer string conversion: value has " ++ Text.ofNat digits ++
      " digits; use sys.set_int_max_str_digits() to increase the limit"
  | .value => "Invalid value"

/-- A cause and the text before the place where it arose, or none at the end of the document. -/
structure Fault where
  cause : Cause
  before? : Option Text
  deriving DecidableEq, Repr

def Fault.message (fault : Fault) : Text :=
  let place : Text := match fault.before? with
    | none => "end of document"
    | some before =>
      let line := before.count '\n' + 1
      let column := (Text.takeEndWhile (· != '\n') before).length + 1
      "line " ++ Text.ofNat line ++ ", column " ++ Text.ofNat column
  fault.cause.message ++ " (at " ++ place ++ ")"

/-- A reader: what it read and the text after it, or a cause and the text from the fault on. -/
abbrev Reader (α : Type) := Text → Except (Cause × Text) (α × Text)

/-- The fault at a place of a document, given by the text from there on. -/
def Fault.at (document : Text) (cause : Cause) (rest : Text) : Fault :=
  ⟨cause, if rest.isEmpty then none else some (document.take (document.length - rest.length))⟩

end PluginReadme.Toml
