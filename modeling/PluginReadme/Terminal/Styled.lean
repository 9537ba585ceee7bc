import PluginReadme.Terminal.Picture
import PluginReadme.Terminal.Style

/-!
# Styled messages

A message may hold style tags in brackets, such as `[red]` and `[/red]`. They do not show; what does
not look like a tag does, and a backslash keeps a tag from being read. A closing tag has to close
something. What a tag has behind an equals sign is not read.
-/

namespace PluginReadme

/-- Why a message cannot be printed. -/
structure StyleFault where
  message : Text
  deriving DecidableEq, Repr

namespace Terminal

/-! ## Tags -/

/-- The first character of a tag. -/
def isTagStart (c : Char) : Bool := c.isLower || c == '#' || c == '/' || c == '@'

def tagInside? (t : Text) : Option Text :=
  let inside := t.takeWhile fun c ↦ c != '[' && c != ']'
  if t.head?.any isTagStart && Text.startsWith "]" (t.drop inside.length) then some inside else none

/-- A tag after any number of backslashes: that number and the inside. -/
def tag : Recogniser (Nat × Text) := fun _ t ↦
  let rest := t.dropWhile (· == '\\')
  let slashes := t.length - rest.length
  match rest with
  | '[' :: body => (tagInside? body).map fun inside ↦
    ((slashes, inside), slashes + inside.length + 1)
  | _ => none

/-- What a message is made of: text to show, and tags with their offsets. -/
inductive Token where
  | shown (t : Text)
  | tag (offset : Nat) (inside : Text)
  deriving DecidableEq, Repr

/-- A pair of backslashes in front of a tag shows one; an odd one shows the tag. -/
def tokensOfTag (offset slashes : Nat) (inside : Text) : List Token :=
  .shown (List.replicate (slashes / 2) '\\') ::
    if slashes % 2 = 1 then [.shown ('[' :: inside ++ [']'])]
    else [.tag (offset + slashes) inside]

def tokensFrom (offset : Nat) : List (Scan.Stretch (Nat × Text)) → List Token
  | [] => []
  | .plain t :: rest =>
    .shown (Text.replaceAll "\\[" "[" t) :: tokensFrom (offset + t.length) rest
  | .mark (slashes, inside) :: rest =>
    tokensOfTag offset slashes inside ++
      tokensFrom (offset + slashes + inside.length + 2) rest

def tokens (message : Text) : List Token :=
  tokensFrom 0 (Scan.stretches (Scan.pieces tag message))

/-! ## Styles -/

/-- The styles that are open after a tag, innermost first. A closing tag closes the innermost style
of its name, or the innermost of all. -/
def openedAfter (opened : List Text) (inside : Text) : Except TagFault (List Text) :=
  match inside.takeWhile (· != '=') with
  | '/' :: closing =>
    let closing := Text.strip closing
    if closing.isEmpty then
      match opened with
      | _ :: opened => .ok opened
      | [] => .error (.unopened [])
    else do
      let style ← styleName closing
      if opened.contains style then return opened.erase style else throw (.unopened inside)
  | name => return (← styleName name) :: opened

def TagFault.message (offset : Nat) : TagFault → Text
  | .unopened tag =>
    let place := "' at position " ++ Text.ofNat offset
    if tag.isEmpty then "closing tag '[/]" ++ place ++ " has nothing to close"
    else "closing tag '[" ++ tag ++ "]" ++ place ++ " doesn't match any open tag"
  | .noDigits => "invalid literal for int() with base 10: ''"

/-- The text that tokens show while the given styles are open. -/
def shownFrom (opened : List Text) : List Token → Except StyleFault Text
  | [] => .ok []
  | .shown t :: rest => return pictured t ++ (← shownFrom opened rest)
  | .tag offset inside :: rest => do
    shownFrom (← (openedAfter opened inside).mapError (⟨·.message offset⟩)) rest

/-- The control characters that a terminal would act upon. -/
def isControl (c : Char) : Bool :=
  let n := c.toNat
  n == 0x07 || n == 0x08 || n == 0x0B || n == 0x0C || n == 0x0D

def withoutControls (t : Text) : Text := t.filter fun c ↦ !isControl c

/-- The text that a message shows. -/
def shown (message : Text) : Except StyleFault Text := do
  return withoutControls (← shownFrom [] (tokens message))

/-! ## Escaping -/

/-- The message that shows the given text: one more backslash keeps each tag from being read. -/
def escaped (t : Text) : Text :=
  let written := Scan.substitute tag
    (fun (slashes, inside) ↦ List.replicate (2 * slashes + 1) '\\' ++ '[' :: inside ++ [']']) t
  if Text.endsWith "\\" written && !Text.endsWith "\\\\" written then written ++ "\\" else written

end Terminal

end PluginReadme
