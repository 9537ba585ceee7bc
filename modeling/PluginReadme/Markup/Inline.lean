import PluginReadme.Block.Collector
import PluginReadme.Markup.Escape
import PluginReadme.Url.Reference

/-!
# Code, links and emphasis

These marks are read in the whole text, across lines. Code comes first and its content is escaped;
links follow, first those with an address and then those with a label; emphasis comes last.
-/

namespace PluginReadme.Markup

/-! ## Code -/

/-- A block between two runs of three backticks, without backticks inside. -/
def codeBlock : Recogniser Text := fun _ t ↦
  match Text.after? Fence.mark t with
  | some rest =>
    let code := rest.takeWhile fun c ↦ !Fence.isBacktick c
    if Text.startsWith Fence.mark (rest.drop code.length) then some (code, code.length + 5)
    else none
  | none => none

def isLanguageChar (c : Char) : Bool := c.isAlphanum || c == '_' || c == '+' || c == '-'

/-- The name of a language alone on the first line, and the code after it. -/
def cutLanguage? (code : Text) : Option (Text × Text) :=
  let language := code.takeWhile isLanguageChar
  let rest := (code.drop language.length).dropWhile fun c ↦ c == ' ' || c == '\t'
  match rest with
  | '\n' :: body => if language.isEmpty then none else some (language, body)
  | _ => none

def codeBlockHtml (code : Text) : Text :=
  match cutLanguage? code with
  | some (language, body) =>
    "<pre><code class=\"language-" ++ escape language ++ "\">" ++ escape (Text.strip body) ++
      "</code></pre>"
  | none => element "pre" (element "code" (escape (Text.strip code)))

def codeBlocks (t : Text) : Text := Scan.substitute codeBlock codeBlockHtml t

/-! ## Links -/

/-- A link as it is written: its text, its address and its title. -/
structure Link where
  text : Text
  address : Text
  title : Option Text
  deriving DecidableEq, Repr

/-- A title in double quotes after blanks, then a closing parenthesis; the title and its length
with the parenthesis. -/
def linkTitle? (t : Text) : Option (Text × Nat) :=
  let rest := Text.stripLeft t
  match rest with
  | '\"' :: body =>
    let title := body.takeWhile (· != '\"')
    if rest.length < t.length && Text.startsWith "\")" (body.drop title.length) then
      some (title, t.length - rest.length + title.length + 3)
    else none
  | _ => none

/-- A text in brackets that is not empty, and what follows it. -/
def bracketed? (t : Text) : Option (Text × Text) :=
  match t with
  | '[' :: rest =>
    let inside := rest.takeWhile (· != ']')
    match rest.drop inside.length with
    | ']' :: tail => if inside.isEmpty then none else some (inside, tail)
    | _ => none
  | _ => none

def link : Recogniser Link := fun _ t ↦
  match bracketed? t with
  | some (text, '(' :: rest) =>
    let address := rest.takeWhile fun c ↦ c != ')' && !isBlank c
    let tail := rest.drop address.length
    let before := text.length + address.length + 2
    if address.isEmpty then none
    else if Text.startsWith ")" tail then some (⟨text, address, none⟩, before + 1)
    else (linkTitle? tail).map fun (title, length) ↦ (⟨text, address, some title⟩, before + length)
  | _ => none

def labelLink : Recogniser (Text × Text × Text) := fun _ t ↦
  match bracketed? t with
  | some (text, '[' :: rest) =>
    let label := rest.takeWhile (· != ']')
    let length := text.length + label.length + 4
    if label.length < rest.length then some ((t.take length, text, label), length - 1) else none
  | _ => none

/-- The address has a scheme or two slashes, or is a fragment. -/
def isAbsolute (address : Text) : Bool :=
  let isPart (c : Char) : Bool :=
    let folded := foldCase c
    folded.isLower || folded.isDigit || folded == '+' || folded == '.' || folded == '-'
  let name := address.takeWhile isPart
  Text.startsWith "#" address || Text.startsWith "//" address ||
    (name.head?.any (fun c ↦ (foldCase c).isLower) &&
      Text.startsWith ":" (address.drop name.length))

/-- An address read at the base address, if it is relative and there is a base. -/
def addressAt (base : Option Text) (address : Text) : Except Url.Fault Text :=
  match base with
  | some base => if isAbsolute address then .ok address else Url.resolve base address
  | none => .ok address

def titleAttribute (title : Option Text) : Text :=
  match title.filter fun t ↦ !t.isEmpty with
  | some title => " title=\"" ++ escape title ++ "\""
  | none => []

def linkHtml (base : Option Text) (link : Link) : Except Url.Fault Text := do
  let address ← addressAt base link.address
  return "<a href=\"" ++ escape address ++ "\"" ++ titleAttribute link.title ++ ">" ++
    escape link.text ++ "</a>"

/-- The element for a link with a label; an empty label is the text, and a link whose label is not
defined stays as it was written. -/
def labelLinkHtml [LinkDefinition.Collector] (base : Option Text)
    (definitions : List LinkDefinition) (link : Text × Text × Text) : Except Url.Fault Text :=
  let (written, text, label) := link
  match LinkDefinition.find? definitions (if label.isEmpty then text else label) with
  | some definition => linkHtml base ⟨text, definition.address, definition.title⟩
  | none => .ok written

def links [LinkDefinition.Collector] (base : Option Text) (definitions : List LinkDefinition)
    (t : Text) : Except Url.Fault Text := do
  let direct ← Scan.substituteE link (linkHtml base) t
  if definitions.isEmpty then return direct
  else Scan.substituteE labelLink (labelLinkHtml base definitions) direct

/-! ## Emphasis -/

/-- Something without the sign `c`, between two marks of which each is `count` such signs. -/
def enclosedBy (c : Char) (count : Nat) : Recogniser Text := fun _ t ↦
  let mark := List.replicate count c
  match Text.after? mark t with
  | some rest =>
    let inside := rest.takeWhile (· != c)
    if !inside.isEmpty && Text.startsWith mark (rest.drop inside.length) then
      some (inside, inside.length + 2 * count - 1)
    else none
  | none => none

/-- Code spans, then bold text, then italic text. -/
def emphasis (t : Text) : Text :=
  let coded := Scan.substitute (enclosedBy '\x60' 1) (fun code ↦ element "code" (escape code)) t
  let bold := Scan.substitute (enclosedBy '*' 2) (element "strong") coded
  Scan.substitute (enclosedBy '*' 1) (element "em") bold

end PluginReadme.Markup
