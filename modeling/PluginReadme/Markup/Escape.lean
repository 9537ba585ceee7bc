import PluginReadme.Readme.Fence
import PluginReadme.Text.Lines
import PluginReadme.Text.Scan

/-!
# Escaping

The five characters with a meaning in HTML become entities. Where raw HTML is not allowed, tags
outside of code are escaped; code is escaped later, when it is written.
-/

namespace PluginReadme.Markup

def escapedChar (c : Char) : Text :=
  if c == '&' then "&amp;"
  else if c == '<' then "&lt;"
  else if c == '>' then "&gt;"
  else if c == '\"' then "&quot;"
  else if c == '\'' then "&#39;"
  else [c]

/-- The text with entities in place of the characters that HTML reads. -/
def escape (t : Text) : Text := t.flatMap escapedChar

def element (tag inside : Text) : Text :=
  '<' :: tag ++ '>' :: inside ++ "</" ++ tag ++ ">"

/-! ## Raw tags -/

/-- What follows the name of a tag up to its end, as a number of characters. -/
def tagTail? (t : Text) : Option Nat :=
  match t with
  | '>' :: _ => some 1
  | '/' :: '>' :: _ => some 2
  | c :: _ =>
    let inside := t.takeWhile fun c ↦ c != '<' && c != '>'
    if isBlank c && Text.startsWith ">" (t.drop inside.length) then some (inside.length + 1)
    else none
  | [] => none

/-- The name of a tag and what follows it, as a number of characters. -/
def tagBody? (t : Text) : Option Nat :=
  let name := t.takeWhile fun c ↦ c.isAlphanum || c == '-'
  if name.head?.any Char.isAlpha then
    (tagTail? (t.drop name.length)).map (name.length + ·)
  else none

def rawTag : Recogniser Text := fun _ t ↦
  match t with
  | '<' :: '/' :: rest => (tagBody? rest).map fun length ↦ (t.take (length + 2), length + 1)
  | '<' :: rest => (tagBody? rest).map fun length ↦ (t.take (length + 1), length)
  | _ => none

def escapeTags (t : Text) : Text := Scan.substitute rawTag escape t

def codeSpan : Recogniser Text := fun _ t ↦
  match t with
  | '\x60' :: rest =>
    let code := rest.takeWhile fun c ↦ !Fence.isBacktick c
    if code.length < rest.length then some (t.take (code.length + 2), code.length + 1) else none
  | _ => none

def escapeLine (line : Text) : Text :=
  (Scan.stretches (Scan.pieces codeSpan line)).flatMap fun
    | .plain t => escapeTags t
    | .mark span => span

/-- The lines with the tags outside of code escaped; `fenced` says that a fence is open. -/
def escapeLinesFrom (fenced : Bool) : List Text → List Text
  | [] => []
  | line :: rest =>
    if Fence.isFence line then line :: escapeLinesFrom (!fenced) rest
    else (if fenced then line else escapeLine line) :: escapeLinesFrom fenced rest

def escapeRawTags (t : Text) : Text := Text.join "\n" (escapeLinesFrom false (Text.lines t))

end PluginReadme.Markup
