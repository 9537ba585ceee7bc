import PluginReadme.Check.Issue
import PluginReadme.Text.Case
import PluginReadme.Text.Blank
import PluginReadme.Text.Class
import PluginReadme.Text.Scan

/-!
# Issues of the wording

Promotional words and e-mail addresses. A place between a word character and another one is never
the edge of a word, so that `project` holds no `pro`.
-/

namespace PluginReadme.Check

/-! ## Promotion -/

/-- A word of its own, without regard to case. -/
def loneWord (word : Text) : Recogniser Unit := fun before t ↦
  match Text.afterFolded? word t with
  | some rest =>
    if before.any isWordChar || rest.head?.any isWordChar then none
    else some ((), t.length - rest.length - 1)
  | none => none

/-- What follows two words with blanks between them. -/
def afterPhrase? (first second t : Text) : Option Text :=
  match Text.afterFolded? first t with
  | some rest =>
    if rest.head?.any isBlank then Text.afterFolded? second (Text.stripLeft rest) else none
  | none => none

/-- The word `pro` in a phrase that promotes, or alone. A phrase does not have to end where a word
ends. -/
def proPhrase : Recogniser Unit := fun before t ↦
  let rest? := afterPhrase? "pro" "version" t <|> afterPhrase? "pro" "edition" t <|>
    afterPhrase? "go" "pro" t <|>
    (Text.afterFolded? "pro" t).filter fun rest ↦ !rest.head?.any isWordChar
  match rest? with
  | some rest => if before.any isWordChar then none else some ((), t.length - rest.length - 1)
  | none => none

def promotions : List (Text × Recogniser Unit) :=
  let words := (["best", "ultimate", "premium", "advanced", "professional"] : List String).map
    String.toList
  words.map (fun word ↦ (word, loneWord word)) ++ [("pro".toList, proPhrase)]

def promotionsOn (line : Text) : List (Nat × Nat × Text) :=
  (promotions.flatMap fun (word, read) ↦
    (Scan.hits read line).map fun hit ↦ (hit.start, hit.stop, word)).mergeSort
      fun a b ↦ a.1 ≤ b.1

def promotionalLanguage (lines : List Text) : List Issue :=
  lines.zipIdx.flatMap fun (line, index) ↦
    (promotionsOn line).map fun (start, stop, word) ↦
      { (Issue.warning .promotionalLanguage
          ("Consider avoiding promotional language like \"" ++ word ++ "\"")).spanning
          (index + 1) start stop with
        hint := some "Focus on functionality rather than marketing terms".toList }

/-! ## E-mail addresses -/

def isMailName (c : Char) : Bool :=
  c.isAlphanum || c == '.' || c == '_' || c == '%' || c == '+' || c == '-'

def isMailHost (c : Char) : Bool := c.isAlphanum || c == '.' || c == '-'

/-- The length of a point and a last part of at least two letters, after which no word goes on. -/
def lastPart? : Text → Option Nat
  | '.' :: rest =>
    let letters := rest.takeWhile Char.isAlpha
    if 2 ≤ letters.length && !(rest.drop letters.length).head?.any isWordChar then
      some (letters.length + 1)
    else none
  | _ => none

/-- The length of the longest host name that starts the text and ends in a last part; at least one
character stands before the last part. -/
def hostLength? : Text → Option Nat
  | [] => none
  | c :: rest =>
    if isMailHost c then (hostLength? rest <|> lastPart? rest).map (· + 1) else none

/-- An e-mail address. It starts and ends at the edge of a word. -/
def mailAddress : Recogniser Unit := fun before t ↦
  let atEdge := t.head?.any fun c ↦ isWordChar c != before.any isWordChar
  if !atEdge then none
  else
    let name := t.takeWhile isMailName
    match t.drop name.length with
    | '@' :: host =>
      if name.isEmpty then none else (hostLength? host).map fun length ↦ ((), name.length + length)
    | _ => none

def mailAddresses (lines : List Text) : List Issue :=
  lines.zipIdx.flatMap fun (line, index) ↦
    (Scan.hits mailAddress line).map fun hit ↦
      (Issue.warning .emailAddress
        ("Avoid including email addresses in readme, " ++
          "use WordPress.org support forums instead").toList).spanning
        (index + 1) hit.start hit.stop

end PluginReadme.Check
