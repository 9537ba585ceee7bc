import PluginReadme.Markup.Escape
import PluginReadme.Text.Class

/-!
# Headings, quotes and lists

Each of these is read line by line. A heading is one line; neighbouring lines of a quote, or of a
list of one kind, make one element.
-/

namespace PluginReadme.Markup

/-! ## Headings -/

/-- A line with three to six number signs and a space becomes a heading of that level. -/
def headingLine (line : Text) : Text :=
  let level := (line.takeWhile (· == '#')).length
  match line.drop level with
  | ' ' :: title =>
    if 3 ≤ level && level ≤ 6 && !title.isEmpty then
      element ('h' :: Text.ofNat level) title
    else line
  | _ => line

/-! ## Quotes -/

def quoteHtml (lines : List Text) : Text := element "blockquote" (Text.join "<br>" lines)

/-- The element that the collected lines of a quote make, last first; no lines make none. -/
def closeQuote (collected : List Text) : List Text :=
  if collected.isEmpty then [] else [quoteHtml collected.reverse]

def quotesFrom (collected : List Text) : List Text → List Text
  | [] => closeQuote collected
  | line :: rest =>
    match Text.after? "> " line with
    | some quoted => quotesFrom (quoted :: collected) rest
    | none => closeQuote collected ++ line :: quotesFrom [] rest

/-- The lines with every run of quoted ones as one element. -/
def quotes (lines : List Text) : List Text := quotesFrom [] lines

/-! ## Lists -/

inductive ListKind where
  | ordered
  | unordered
  deriving DecidableEq, Repr

def ListKind.tag : ListKind → Text
  | .ordered => "ol"
  | .unordered => "ul"

/-- What follows at least one blank; of blanks only, the last is taken for the content. -/
def afterBlanks? (t : Text) : Option Text :=
  let content := Text.stripLeft t
  if content.length = t.length then none
  else if !content.isEmpty then some content
  else if 2 ≤ t.length then t.getLast?.map fun c ↦ [c]
  else none

/-- A number and a point, then the item. -/
def orderedItem? (line : Text) : Option Text :=
  let rest := line.dropWhile isDecimal
  match rest with
  | '.' :: tail => if rest.length < line.length then afterBlanks? tail else none
  | _ => none

/-- An asterisk or a hyphen, then the item. -/
def unorderedItem? (line : Text) : Option Text :=
  match line with
  | '*' :: rest => afterBlanks? rest
  | '-' :: rest => afterBlanks? rest
  | _ => none

def item? (line : Text) : Option (ListKind × Text) :=
  (orderedItem? line).map (.ordered, ·) <|> (unorderedItem? line).map (.unordered, ·)

def listHtml (kind : ListKind) (items : List Text) : Text :=
  element kind.tag (items.flatMap (element "li"))

abbrev OpenList := Option (ListKind × List Text)

def closeList : OpenList → List Text
  | some (kind, items) => [listHtml kind items.reverse]
  | none => []

def listsFrom (current : OpenList) : List Text → List Text
  | [] => closeList current
  | line :: rest =>
    match item? line, current with
    | none, _ => closeList current ++ line :: listsFrom none rest
    | some (kind, item), none => listsFrom (some (kind, [item])) rest
    | some (kind, item), some (other, items) =>
      if kind = other then listsFrom (some (kind, item :: items)) rest
      else closeList current ++ listsFrom (some (kind, [item])) rest

/-- The lines with every run of items of one kind as one element. -/
def lists (lines : List Text) : List Text := listsFrom none lines

end PluginReadme.Markup
