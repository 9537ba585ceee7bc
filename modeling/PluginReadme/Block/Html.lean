import PluginReadme.Block.Line
import PluginReadme.Text.Blank

/-!
# HTML blocks

A line can open an HTML block in seven ways; each has its own end. The last way is a line that is a
complete tag, which a small automaton recognises.
-/

namespace PluginReadme.Block

/-! ## Complete tags -/

/-- Where a reader of a tag stands. -/
inductive TagState where
  | name
  | gap
  | attribute
  | beforeEquals
  | afterEquals
  | unquoted
  | single
  | double
  | valueEnd
  | slash
  | closeName
  | closeGap
  | done
  deriving DecidableEq, Repr

def isTagNameChar (c : Char) : Bool := c.isAlphanum || c == '-'

def isAttributeStart (c : Char) : Bool := c.isAlpha || c == '_' || c == ':'

def isAttributeChar (c : Char) : Bool :=
  c.isAlphanum || c == '_' || c == ':' || c == '.' || c == '-'

def isUnquotedChar (c : Char) : Bool :=
  0x20 < c.toNat && !("\"'=<>\x60" : Text).contains c

/-- The states that a character can lead to. A blank beyond ASCII can end an unquoted value or
belong to it. -/
def TagState.next (state : TagState) (c : Char) : List TagState :=
  let go (ok : Bool) (target : TagState) : List TagState := if ok then [target] else []
  let close := go (c == '/') .slash ++ go (c == '>') .done
  match state with
  | .name => go (isTagNameChar c) .name ++ go (isBlank c) .gap ++ close
  | .gap => go (isBlank c) .gap ++ go (isAttributeStart c) .attribute ++ close
  | .attribute =>
    go (isAttributeChar c) .attribute ++ go (isBlank c) .gap ++ go (isBlank c) .beforeEquals ++
      go (c == '=') .afterEquals ++ close
  | .beforeEquals => go (isBlank c) .beforeEquals ++ go (c == '=') .afterEquals
  | .afterEquals =>
    go (isBlank c) .afterEquals ++ go (isUnquotedChar c) .unquoted ++ go (c == '\'') .single ++
      go (c == '\"') .double
  | .unquoted => go (isUnquotedChar c) .unquoted ++ go (isBlank c) .gap ++ close
  | .single => if c == '\'' then [.valueEnd] else [.single]
  | .double => if c == '\"' then [.valueEnd] else [.double]
  | .valueEnd => go (isBlank c) .gap ++ close
  | .slash => go (c == '>') .done
  | .closeName => go (isTagNameChar c) .closeName ++ go (isBlank c) .closeGap ++ go (c == '>') .done
  | .closeGap => go (isBlank c) .closeGap ++ go (c == '>') .done
  | .done => go (isBlank c) .done

/-- Some way of reading the text from one of the states ends after a complete tag. -/
def TagState.accepts : List TagState → Text → Bool
  | states, [] => states.contains .done
  | states, c :: rest => accepts (states.flatMap (next · c)).eraseDups rest

/-- The line is one tag, with blanks after it at most. -/
def isCompleteTag (body : Text) : Bool :=
  match body with
  | '<' :: '/' :: c :: rest => c.isAlpha && TagState.accepts [.closeName] rest
  | '<' :: c :: rest => c.isAlpha && TagState.accepts [.name] rest
  | _ => false

/-! ## Openings -/

/-- The seven ways to open an HTML block. -/
inductive HtmlKind where
  | raw
  | comment
  | instruction
  | declaration
  | characterData
  | element
  | tag
  deriving DecidableEq, Repr

def rawElements : List Text := ["script", "pre", "style", "textarea"]

def blockElements : List Text :=
  (["address", "article", "aside", "base", "basefont", "blockquote", "body", "caption", "center",
   "col", "colgroup", "dd", "details", "dialog", "dir", "div", "dl", "dt", "fieldset", "figcaption",
   "figure", "footer", "form", "frame", "frameset", "h1", "h2", "h3", "h4", "h5", "h6", "head",
   "header", "hr", "html", "iframe", "legend", "li", "link", "main", "menu", "menuitem", "nav",
   "noframes", "ol", "optgroup", "option", "p", "param", "search", "section", "summary", "table",
   "tbody", "td", "tfoot", "th", "thead", "title", "tr", "track", "ul"] : List String).map
    String.toList

/-- What follows a name in small letters; capitals count as them, in ASCII only. -/
def afterName? (name t : Text) : Option Text :=
  if (t.take name.length).map Char.toLower = name then some (t.drop name.length) else none

def isAsciiBlank (c : Char) : Bool := c == ' ' || (0x09 ≤ c.toNat && c.toNat ≤ 0x0D)

/-- White space, a closing angle bracket or the end stands here. -/
def endsName (t : Text) : Bool :=
  match t with
  | [] => true
  | c :: _ => isAsciiBlank c || c == '>'

def opensRaw (body : Text) : Bool :=
  match body with
  | '<' :: rest => rawElements.any fun name ↦ (afterName? name rest).any endsName
  | _ => false

def opensElement (body : Text) : Bool :=
  match body with
  | '<' :: rest =>
    let inner := if rest.head? == some '/' then rest.tail else rest
    blockElements.any fun name ↦
      (afterName? name inner).any fun t ↦ endsName t || Text.startsWith "/>" t
  | _ => false

def opensDeclaration (body : Text) : Bool :=
  match body with
  | '<' :: '!' :: c :: _ => c.isAlpha
  | _ => false

def htmlKind? (body : Text) : Option HtmlKind :=
  if opensRaw body then some .raw
  else if Text.startsWith "<!--" body then some .comment
  else if Text.startsWith "<?" body then some .instruction
  else if opensDeclaration body then some .declaration
  else if Text.startsWith "<![CDATA[" body then some .characterData
  else if opensElement body then some .element
  else if isCompleteTag body then some .tag
  else none

/-- A closing tag of a raw element stands somewhere in the text. -/
def closesRaw : Text → Bool
  | [] => false
  | c :: rest =>
    (rawElements.any fun name ↦ (afterName? ("</" ++ name ++ ">") (c :: rest)).isSome) ||
      closesRaw rest

def HtmlKind.endsAt (kind : HtmlKind) (body : Text) : Bool :=
  match kind with
  | .raw => closesRaw body
  | .comment => Text.occurs "-->" body
  | .instruction => Text.occurs "?>" body
  | .declaration => body.contains '>'
  | .characterData => Text.occurs "]]>" body
  | .element | .tag => body.isEmpty

end PluginReadme.Block
