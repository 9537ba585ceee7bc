import PluginReadme.Markup.Inline
import PluginReadme.Markup.Runs
import PluginReadme.Markup.Video

/-!
# Rendering

The markup of readmes becomes HTML in a fixed order of passes, each of which reads what the ones
before it wrote. Paragraphs are made last, of the parts between blank lines.
-/

namespace PluginReadme.Markup

structure Options where
  allowVideos : Bool := true
  /-- Tags outside of code stay as they are. -/
  allowHtml : Bool := false
  /-- The address that relative links are read at; an empty one is none. -/
  base : Option Text := none
  resolveLabels : Bool := true
  deriving DecidableEq, Repr, Inhabited

def Options.base? (options : Options) : Option Text :=
  options.base.filter fun t ↦ !t.isEmpty

/-- A line without the blanks around it, or the player of the video that it stands for. -/
def renderLine (options : Options) (line : Text) : Text :=
  let line := Text.strip line
  if options.allowVideos then ((Video.ofLine? line).map Video.html).getD line else line

def prepare (options : Options) (definitions : List LinkDefinition) (t : Text) : Text :=
  let body := if definitions.isEmpty then t else LinkDefinition.strip definitions t
  if options.allowHtml then body else escapeRawTags body

/-- The lines after everything that is read line by line. -/
def renderLines (options : Options) (t : Text) : Text :=
  let headed := (Text.lines t).map fun line ↦ headingLine (renderLine options line)
  Text.join "\n" (lists (quotes headed))

inductive Fault where
  | blocks (fault : Block.Fault)
  | address (fault : Url.Fault)
  deriving DecidableEq, Repr

def Fault.message : Fault → Text
  | .blocks fault => fault.message
  | .address fault => fault.message

variable [LinkDefinition.Collector]

def definitionsOf (options : Options) (t : Text) : Except Block.Fault (List LinkDefinition) :=
  if options.resolveLabels then LinkDefinition.Collector.definitions t else .ok []

def render (options : Options) (t : Text) : Except Fault Text := do
  let definitions ← (definitionsOf options t).mapError .blocks
  let lines := renderLines options (prepare options definitions t)
  let linked ← (links options.base? definitions (codeBlocks lines)).mapError .address
  return emphasis linked

/-! ## Paragraphs -/

/-- The parts between blank lines, without the blanks at the end of the text; `blanks` holds the
blanks just read. -/
def partsFrom (blanks : Text) : Text → List Text
  | [] => [[]]
  | c :: rest =>
    if isBlank c then partsFrom (c :: blanks) rest
    else
      let more := Text.consFirst c (partsFrom [] rest)
      if 2 ≤ blanks.count '\n' then [] :: more
      else
        match more with
        | [] => []
        | first :: others => (blanks.reverse ++ first) :: others

/-- The beginnings of HTML that stands on its own. -/
def blockStarts : List Text :=
  (["<div", "<blockquote", "<ul", "<ol", "<pre", "<h"] : List String).map String.toList

def paragraph (t : Text) : Text :=
  if blockStarts.any fun start ↦ Text.startsWith start t then t
  else element "p" (Text.replaceAll "\n" "<br>" t)

def wrap (html : Text) : Text :=
  let parts := ((partsFrom [] html).map Text.strip).filter fun part ↦ !part.isEmpty
  Text.join "\n\n" (parts.map paragraph)

/-! ## Sections -/

def isGap (c : Char) : Bool := c == ' ' || c == '\t'

/-- The title of an item between single marks, with spaces and tabs around it dropped. -/
def itemTitle? (line : Text) : Option Text :=
  let trimmed := Text.trim isGap line
  match trimmed with
  | '=' :: rest =>
    if rest.getLast? = some '=' then
      let inside := rest.dropLast
      let title := Text.trim isGap inside
      if !title.isEmpty then some title else inside.getLast?.map fun c ↦ [c]
    else none
  | _ => none

/-- Headings of items as headings with number signs. -/
def withItemHeadings (t : Text) : Text :=
  Text.join "\n" ((Text.splitOn '\n' t).map fun line ↦
    match itemTitle? line with
    | some title => "### " ++ title
    | none => line)

def renderSection (options : Options) (content : Text) : Except Fault Text := do
  return wrap (← render options (withItemHeadings content))

end PluginReadme.Markup
