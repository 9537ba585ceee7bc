import PluginReadme.Check.Verdict
import PluginReadme.Markup.Render
import PluginReadme.Preview.Slug
import PluginReadme.Preview.Static
import PluginReadme.Url.Encode

/-!
# Preview pages

A page shows what the checks found, the header of the readme, and its sections: one below the other,
or in tabs with the customary ones first.
-/

namespace PluginReadme.Page

inductive Theme where
  | plain
  | directory
  deriving DecidableEq, Repr, Inhabited

def Theme.name : Theme → Text
  | .plain => "default"
  | .directory => "wordpress-org"

def Theme.choices : List (Text × Theme) :=
  ([.plain, .directory] : List Theme).map fun theme ↦ (theme.name, theme)

/-! ## Sections -/

/-- A section with its name on the page and its HTML. -/
structure Panel where
  id : Text
  title : Text
  html : Text
  deriving DecidableEq, Repr, Inhabited

def baseId (title : Text) : Text :=
  let id := sectionId title
  if id.isEmpty then "section" else id

/-- The names of sections with the given titles. A name that comes again gets its count; `seen`
holds the names before. -/
def idsFrom (seen : List Text) : List Text → List Text
  | [] => []
  | title :: rest =>
    let id := baseId title
    let count := seen.count id
    (if count = 0 then id else id ++ '-' :: Text.ofNat (count + 1)) :: idsFrom (id :: seen) rest

def panels [LinkDefinition.Collector] (options : Markup.Options) (sections : List Section) :
    Except Markup.Fault (List Panel) :=
  (sections.zip (idsFrom [] (sections.map (·.title)))).mapM fun (part, id) ↦ do
    return ⟨id, part.title, ← Markup.renderSection options part.content⟩

/-- The panels that have tabs of their own first, in the order of the tabs, then the others. -/
def inTabOrder (panels : List Panel) : List Panel :=
  (tabIds.flatMap fun id ↦ panels.filter fun panel ↦ panel.id == id) ++
    panels.filter fun panel ↦ !isTabId panel.id

/-! ## What the checks found -/

def counted (n : Nat) (noun : String) : Text :=
  Text.ofNat n ++ ' ' :: noun.toList ++ if n = 1 then [] else ['s']

def status (verdict : Verdict) : Text × Text :=
  if !verdict.errors.isEmpty then ("error", counted verdict.errors.length "Error")
  else if !verdict.warnings.isEmpty then ("warning", counted verdict.warnings.length "Warning")
  else ("success", "Valid")

def issueLines (issue : Issue) : List Text :=
  let line := match issue.line with
    | some n =>
      if n = 0 then [] else " <span class=\"line-number\">(line " ++ Text.ofInt n ++ ")</span>"
    | none => []
  let field := match (issue.subject.map Subject.key).filter fun key ↦ !key.isEmpty with
    | some key => " <span class=\"field-name\">(" ++ key ++ ")</span>"
    | none => []
  let suggestion := match issue.suggestion.filter fun t ↦ !t.isEmpty with
    | some t => ["<div class=\"validation-suggestion\">&rarr; " ++ Markup.escape t ++ "</div>"]
    | none => []
  ["<div class=\"validation-item " ++ issue.severity.name ++ "\">",
    "<div class=\"validation-message\">" ++ Markup.escape issue.message ++ line ++ field ++
      "</div>"]
    ++ suggestion ++ ["</div>".toList]

def detailLines (issues : List Issue) : List Text :=
  if issues.isEmpty then []
  else
    (["<div class=\"validation-details\">", "<details>", "<summary>Show Details</summary>",
      "<div class=\"validation-items\">"] : List String).map String.toList ++
    issues.flatMap issueLines ++
    (["</div>", "</details>", "</div>"] : List String).map String.toList

def summaryLines (verdict : Verdict) : List Text :=
  let (kind, state) := status verdict
  ["<div class=\"validation-summary " ++ kind ++ "\">",
    "<div class=\"validation-status\">",
    "<span class=\"status-text\">" ++ state ++ "</span>",
    "<span class=\"score\">Score: " ++ Text.ofInt verdict.score ++ "/100</span>",
    "</div>"] ++ detailLines verdict.issues ++ ["</div>".toList]

/-! ## The header -/

def orElse (t other : Text) : Text := if t.isEmpty then other else t

def metaItem (label html : Text) : Text :=
  "<div class=\"meta-item\"><label>" ++ label ++ ":</label> " ++ html ++ "</div>"

def metaRow (items : List Text) : List Text :=
  "<div class=\"meta-row\">".toList :: items ++ ["</div>".toList]

def span (html : Text) : Text := Markup.element "span" html

def listed (glue remark : Text) (elements : List Text) : Text :=
  if elements.isEmpty then "<span class=\"missing\">" ++ remark ++ "</span>"
  else Text.join glue elements

def contributorHtml (name : Text) : Text :=
  "<a href=\"https://profiles.wordpress.org/" ++ Url.encodeComponent (Text.strip name) ++
    "\" class=\"contributor\">" ++ Markup.escape name ++ "</a>"

def tagHtml (tag : Text) : Text := "<span class=\"tag\">" ++ Markup.escape tag ++ "</span>"

def licenseHtml (header : Header) : Text :=
  let name := Markup.escape (orElse header.license "N/A")
  if header.licenseUri.isEmpty then name
  else "<a href=\"" ++ Markup.escape header.licenseUri ++ "\">" ++ name ++ "</a>"

def nameHtml (header : Header) : Text := Markup.escape (orElse header.pluginName "Untitled Plugin")

def headerLines (header : Header) (hasFieldErrors : Bool) : List Text :=
  let plain (label value : Text) : Text := metaItem label (span (Markup.escape value))
  let donate := if header.donateLink.isEmpty then []
    else [metaItem "Donate" ("<a href=\"" ++ Markup.escape header.donateLink ++
      "\">Support this plugin</a>")]
  let php := if header.requiresPhp.isEmpty then []
    else metaRow [plain "Requires PHP" header.requiresPhp]
  let description := if header.shortDescription.isEmpty then []
    else ["<div class=\"short-description\">" ++ Markup.escape header.shortDescription ++ "</div>"]
  let kind : Text := if hasFieldErrors then "plugin-header has-errors" else "plugin-header"
  ["<div class=\"" ++ kind ++ "\">",
    "<h1 class=\"plugin-name\">" ++ nameHtml header ++ "</h1>",
    "<div class=\"plugin-meta\">"] ++
  metaRow
    (metaItem "Contributors"
      (span (listed ", " "No contributors listed" (header.contributors.map contributorHtml))) ::
      donate) ++
  metaRow
    [metaItem "Tags"
      ("<span class=\"tags\">" ++ listed " " "No tags" (header.tags.map tagHtml) ++ "</span>")] ++
  metaRow
    [plain "Requires at least" (orElse header.requiresAtLeast "N/A"),
      plain "Tested up to" (orElse header.testedUpTo "N/A"),
      plain "Stable tag" (orElse header.stableTag "N/A")] ++
  php ++
  metaRow [metaItem "License" (span (licenseHtml header))] ++
  ["</div>".toList] ++ description ++ ["</div>".toList]

/-! ## The body -/

def noSections : Text := "<div class=\"no-sections\">No sections found</div>"

def titleHtml (panel : Panel) : Text :=
  "<h2 class=\"section-title\">" ++ Markup.escape panel.title ++ "</h2>"

def sectionLines (panel : Panel) : List Text :=
  ["<div class=\"readme-section\" id=\"" ++ panel.id ++ "\">",
    titleHtml panel,
    "<div class=\"section-content\">",
    panel.html,
    "</div>",
    "</div>"]

/-- The button of a tab; the first tab is selected. -/
def tabLine (panel : Panel) (index : Nat) : Text :=
  let selected : Text := if index = 0 then "true" else "false"
  "<button role=\"tab\" id=\"tab-" ++ panel.id ++ "\" aria-controls=\"panel-" ++ panel.id ++
    "\" aria-selected=\"" ++ selected ++ "\">" ++ Markup.escape panel.title ++ "</button>"

def panelLines (panel : Panel) (index : Nat) : List Text :=
  let hidden : Text := if index = 0 then "" else " hidden"
  ["<div role=\"tabpanel\" id=\"panel-" ++ panel.id ++ "\" aria-labelledby=\"tab-" ++ panel.id ++
      "\" class=\"readme-section\"" ++ hidden ++ ">",
    titleHtml panel,
    panel.html,
    "</div>"]

def bodyLines (theme : Theme) (panels : List Panel) : List Text :=
  if panels.isEmpty then [noSections]
  else
    match theme with
    | .plain => panels.flatMap sectionLines
    | .directory =>
      "<div class=\"readme-tabs\" role=\"tablist\">".toList ::
        panels.zipIdx.map (fun (panel, index) ↦ tabLine panel index) ++ ["</div>".toList] ++
        panels.zipIdx.flatMap fun (panel, index) ↦ panelLines panel index

/-! ## Pages -/

/-- The last of some lines and the first of others on one line. -/
def joinSeam (front back : List Text) : List Text :=
  match front.getLast?, back with
  | some last, first :: more => front.dropLast ++ (last ++ first) :: more
  | _, _ => front ++ back

def scriptLines (theme : Theme) (panels : List Panel) : List Text :=
  if theme = .directory && !panels.isEmpty then
    ["<script>", tabScript ++ "</script>"]
  else []

def lines (theme : Theme) (header : Header) (verdict : Verdict) (panels : List Panel) :
    List Text :=
  let hasFieldErrors := verdict.errors.any fun issue ↦
    issue.subject.any fun subject ↦ !subject.key.isEmpty
  (["<!DOCTYPE html>", "<html lang=\"en\">", "<head>", "<meta charset=\"UTF-8\">",
    "<meta name=\"viewport\" content=\"width=device-width, initial-scale=1.0\">"] :
      List String).map String.toList ++
  ["<title>" ++ nameHtml header ++ " - Readme Preview</title>",
    "<style>",
    styleSheet ++ "</style>",
    "</head>",
    "<body class=\"theme-" ++ theme.name ++ "\">",
    "<div class=\"readme-preview\">"] ++
  joinSeam (joinSeam (summaryLines verdict) (headerLines header hasFieldErrors))
    (bodyLines theme panels) ++
  ["</div>".toList] ++ scriptLines theme panels ++ ["</body>".toList, "</html>".toList]

def html [LinkDefinition.Collector] (theme : Theme) (options : Markup.Options) (readme : Readme)
    (verdict : Verdict) : Except Markup.Fault Text := do
  let inOrder ← panels options readme.sections
  let shown := match theme with
    | .plain => inOrder
    | .directory => inTabOrder inOrder
  return Text.join "\n" (lines theme readme.header verdict shown)

end PluginReadme.Page
