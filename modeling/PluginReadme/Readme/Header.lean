import PluginReadme.Readme.Heading
import PluginReadme.Text.Case

/-!
# The header of a readme

Before the first section stand the name of the plugin, labelled fields in any order, and a short
description. A later line of a field replaces an earlier one. The description is the first run of
plain lines after the name.
-/

namespace PluginReadme

inductive Field where
  | pluginName
  | contributors
  | donateLink
  | tags
  | requiresAtLeast
  | testedUpTo
  | stableTag
  | requiresPhp
  | license
  | licenseUri
  | shortDescription
  deriving DecidableEq, Repr, Inhabited

namespace Field

def all : List Field :=
  [.pluginName, .contributors, .donateLink, .tags, .requiresAtLeast, .testedUpTo, .stableTag,
    .requiresPhp, .license, .licenseUri, .shortDescription]

def key : Field → Text
  | .pluginName => "plugin_name"
  | .contributors => "contributors"
  | .donateLink => "donate_link"
  | .tags => "tags"
  | .requiresAtLeast => "requires_at_least"
  | .testedUpTo => "tested_up_to"
  | .stableTag => "stable_tag"
  | .requiresPhp => "requires_php"
  | .license => "license"
  | .licenseUri => "license_uri"
  | .shortDescription => "short_description"

def title : Field → Text
  | .pluginName => "Plugin Name"
  | .contributors => "Contributors"
  | .donateLink => "Donate Link"
  | .tags => "Tags"
  | .requiresAtLeast => "Requires at least"
  | .testedUpTo => "Tested up to"
  | .stableTag => "Stable tag"
  | .requiresPhp => "Requires PHP"
  | .license => "License"
  | .licenseUri => "License URI"
  | .shortDescription => "Short Description"

def required : List Field :=
  [.pluginName, .contributors, .tags, .requiresAtLeast, .testedUpTo, .stableTag, .license,
    .shortDescription]

/-- A line to insert for a required field that is missing. -/
def sample? : Field → Option Text
  | .pluginName => some "=== Plugin Name ==="
  | .contributors => some "Contributors: your-wordpress-username"
  | .tags => some "Tags: tag1, tag2"
  | .requiresAtLeast => some "Requires at least: 6.0"
  | .testedUpTo => some "Tested up to: 6.6"
  | .stableTag => some "Stable tag: 1.0.0"
  | .license => some "License: GPLv2 or later"
  | .shortDescription => some "A short description of what the plugin does."
  | .donateLink | .requiresPhp | .licenseUri => none

/-! ## Labelled lines -/

/-- The label in front of a value, in small letters; the name and the description have none. -/
def label? : Field → Option Text
  | .contributors => some "contributors:"
  | .donateLink => some "donate link:"
  | .tags => some "tags:"
  | .requiresAtLeast => some "requires at least:"
  | .testedUpTo => some "tested up to:"
  | .stableTag => some "stable tag:"
  | .requiresPhp => some "requires php:"
  | .license => some "license:"
  | .licenseUri => some "license uri:"
  | .pluginName | .shortDescription => none

/-- The value after a label: it stands on one line, with only blanks between the label and it. -/
def value? (rest : Text) : Option Text :=
  let body := Text.dropFinalFeed rest
  let value := Text.takeEndWhile (· != '\n') body
  if value.isEmpty || !Text.isBlankText (body.take (body.length - value.length)) then none
  else some (Text.strip value)

def onLine? (field : Field) (line : Text) : Option Text := do
  value? (← Text.afterFolded? (← field.label?) line)

def ofLine? (line : Text) : Option (Field × Text) :=
  all.findSome? fun field ↦ (field.onLine? line).map (field, ·)

end Field

/-- The line names the plugin or sets a field. -/
def isHeaderField (line : Text) : Bool :=
  (Heading.pluginName? line).isSome || (Field.ofLine? line).isSome

/-- What the header of a readme says. A field that is not set is empty. -/
structure Header where
  pluginName : Text := []
  contributors : List Text := []
  donateLink : Text := []
  tags : List Text := []
  requiresAtLeast : Text := []
  testedUpTo : Text := []
  stableTag : Text := []
  requiresPhp : Text := []
  license : Text := []
  licenseUri : Text := []
  shortDescription : Text := []
  deriving DecidableEq, Repr, Inhabited

namespace Header

def lacks (header : Header) : Field → Bool
  | .pluginName => header.pluginName.isEmpty
  | .contributors => header.contributors.isEmpty
  | .donateLink => header.donateLink.isEmpty
  | .tags => header.tags.isEmpty
  | .requiresAtLeast => header.requiresAtLeast.isEmpty
  | .testedUpTo => header.testedUpTo.isEmpty
  | .stableTag => header.stableTag.isEmpty
  | .requiresPhp => header.requiresPhp.isEmpty
  | .license => header.license.isEmpty
  | .licenseUri => header.licenseUri.isEmpty
  | .shortDescription => header.shortDescription.isEmpty

/-- The items between the commas, without blank ones. -/
def itemsOf (value : Text) : List Text :=
  ((Text.splitOn ',' value).map Text.strip).filter fun item ↦ !item.isEmpty

/-- The header after a line of a field. A parenthesis in place of contributors is an instruction
that nobody has followed yet. -/
def set (header : Header) (field : Field) (value : Text) : Header :=
  match field with
  | .pluginName => { header with pluginName := value }
  | .contributors =>
    if value.isEmpty || Text.startsWith "(" value then header
    else { header with contributors := itemsOf value }
  | .donateLink => { header with donateLink := value }
  | .tags => if value.isEmpty then header else { header with tags := itemsOf value }
  | .requiresAtLeast => { header with requiresAtLeast := value }
  | .testedUpTo => { header with testedUpTo := value }
  | .stableTag => { header with stableTag := value }
  | .requiresPhp => { header with requiresPhp := value }
  | .license => { header with license := value }
  | .licenseUri => { header with licenseUri := value }
  | .shortDescription => { header with shortDescription := value }

/-! ## Reading -/

/-- The lines before the first section, without the blanks around them. -/
def regionOf (lines : List Text) : List Text :=
  (lines.map Text.strip).takeWhile fun line ↦ (Heading.section? line).isNone

def read (header : Header) (line : Text) : Header :=
  match Field.ofLine? line with
  | some (field, value) => header.set field value
  | none => header

/-- A line of the description. -/
def isPlain (line : Text) : Bool := !line.isEmpty && !isHeaderField line

/-- The short description: the first run of plain lines after the line with the name. -/
def descriptionOf (region : List Text) (nameLine : Nat) : Text :=
  let lines := (region.drop (nameLine + 1)).dropWhile fun line ↦ !isPlain line
  Text.join " " (lines.takeWhile isPlain)

def ofLines (lines : List Text) : Header :=
  let region := regionOf lines
  let stripped := lines.map Text.strip
  let fields := region.foldl read {}
  match stripped.findIdx? fun line ↦ (Heading.pluginName? line).isSome with
  | some index =>
    { fields with
      pluginName := ((stripped[index]?).bind Heading.pluginName?).getD []
      shortDescription := descriptionOf region index }
  | none => fields

/-! ## Places -/

/-- The number, from one, of the last line of a region that sets a field. -/
def lastLine? (field : Field) (region : List Text) : Option Nat :=
  ((region.zipIdx.reverse.find? fun (line, _) ↦ (field.onLine? line).isSome)).map (·.2 + 1)

/-- The number, from one, of the line of the header that a field is shown at. The name counts only
before the first section, and the description starts at the first line after it that is not blank
and sets no field. -/
def place? (lines : List Text) (field : Field) : Option Nat :=
  let region := regionOf lines
  let name? := region.findIdx? fun line ↦ (Heading.pluginName? line).isSome
  match field with
  | .pluginName => name?.map (· + 1)
  | .shortDescription => do
    let name ← name?
    let offset ← (region.drop (name + 1)).findIdx? fun line ↦
      !line.isEmpty && (Field.ofLine? line).isNone
    return name + offset + 2
  | _ => lastLine? field region

end Header

end PluginReadme
