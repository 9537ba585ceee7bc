import PluginReadme.Check.Issue
import PluginReadme.Readme.Document

/-!
# Issues of the header

Required fields, the length of the name, contributors, tags, versions, the short description, the
license and addresses are checked independently of each other.
-/

namespace PluginReadme

namespace Check

/-! ## Forms of values -/

/-- Three to sixty letters, digits, underscores and hyphens. -/
def isUserName (t : Text) : Bool :=
  let name := Text.dropFinalFeed t
  3 ≤ name.length && name.length ≤ 60 && name.all fun c ↦
    let folded := foldCase c
    folded.isLower || folded.isDigit || folded == '_' || folded == '-'

/-- A web address with a point inside its name. -/
def isWebAddress (t : Text) : Bool :=
  match Text.afterFolded? "http" t with
  | none => false
  | some rest =>
    let afterScheme? := match Text.after? "://" rest with
      | some name => some name
      | none => Text.afterFolded? "s://" rest
    afterScheme?.any fun name ↦
      let name := Text.dropFinalFeed name
      !name.contains '\n' && (name.drop 1).dropLast.contains '.'

def isFreeLicense (t : Text) : Bool :=
  (["gpl", "mit", "apache", "bsd"] : List String).any fun name ↦
    Text.occurs name.toList (Text.lower t)

/-- The text without tags and without angle brackets that belong to none. -/
def withoutTagsFrom : Nat → Text → Text
  | _, [] => []
  | skip + 1, _ :: rest => withoutTagsFrom skip rest
  | 0, c :: rest =>
    if c == '<' then
      let inside := rest.takeWhile (· != '>')
      withoutTagsFrom (if inside.length < rest.length then inside.length + 1 else 0) rest
    else if c == '>' then withoutTagsFrom 0 rest
    else c :: withoutTagsFrom 0 rest

def withoutTags (t : Text) : Text := withoutTagsFrom 0 t

/-! ## Fields -/

/-- A warning about a field, at the line of the field and at the first place on it where the value
stands. -/
def fieldWarning (lines : List Text) (code : Code) (field : Field) (message value : Text) : Issue :=
  let issue := { Issue.warning code message with subject := some (.field field) }
  match Header.place? lines field with
  | none => issue
  | some number =>
    let offset? := if value.isEmpty then none
      else (lines[number - 1]?).bind (Text.indexOf? value)
    match offset? with
    | some offset => issue.spanning number offset (offset + value.length)
    | none => issue.onLine (some number)

/-- A warning about a field as a whole, at its line. -/
def lineWarning (lines : List Text) (code : Code) (field : Field) (message : Text) : Issue :=
  { Issue.warning code message with subject := some (.field field) }.onLine
    (Header.place? lines field)

def missingFields (header : Header) : List Issue :=
  (Field.required.filter header.lacks).map fun field ↦
    { severity := .error
      code := .missingField
      message := field.title ++ " is required"
      subject := some (.field field)
      suggestion := field.sample?
      hint := some ("Add the " ++ field.title ++ " field to your readme header") }

def nameLength (header : Header) (lines : List Text) : List Issue :=
  let length := header.pluginName.length
  if length ≠ 0 && length < 3 then
    [lineWarning lines .pluginNameLength .pluginName
      "Plugin name should be at least 3 characters long"]
  else if 60 < length then
    [lineWarning lines .pluginNameLength .pluginName
      "Plugin name should be 60 characters or less for better display"]
  else []

def contributors (header : Header) (lines : List Text) : List Issue :=
  (header.contributors.filter fun name ↦ !isUserName name).map fun name ↦
    { fieldWarning lines .invalidContributor .contributors
        ("Contributor \"" ++ name ++ "\" doesn't appear to be a valid WordPress.org username")
        name with
      hint := some "Use only WordPress.org usernames for proper profile linking".toList }

def tags (header : Header) (lines : List Text) : List Issue :=
  let many := if mostTags < header.tags.length then
    [{ lineWarning lines .tooManyTags .tags
        ("Maximum " ++ Text.ofNat mostTags ++ " tags recommended, you have " ++
          Text.ofNat header.tags.length) with
      suggestion := some ("Tags: " ++ Text.join ", " (header.tags.take mostTags))
      hint := some "Consider using fewer, more focused tags".toList }] else []
  let long := (header.tags.filter fun tag ↦ 50 < tag.length).map fun tag ↦
    fieldWarning lines .longTag .tags
      ("Tag \"" ++ tag ++ "\" is very long and may not display properly") tag
  many ++ long

def versions (header : Header) (lines : List Text) : List Issue :=
  header.wrongVersions.map fun (field, value) ↦
    { fieldWarning lines .invalidVersion field
        (field.title ++ " should be in format X.Y or X.Y.Z (got \"" ++ value ++ "\")") value with
      hint := some "Use semantic versioning format".toList }

def shortDescription (header : Header) (lines : List Text) : List Issue :=
  let description := header.shortDescription
  let long := if longestShortDescription < description.length then
    [{ lineWarning lines .shortDescriptionTooLong .shortDescription
        ("Short description is " ++ Text.ofNat description.length ++ " characters (max " ++
          Text.ofNat longestShortDescription ++ ")") with
      hint := some "Shorten the description for better display on WordPress.org".toList }] else []
  let markup := if description.contains '<' || description.contains '>' then
    [{ lineWarning lines .shortDescriptionMarkup .shortDescription
        "Short description should not contain HTML markup" with
      suggestion := some (Text.strip (withoutTags description))
      hint := some "Remove HTML tags from the short description".toList }] else []
  let short := if !description.isEmpty && description.length < 20 then
    [lineWarning lines .shortDescriptionTooShort .shortDescription
      "Short description is very brief, consider adding more detail"] else []
  long ++ markup ++ short

def license (header : Header) (lines : List Text) : List Issue :=
  if header.license.isEmpty || isFreeLicense header.license then []
  else
    [{ lineWarning lines .licenseNotGpl .license "License may not be GPL-compatible" with
      hint := some "WordPress.org requires GPL-compatible licenses".toList }]

def addresses (header : Header) (lines : List Text) : List Issue :=
  let check (field : Field) (name : String) (value : Text) : List Issue :=
    if value.isEmpty || isWebAddress value then []
    else [fieldWarning lines .invalidUrl field (name.toList ++ " appears to be invalid") value]
  check .donateLink "Donate link" header.donateLink ++
    check .licenseUri "License URI" header.licenseUri

def header (header : Header) (lines : List Text) : List Issue :=
  missingFields header ++ nameLength header lines ++ contributors header lines ++
    tags header lines ++ versions header lines ++ shortDescription header lines ++
    license header lines ++ addresses header lines

end Check

end PluginReadme
