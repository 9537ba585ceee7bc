import PluginReadme.Text.Case

/-!
# Slugs

A slug is made of words of small letters and digits with a hyphen between neighbours. Sections are
known on a page by the slug of their title.
-/

namespace PluginReadme

def isSlugChar (c : Char) : Bool := c.isLower || c.isDigit

/-- The slug of a text; `gap` says that something was left out just before. -/
def slugFrom (gap : Bool) : Text → Text
  | [] => []
  | c :: rest =>
    if isSlugChar c then
      if gap then '-' :: c :: slugFrom false rest else c :: slugFrom false rest
    else slugFrom true rest

/-- The words of a title in small letters with one hyphen between them. -/
def slug (title : Text) : Text :=
  slugFrom false ((Text.lower title).dropWhile fun c ↦ !isSlugChar c)

def sectionId (title : Text) : Text :=
  let id := slug title
  if id = "frequently-asked-questions".toList then "faq" else id

def tabIds : List Text :=
  (["description", "installation", "faq", "changelog"] : List String).map String.toList

def isTabId (id : Text) : Bool := tabIds.contains id

end PluginReadme
