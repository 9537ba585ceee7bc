import PluginReadme.Preview.Page
import PluginReadme.Proofs.Text.Lines

/-!
# The signs of a page

Angle brackets and quotes are the signs that HTML is cut at. A value of the header reaches the page
escaped, as text or inside a quoted attribute, or percent-encoded, as a part of an address; neither
form holds a sign. So the signs of a page depend on which fields are set, and on how many
contributors and tags there are, but on no value (`signs_html`).
-/

namespace PluginReadme.Page

/-- A character that opens or closes a tag or the value of an attribute. -/
def isSign (c : Char) : Bool := c == '<' || c == '>' || c == '\"' || c == '\''

def signs (t : Text) : Text := t.filter isSign

@[simp]
theorem signs_append (front tail : Text) : signs (front ++ tail) = signs front ++ signs tail :=
  List.filter_append front tail

theorem signs_cons (c : Char) (t : Text) : signs (c :: t) = signs [c] ++ signs t :=
  signs_append [c] t

/-- Characters that are written without signs leave a text without signs. -/
theorem signs_flatMap {f : Char → Text} (hf : ∀ c, signs (f c) = []) (t : Text) :
    signs (t.flatMap f) = [] := by
  rw [signs, List.filter_flatMap, List.flatMap_eq_nil_iff]
  exact fun c _ ↦ hf c

/-! ## Values without signs -/

theorem signs_escapedChar (c : Char) : signs (Markup.escapedChar c) = [] := by
  unfold Markup.escapedChar
  split_ifs with hamp hless hgreater hquote hmark
  · rfl
  · rfl
  · rfl
  · rfl
  · rfl
  · have hplain : isSign c = false := by simp [isSign, hless, hgreater, hquote, hmark]
    exact List.filter_eq_nil_iff.mpr (by simp [hplain])

/-- An escaped value has no signs. -/
@[simp]
theorem signs_escape (t : Text) : signs (Markup.escape t) = [] :=
  signs_flatMap signs_escapedChar t

theorem signs_percentByte (byte : UInt8) : signs (Url.percentByte byte) = [] := by
  have htable : ∀ n : Fin 256, signs ((Text.hexDigits 2 n.val).map Char.toUpper) = [] := by
    decide +kernel
  have hdigits := htable ⟨byte.toNat, byte.toNat_lt⟩
  rw [Url.percentByte, signs_cons, hdigits]
  rfl

/-- A part of an address has no signs. -/
@[simp]
theorem signs_encodeComponent (t : Text) : signs (Url.encodeComponent t) = [] := by
  refine signs_flatMap (fun c ↦ ?_) t
  split
  · next h =>
    have hplain : isSign c = false := by
      cases hsign : isSign c with
      | false => rfl
      | true =>
        simp only [isSign, Bool.or_eq_true, beq_iff_eq] at hsign
        rcases hsign with ((rfl | rfl) | rfl) | rfl <;> exact absurd h (by decide)
    exact List.filter_eq_nil_iff.mpr (by simp [hplain])
  · rw [Url.percentChar, signs, List.filter_flatMap, List.flatMap_eq_nil_iff]
    exact fun byte _ ↦ signs_percentByte byte

/-! ## Lines -/

/-- Glue without signs adds none. -/
theorem signs_join {glue : Text} (hglue : signs glue = []) (ls : List Text) :
    signs (Text.join glue ls) = ls.flatMap signs := by
  induction ls with
  | nil => rfl
  | cons line ls ih =>
    by_cases hnil : ls = []
    · rw [hnil, Text.join_singleton]
      simp
    · rw [Text.join_cons hnil, signs_append, signs_append, hglue, ih]
      simp

/-- Joining lines at a seam changes nothing about their signs. -/
theorem flatMap_signs_joinSeam (front back : List Text) :
    (joinSeam front back).flatMap signs = front.flatMap signs ++ back.flatMap signs := by
  unfold joinSeam
  split
  · next last first more hlast =>
    have hfront : front.dropLast ++ [last] = front := List.dropLast_append_getLast? last hlast
    conv_rhs => rw [← hfront]
    simp
  · exact List.flatMap_append

/-! ## The header -/

/-- The same fields are set, and there are as many contributors and as many tags. -/
structure SameShape (header other : Header) : Prop where
  lacks_eq : ∀ field, header.lacks field = other.lacks field
  contributors_eq : header.contributors.length = other.contributors.length
  tags_eq : header.tags.length = other.tags.length

section Header

variable {header other : Header}

theorem flatMap_signs_metaRow (items : List Text) :
    (metaRow items).flatMap signs =
      signs "<div class=\"meta-row\">" ++ items.flatMap signs ++ signs "</div>" := by
  simp [metaRow]

theorem signs_metaItem (label html : Text) :
    signs (metaItem label html) =
      signs "<div class=\"meta-item\"><label>" ++ signs label ++ signs ":</label> " ++
        signs html ++ signs "</div>" := by
  unfold metaItem
  simp only [signs_append]

theorem signs_span (html : Text) :
    signs (span html) = signs "<span>" ++ signs html ++ signs "</span>" := by
  have helement : span html = "<span>" ++ html ++ "</span>" := by
    simp [span, Markup.element]
  rw [helement, signs_append, signs_append]

/-- Elements with the same signs are listed with the same signs if there are as many. -/
theorem signs_listed {glue remark : Text} {html : Text → Text} {xs ys : List Text}
    (hglue : signs glue = []) (hhtml : ∀ x y, signs (html x) = signs (html y))
    (h : xs.length = ys.length) :
    signs (listed glue remark (xs.map html)) = signs (listed glue remark (ys.map html)) := by
  have heach : ∀ {xs ys : List Text}, xs.length = ys.length →
      (xs.map html).flatMap signs = (ys.map html).flatMap signs := by
    intro xs ys hlength
    induction xs generalizing ys with
    | nil => rw [List.length_eq_zero_iff.mp hlength.symm]
    | cons x xs ih =>
      obtain ⟨y, ys, rfl⟩ := List.exists_cons_of_length_eq_add_one hlength.symm
      have hrest := ih (Nat.succ.inj hlength)
      rw [List.map_cons, List.map_cons, List.flatMap_cons, List.flatMap_cons, hhtml x y, hrest]
  have hempty : (xs.map html).isEmpty = (ys.map html).isEmpty := by
    rw [Bool.eq_iff_iff, List.isEmpty_iff_length_eq_zero, List.isEmpty_iff_length_eq_zero,
      List.length_map, List.length_map, h]
  unfold listed
  rw [hempty]
  split
  · rfl
  · rw [signs_join hglue, signs_join hglue, heach h]

/-- Whoever the contributor is, the signs are those of the template. -/
theorem signs_contributorHtml (name other : Text) :
    signs (contributorHtml name) = signs (contributorHtml other) := by
  unfold contributorHtml
  simp only [signs_append, signs_encodeComponent, signs_escape]

/-- Whatever the tag is, the signs are those of the template. -/
theorem signs_tagHtml (tag other : Text) : signs (tagHtml tag) = signs (tagHtml other) := by
  unfold tagHtml
  simp only [signs_append, signs_escape]

theorem signs_nameHtml (header : Header) : signs (nameHtml header) = [] :=
  signs_escape _

/-- The license is a link if it has an address. -/
theorem signs_licenseHtml (h : SameShape header other) :
    signs (licenseHtml header) = signs (licenseHtml other) := by
  have huri : header.licenseUri.isEmpty = other.licenseUri.isEmpty := h.lacks_eq .licenseUri
  unfold licenseHtml
  dsimp only
  rw [huri]
  split
  · rw [signs_escape, signs_escape]
  · simp only [signs_append, signs_escape]

/-- Headers of one shape are shown with the same signs. -/
theorem flatMap_signs_headerLines (h : SameShape header other) (hasFieldErrors : Bool) :
    (headerLines header hasFieldErrors).flatMap signs =
      (headerLines other hasFieldErrors).flatMap signs := by
  have hcontributors : signs (listed ", " "No contributors listed"
      (header.contributors.map contributorHtml)) =
      signs (listed ", " "No contributors listed" (other.contributors.map contributorHtml)) :=
    signs_listed rfl signs_contributorHtml h.contributors_eq
  have htags : signs (listed " " "No tags" (header.tags.map tagHtml)) =
      signs (listed " " "No tags" (other.tags.map tagHtml)) :=
    signs_listed rfl signs_tagHtml h.tags_eq
  have hdonate : header.donateLink.isEmpty = other.donateLink.isEmpty := h.lacks_eq .donateLink
  have hphp : header.requiresPhp.isEmpty = other.requiresPhp.isEmpty := h.lacks_eq .requiresPhp
  have hdescription : header.shortDescription.isEmpty = other.shortDescription.isEmpty :=
    h.lacks_eq .shortDescription
  unfold headerLines
  simp only [List.flatMap_append, List.flatMap_cons, List.flatMap_nil, flatMap_signs_metaRow,
    signs_metaItem, signs_span, signs_append, signs_escape, signs_nameHtml, hcontributors, htags,
    signs_licenseHtml h, hdonate, hphp, hdescription, apply_ite (List.flatMap signs)]

end Header

/-! ## Pages -/

/-- The signs of a page depend on the shape of the header and on what the sections are shown with.
-/
theorem signs_lines (theme : Theme) {header other : Header} (h : SameShape header other)
    (verdict : Verdict) (panels : List Panel) :
    (lines theme header verdict panels).flatMap signs =
      (lines theme other verdict panels).flatMap signs := by
  unfold lines
  simp only [List.flatMap_append, List.flatMap_cons, List.flatMap_nil, flatMap_signs_joinSeam,
    flatMap_signs_headerLines h, signs_append, signs_nameHtml]

def shownPanels : Theme → List Panel → List Panel
  | .plain, panels => panels
  | .directory, panels => inTabOrder panels

/-- The page is its lines, once the sections are rendered. -/
theorem html_eq_map [LinkDefinition.Collector] (theme : Theme) (options : Markup.Options)
    (readme : Readme) (verdict : Verdict) :
    html theme options readme verdict = (panels options readme.sections).map fun inOrder ↦
      Text.join "\n" (lines theme readme.header verdict (shownPanels theme inOrder)) := by
  unfold html
  cases panels options readme.sections with
  | error fault => rfl
  | ok inOrder => cases theme <;> rfl

/-- Two readmes with the same sections, whose headers have one shape, are shown with the same signs
under the same verdict: no value of a header adds or takes away markup or ends an attribute. A page
that cannot be made for the one cannot be made for the other. -/
theorem signs_html [LinkDefinition.Collector] (theme : Theme) (options : Markup.Options)
    (verdict : Verdict) (readme other : Readme) (hsections : readme.sections = other.sections)
    (hheader : SameShape readme.header other.header) :
    (html theme options readme verdict).map signs =
      (html theme options other verdict).map signs := by
  have hpage (inOrder : List Panel) :
      signs (Text.join "\n" (lines theme readme.header verdict (shownPanels theme inOrder))) =
        signs (Text.join "\n" (lines theme other.header verdict (shownPanels theme inOrder))) := by
    rw [signs_join rfl, signs_join rfl, signs_lines theme hheader]
  rw [html_eq_map, html_eq_map, hsections]
  cases panels options other.sections with
  | error fault => simp only [Except.map]
  | ok inOrder => simp only [Except.map, hpage inOrder]

/-- A header that tries to end its tags and attributes, and one that does not. -/
theorem signs_html_script :
    let hostile : Header :=
      { pluginName := "</h1><script>alert(1)</script>", contributors := ["\" onclick=\"x".toList],
        donateLink := "\" onmouseover=\"x", tags := ["</span><b>".toList, "a'b".toList] }
    let plain : Header :=
      { pluginName := "Forms", contributors := ["alice".toList],
        donateLink := "https://example.com/", tags := ["forms".toList, "mail".toList] }
    SameShape hostile plain ∧ (html .directory {} { header := hostile } {}).toBool = true ∧
      (html .directory {} { header := hostile } {}).map signs =
        (html .directory {} { header := plain } {}).map signs := by
  intro hostile plain
  have hshape : SameShape hostile plain :=
    ⟨fun field ↦ by cases field <;> decide, by decide, by decide⟩
  refine ⟨hshape, ?_,
    signs_html .directory {} {} { header := hostile } { header := plain } rfl hshape⟩
  rw [html_eq_map]
  rfl

end PluginReadme.Page
