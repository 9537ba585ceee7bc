import PluginReadme.Proofs.Check.Order
import PluginReadme.Proofs.Check.Wording
import PluginReadme.Proofs.Readme.Fields

/-!
# Where issues are

Places come from searches of several kinds: the lines of the header, the headings of sections, the
first or the last line with a property, and scans of single lines. An issue is at a line of the text
or at none, and the columns of an issue enclose a part of its line that shows what the issue is
about (`Placed`). The checks are gone through one after the other; what they have in common is in
`placed_of_line` and `placed_of_marks`. The warnings about values of the header are of one kind
(`IsValueWarning`): they mark the first place of the value on the line of its field.
-/

namespace PluginReadme

variable {ls : List Text} {line before marked after : Text} {issue : Issue} {index : Nat}

/-- The issue marks a part of its line, between what stands before and after it: the columns are
those of the first and of the last character of the part. -/
structure Issue.Marks (issue : Issue) (ls : List Text) (before marked after : Text) : Prop where
  at_line : ∃ index, issue.IsAt ls index (before ++ marked ++ after)
  column_eq : issue.column = some ((before.length : Int) + 1)
  end_eq : issue.endColumn = some ((before.length : Int) + marked.length)
  ne_nil : marked ≠ []

/-- An issue marks one part of one line. -/
theorem Issue.Marks.unique {front part back : Text} (h : issue.Marks ls before marked after)
    (hother : issue.Marks ls front part back) : before = front ∧ marked = part ∧ after = back := by
  obtain ⟨⟨index, hat⟩, hcolumn, hend, -⟩ := h
  obtain ⟨⟨number, hat'⟩, hcolumn', hend', -⟩ := hother
  have hindex : (index : Int) + 1 = (number : Int) + 1 :=
    Option.some.inj (hat.number_eq.symm.trans hat'.number_eq)
  obtain rfl : index = number := by omega
  have hline := Option.some.inj (hat.line_eq.symm.trans hat'.line_eq)
  have hbefore := Option.some.inj (hcolumn.symm.trans hcolumn')
  have hmarked := Option.some.inj (hend.symm.trans hend')
  rw [List.append_assoc, List.append_assoc] at hline
  obtain ⟨rfl, hrest⟩ := List.append_inj hline (by omega)
  obtain ⟨rfl, rfl⟩ := List.append_inj hrest (by omega)
  exact ⟨rfl, rfl, rfl⟩

/-- On a text of one line there is one place for marks. -/
theorem Issue.Marks.line_eq_one (h : issue.Marks [line] before marked after) :
    issue.line = some 1 := by
  obtain ⟨⟨index, hat⟩, -⟩ := h
  obtain ⟨hindex, -⟩ := List.getElem?_eq_some_iff.mp hat.line_eq
  obtain rfl : index = 0 := by
    rw [List.length_singleton] at hindex
    omega
  exact hat.number_eq

/-- The line of an issue is one of the lines. -/
theorem Issue.IsAt.bounds (h : issue.IsAt ls index line) :
    ∀ n ∈ issue.line, 1 ≤ n ∧ n ≤ (ls.length : Int) := by
  intro n hn
  obtain ⟨hindex, -⟩ := List.getElem?_eq_some_iff.mp h.line_eq
  rw [h.number_eq, Option.mem_some] at hn
  omega

/-! ## Lines of the header -/

namespace Header

theorem length_regionOf_le (ls : List Text) : (regionOf ls).length ≤ ls.length := by
  calc
    (regionOf ls).length ≤ (ls.map Text.strip).length := (List.takeWhile_prefix _).length_le
    _ = ls.length := List.length_map _

/-- A field is located at one of the lines of the region. -/
theorem lastLine?_bounds {field : Field} {region : List Text} {n : Nat}
    (h : lastLine? field region = some n) : 1 ≤ n ∧ n ≤ region.length := by
  obtain ⟨⟨line, index⟩, hfound, rfl⟩ := Option.map_eq_some_iff.mp h
  have hmem := List.mem_reverse.mp (List.mem_of_find?_eq_some hfound)
  have hindex : index < region.length := List.snd_lt_of_mem_zipIdx hmem
  exact ⟨Nat.succ_pos index, hindex⟩

/-- A field is shown at a line of the header. -/
theorem place?_bounds {field : Field} {n : Nat} (h : place? ls field = some n) :
    1 ≤ n ∧ n ≤ ls.length := by
  have hle := length_regionOf_le ls
  have hlast {field : Field} (h : lastLine? field (regionOf ls) = some n) :
      1 ≤ n ∧ n ≤ ls.length := by
    obtain ⟨hpos, hn⟩ := lastLine?_bounds h
    exact ⟨hpos, hn.trans hle⟩
  cases field
  case pluginName =>
    obtain ⟨index, hindex, rfl⟩ := Option.map_eq_some_iff.mp h
    obtain ⟨hlt, -⟩ := List.findIdx?_eq_some_iff_getElem.mp hindex
    omega
  case shortDescription =>
    obtain ⟨name, hname, h⟩ := Option.bind_eq_some_iff.mp h
    obtain ⟨offset, hoffset, h⟩ := Option.bind_eq_some_iff.mp h
    obtain ⟨hlt, -⟩ := List.findIdx?_eq_some_iff_getElem.mp hoffset
    rw [List.length_drop] at hlt
    obtain rfl := Option.some.inj h
    omega
  all_goals exact hlast h

end Header

namespace Check

/-! ## Marked parts -/

/-- What the marked part of a line shows, for each kind of issue that marks one. -/
inductive Shows (header : Header) (issue : Issue) : (before marked after : Text) → Prop where
  | malformedHeading {line : Text} (code_eq : issue.code = .malformedHeading) :
      Shows header issue [] line []
  | emailAddress {before marked after : Text} (code_eq : issue.code = .emailAddress)
      (address : IsMailAddress before marked after) : Shows header issue before marked after
  | promotionalLanguage {word before marked after : Text}
      (code_eq : issue.code = .promotionalLanguage)
      (message_eq : issue.message =
        "Consider avoiding promotional language like \"" ++ word ++ "\"")
      (promotion : IsPromotion word before marked after) : Shows header issue before marked after
  | unclosedLink {before text address : Text} (code_eq : issue.code = .unclosedLink)
      (text_free : ']' ∉ text) (address_free : ')' ∉ address) :
      Shows header issue before ('[' :: text ++ ']' :: '(' :: address) []
  | unclosedBracket {before text : Text} (code_eq : issue.code = .unclosedBracket)
      (text_free : ']' ∉ text) : Shows header issue before ('[' :: text) []
  | invalidContributor {before name after : Text} (code_eq : issue.code = .invalidContributor)
      (message_eq : issue.message =
        "Contributor \"" ++ name ++ "\" doesn't appear to be a valid WordPress.org username")
      (mem : name ∈ header.contributors) (invalid : isUserName name = false) :
      Shows header issue before name after
  | longTag {before tag after : Text} (code_eq : issue.code = .longTag)
      (message_eq : issue.message =
        "Tag \"" ++ tag ++ "\" is very long and may not display properly")
      (mem : tag ∈ header.tags) (long : 50 < tag.length) : Shows header issue before tag after
  | invalidVersion {field : Field} {before value after : Text}
      (code_eq : issue.code = .invalidVersion) (subject_eq : issue.subject = some (.field field))
      (mem : (field, value) ∈ header.wrongVersions) : Shows header issue before value after
  | invalidDonateLink {before after : Text} (code_eq : issue.code = .invalidUrl)
      (subject_eq : issue.subject = some (.field .donateLink))
      (invalid : isWebAddress header.donateLink = false) :
      Shows header issue before header.donateLink after
  | invalidLicenseUri {before after : Text} (code_eq : issue.code = .invalidUrl)
      (subject_eq : issue.subject = some (.field .licenseUri))
      (invalid : isWebAddress header.licenseUri = false) :
      Shows header issue before header.licenseUri after

/-- The issue is at a line of the text, if at any, and what it marks there shows what it is
about. -/
structure Placed (header : Header) (ls : List Text) (issue : Issue) : Prop where
  in_lines : ∀ n ∈ issue.line, 1 ≤ n ∧ n ≤ (ls.length : Int)
  marks : issue.column ≠ none ∨ issue.endColumn ≠ none →
    ∃ before marked after, issue.Marks ls before marked after ∧
      Shows header issue before marked after

variable {header : Header}

/-- An issue without columns is only at a line. -/
theorem placed_of_line (hline : ∀ n ∈ issue.line, 1 ≤ n ∧ n ≤ (ls.length : Int))
    (hcolumn : issue.column = none) (hend : issue.endColumn = none) : Placed header ls issue where
  in_lines := hline
  marks h := by
    rw [hcolumn, hend] at h
    exact absurd h (by simp)

/-- An issue that marks a part of a line is placed if the part shows what it is about. -/
theorem placed_of_marks (h : issue.Marks ls before marked after)
    (hshows : Shows header issue before marked after) : Placed header ls issue where
  in_lines := by
    obtain ⟨index, hat⟩ := h.at_line
    exact hat.bounds
  marks _ := ⟨before, marked, after, h, hshows⟩

/-! ## Issues of the header -/

/-- A warning about a field as a whole is at its line. -/
theorem placed_of_lineWarning {field : Field}
    (hline : issue.line = (Header.place? ls field).map fun n : Nat ↦ (n : Int))
    (hcolumn : issue.column = none) (hend : issue.endColumn = none) : Placed header ls issue := by
  refine placed_of_line (fun n hn ↦ ?_) hcolumn hend
  rw [hline] at hn
  obtain ⟨place, hplace, rfl⟩ := Option.map_eq_some_iff.mp hn
  obtain ⟨hpos, hle⟩ := Header.place?_bounds hplace
  omega

/-- A warning about a value that a labelled field has, whatever else it says. -/
structure IsValueWarning (header : Header) (ls : List Text) (issue : Issue) (field : Field)
    (value : Text) : Prop where
  made : ∃ code message hint,
    issue = { fieldWarning ls code field message value with hint := hint }
  labelled : field.label? ≠ none
  mem : value ∈ header.entry field
  shows : ∀ before after, Shows header issue before value after

/-- A warning about a value is at the first place where the value stands on the line of its field,
or only at the line. -/
theorem IsValueWarning.place {field : Field} {value : Text}
    (h : IsValueWarning header ls issue field value) :
    issue.line = ((Header.place? ls field).map fun n : Nat ↦ (n : Int)) ∧
      (issue.column = none ∧ issue.endColumn = none ∨
        ∃ before after, issue.Marks ls before value after ∧
          Text.indexOf? value (before ++ value ++ after) = some before.length) := by
  obtain ⟨code, message, hint, hmade⟩ := h.made
  unfold fieldWarning at hmade
  dsimp only at hmade
  split at hmade
  · next hplace =>
    rw [hplace, hmade]
    exact ⟨rfl, .inl ⟨rfl, rfl⟩⟩
  · next number hplace =>
    split at hmade
    · next offset hoffset =>
      split_ifs at hoffset with hempty
      obtain ⟨line, hat, hindex⟩ := Option.bind_eq_some_iff.mp hoffset
      obtain ⟨before, after, rfl, rfl⟩ := Text.exists_of_indexOf? hindex
      have hpos := (Header.place?_bounds hplace).1
      have hnumber : ((number - 1 : Nat) : Int) + 1 = (number : Int) := by omega
      rw [hplace, hmade]
      refine ⟨rfl, .inr ⟨before, after, ⟨⟨number - 1, hat, ?_⟩, rfl, rfl, ?_⟩, hindex⟩⟩
      · rw [hnumber]
        rfl
      · exact fun hnil ↦ hempty (List.isEmpty_iff.mpr hnil)
    · rw [hplace, hmade]
      exact ⟨rfl, .inl ⟨rfl, rfl⟩⟩

/-- A warning about a value marks the value, or the whole text of its line. -/
theorem IsValueWarning.placed {field : Field} {value : Text}
    (h : IsValueWarning header ls issue field value) : Placed header ls issue := by
  obtain ⟨hline, ⟨hcolumn, hend⟩ | ⟨before, after, hmarks, -⟩⟩ := h.place
  · exact placed_of_lineWarning hline hcolumn hend
  · exact placed_of_marks hmarks (h.shows before after)

theorem exists_valueWarning_of_mem_contributors (h : issue ∈ contributors header ls) :
    ∃ field value, IsValueWarning header ls issue field value := by
  obtain ⟨name, hname, rfl⟩ := List.mem_map.mp h
  obtain ⟨hmem, hinvalid⟩ := List.mem_filter.mp hname
  rw [Bool.not_eq_true'] at hinvalid
  obtain ⟨hcode, -, hmessage⟩ := about_fieldWarning ls .invalidContributor .contributors _ name
  exact ⟨.contributors, name, ⟨_, _, _, rfl⟩, by decide, hmem,
    fun _ _ ↦ .invalidContributor hcode hmessage hmem hinvalid⟩

theorem exists_valueWarning_of_mem_tags (h : issue ∈ tags header ls)
    (hcode : issue.code ≠ .tooManyTags) :
    ∃ field value, IsValueWarning header ls issue field value := by
  unfold tags at h
  rcases List.mem_append.mp h with h | h
  · exact absurd (congrArg Issue.code (eq_of_mem_ite h)) hcode
  · obtain ⟨tag, htag, rfl⟩ := List.mem_map.mp h
    obtain ⟨hmem, hlong⟩ := List.mem_filter.mp htag
    obtain ⟨hown, -, hmessage⟩ := about_fieldWarning ls .longTag .tags _ tag
    exact ⟨.tags, tag, ⟨_, _, _, rfl⟩, by decide, hmem,
      fun _ _ ↦ .longTag hown hmessage hmem (of_decide_eq_true hlong)⟩

theorem mem_entry_of_mem_wrongVersions {field : Field} {value : Text}
    (h : (field, value) ∈ header.wrongVersions) :
    field.label? ≠ none ∧ value ∈ header.entry field := by
  have hmem := (List.mem_filter.mp h).1
  simp only [Header.versions, List.mem_cons, List.not_mem_nil, or_false, Prod.mk.injEq] at hmem
  rcases hmem with ⟨rfl, rfl⟩ | ⟨rfl, rfl⟩ | ⟨rfl, rfl⟩ | ⟨rfl, rfl⟩
  all_goals exact ⟨by decide, List.mem_singleton_self _⟩

theorem exists_valueWarning_of_mem_versions (h : issue ∈ versions header ls) :
    ∃ field value, IsValueWarning header ls issue field value := by
  obtain ⟨⟨field, value⟩, hmem, rfl⟩ := List.mem_map.mp h
  obtain ⟨hlabel, hvalue⟩ := mem_entry_of_mem_wrongVersions hmem
  obtain ⟨hcode, hsubject, -⟩ := about_fieldWarning ls .invalidVersion field _ value
  exact ⟨field, value, ⟨_, _, _, rfl⟩, hlabel, hvalue,
    fun _ _ ↦ .invalidVersion hcode hsubject hmem⟩

theorem exists_valueWarning_of_mem_addresses (h : issue ∈ addresses header ls) :
    ∃ field value, IsValueWarning header ls issue field value := by
  unfold addresses at h
  rcases List.mem_append.mp h with h | h
  all_goals
    dsimp only at h
    split_ifs at h with hvalid
    · exact absurd h List.not_mem_nil
    rw [Bool.or_eq_true, not_or, Bool.not_eq_true, Bool.not_eq_true] at hvalid
    rw [List.mem_singleton.mp h]
  · obtain ⟨hcode, hsubject, -⟩ := about_fieldWarning ls .invalidUrl .donateLink _ _
    exact ⟨.donateLink, header.donateLink, ⟨_, _, _, rfl⟩, by decide, List.mem_singleton_self _,
      fun _ _ ↦ .invalidDonateLink hcode hsubject hvalid.2⟩
  · obtain ⟨hcode, hsubject, -⟩ := about_fieldWarning ls .invalidUrl .licenseUri _ _
    exact ⟨.licenseUri, header.licenseUri, ⟨_, _, _, rfl⟩, by decide, List.mem_singleton_self _,
      fun _ _ ↦ .invalidLicenseUri hcode hsubject hvalid.2⟩

end Check

end PluginReadme
