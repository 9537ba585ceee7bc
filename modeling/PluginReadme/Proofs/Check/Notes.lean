import Mathlib.Data.List.Forall2
import PluginReadme.Proofs.Check.Findings

/-!
# The notes of reading and the checks

What is wrong with a header is told twice: as notes when it is read, field by field, and as issues
when it is checked, one kind after the other. Each note is about the same thing as one issue
(`Notes.Matches`), and both tell what it is. A missing field gets no advice on its value, but then
there is none (`warnings_noteOn`); so the advice is the same as without this exception
(`Header.warnings_eq`).
-/

namespace PluginReadme

variable {issue : Issue} {ls : List Text} {header : Header}

/-! ## Notes -/

namespace Header

/-- The note on a required field is an error exactly if the field is missing. -/
theorem errors_noteOn (header : Header) (field : Field) (advice : Option Text) :
    (header.noteOn field advice).errors = ([field].filter header.lacks).map missingText := by
  unfold noteOn
  cases h : header.lacks field <;> simp [h]

/-- Advice is given where it is due, provided that a missing field leaves nothing to advise on. -/
theorem warnings_noteOn {field : Field} {advice : Option Text}
    (h : header.lacks field = true → advice = none) :
    (header.noteOn field advice).warnings = advice.toList := by
  unfold noteOn
  split_ifs with hlacks
  · rw [h hlacks]
    rfl
  · rfl

theorem tagsAdvice?_of_lacks (h : header.lacks .tags = true) : header.tagsAdvice? = none := by
  rw [tagsAdvice?, List.isEmpty_iff.mp h]
  rfl

theorem descriptionAdvice?_of_lacks (h : header.lacks .shortDescription = true) :
    header.descriptionAdvice? = none := by
  rw [descriptionAdvice?, List.isEmpty_iff.mp h]
  rfl

theorem errors_versionNote (value label : Text) : (versionNote value label).errors = [] := by
  unfold versionNote
  split <;> rfl

/-- The note on a version is a warning exactly if the version is set and wrong. -/
theorem warnings_versionNote (field : Field) (value : Text) :
    (versionNote value field.title).warnings =
      ([(field, value)].filter fun (_, value) ↦ !value.isEmpty && !isVersion value).map
        fun (field, _) ↦ versionText field.title := by
  unfold versionNote
  cases h : !value.isEmpty && !isVersion value <;> simp [h]

/-- The errors are the required fields that are missing, in their order. -/
theorem errors_eq (header : Header) :
    header.errors = (Field.required.filter header.lacks).map missingText := by
  simp only [errors, notes, Notes.errors_append, errors_noteOn, errors_versionNote,
    List.append_nil, ← List.map_append, ← List.filter_append]
  rfl

/-- The warnings are the advice on tags and description, and the wrong versions. -/
theorem warnings_eq (header : Header) :
    header.warnings = header.tagsAdvice?.toList ++ header.descriptionAdvice?.toList ++
      header.wrongVersions.map fun (field, _) ↦ versionText field.title := by
  have hversions : (versionNote header.requiresAtLeast "Requires at least").warnings ++
      (versionNote header.testedUpTo "Tested up to").warnings ++
      (versionNote header.stableTag "Stable tag").warnings ++
      (versionNote header.requiresPhp "Requires PHP").warnings =
        header.wrongVersions.map fun (field, _) ↦ versionText field.title := by
    change (versionNote header.requiresAtLeast Field.requiresAtLeast.title).warnings ++
      (versionNote header.testedUpTo Field.testedUpTo.title).warnings ++
      (versionNote header.stableTag Field.stableTag.title).warnings ++
      (versionNote header.requiresPhp Field.requiresPhp.title).warnings = _
    simp only [warnings_versionNote, ← List.map_append, ← List.filter_append]
    rfl
  have hnone (field : Field) : (header.noteOn field).warnings = [] :=
    warnings_noteOn fun _ ↦ rfl
  simp only [warnings, notes, Notes.warnings_append, hnone, warnings_noteOn tagsAdvice?_of_lacks,
    warnings_noteOn descriptionAdvice?_of_lacks, List.append_nil, List.nil_append,
    ← hversions, List.append_assoc]

end Header

/-! ## Issues of one kind -/

namespace Check

variable {found : List Issue} {codes : List Code} {code : Code}

theorem filter_code_eq_nil (h : ∀ issue ∈ found, issue.code ∈ codes) (hcode : code ∉ codes) :
    found.filter (·.code = code) = [] := by
  rw [List.filter_eq_nil_iff]
  intro issue hissue
  rw [decide_eq_true_eq]
  exact fun heq ↦ hcode (heq ▸ h issue hissue)

theorem filter_code_eq_self (h : ∀ issue ∈ found, issue.code ∈ [code]) :
    found.filter (·.code = code) = found := by
  rw [List.filter_eq_self]
  intro issue hissue
  rw [decide_eq_true_eq]
  exact List.mem_singleton.mp (h issue hissue)

theorem filter_map_fieldWarning {own : Code} {field : Field} {values : List Text}
    {message : Text → Text} (h : own ≠ code) :
    (values.map fun value ↦ fieldWarning ls own field (message value) value).filter
      (·.code = code) = [] := by
  refine filter_code_eq_nil (fun issue hissue ↦ ?_) (List.mem_singleton.not.mpr h.symm)
  obtain ⟨value, -, rfl⟩ := List.mem_map.mp hissue
  rw [code_fieldWarning]
  exact List.mem_cons_self

/-- Issues of a kind that the header can have come from the check of the header. -/
theorem filter_code_issues (h : code.category? = some .header) (readme : Readme) :
    (Check.issues readme).filter (·.code = code) =
      (Check.header readme.header (Text.lines readme.source)).filter (·.code = code) := by
  have hnil {others : List Issue} (own : Category) (hown : own ≠ .header)
      (hmem : ∀ issue ∈ others, issue.code.category? = some own) :
      others.filter (·.code = code) = [] := by
    rw [List.filter_eq_nil_iff]
    intro issue hissue
    rw [decide_eq_true_eq]
    intro heq
    have hcategory := hmem issue hissue
    rw [heq, h, Option.some.injEq] at hcategory
    exact hown hcategory.symm
  unfold issues
  simp only [List.filter_append]
  rw [hnil .sections (by decide) fun _ ↦ category?_of_mem_sections,
    hnil .markup (by decide) fun _ ↦ category?_of_mem_malformedHeadings,
    hnil .content (by decide) fun _ ↦ category?_of_mem_promotionalLanguage,
    hnil .markup (by decide) fun _ ↦ category?_of_mem_markup,
    hnil .content (by decide) fun _ ↦ category?_of_mem_mailAddresses,
    hnil .content (by decide) fun _ ↦ category?_of_mem_size]
  simp only [List.append_nil]

def notedCodes : List Code :=
  [.missingField, .tooManyTags, .shortDescriptionTooLong, .invalidVersion]

/-- The noted kinds of issues come from four of the checks of a header. -/
theorem filter_code_header (h : code ∈ notedCodes) (header : Header) (ls : List Text) :
    (Check.header header ls).filter (·.code = code) =
      (missingFields header).filter (·.code = code) ++ (tags header ls).filter (·.code = code) ++
        (versions header ls).filter (·.code = code) ++
        (shortDescription header ls).filter (·.code = code) := by
  have hother : ∀ noted ∈ notedCodes, noted ∉ [Code.pluginNameLength] ∧
      noted ∉ [Code.invalidContributor] ∧ noted ∉ [Code.licenseNotGpl] ∧
      noted ∉ [Code.invalidUrl] := by decide
  obtain ⟨hname, hcontributors, hlicense, haddresses⟩ := hother code h
  unfold Check.header
  simp only [List.filter_append]
  rw [filter_code_eq_nil (fun _ ↦ code_of_mem_nameLength) hname,
    filter_code_eq_nil (fun _ ↦ code_of_mem_contributors) hcontributors,
    filter_code_eq_nil (fun _ ↦ code_of_mem_license) hlicense,
    filter_code_eq_nil (fun _ ↦ code_of_mem_addresses) haddresses]
  simp only [List.append_nil]

theorem filter_missingField (readme : Readme) :
    (Check.issues readme).filter (·.code = .missingField) = missingFields readme.header := by
  rw [filter_code_issues rfl, filter_code_header (by decide),
    filter_code_eq_self fun _ ↦ code_of_mem_missingFields,
    filter_code_eq_nil (fun _ ↦ code_of_mem_tags) (by decide),
    filter_code_eq_nil (fun _ ↦ code_of_mem_versions) (by decide),
    filter_code_eq_nil (fun _ ↦ code_of_mem_shortDescription) (by decide)]
  simp only [List.append_nil]

theorem filter_tooManyTags (readme : Readme) :
    (Check.issues readme).filter (·.code = .tooManyTags) =
      (tags readme.header (Text.lines readme.source)).filter (·.code = .tooManyTags) := by
  rw [filter_code_issues rfl, filter_code_header (by decide),
    filter_code_eq_nil (fun _ ↦ code_of_mem_missingFields) (by decide),
    filter_code_eq_nil (fun _ ↦ code_of_mem_versions) (by decide),
    filter_code_eq_nil (fun _ ↦ code_of_mem_shortDescription) (by decide)]
  simp only [List.append_nil, List.nil_append]

theorem filter_invalidVersion (readme : Readme) :
    (Check.issues readme).filter (·.code = .invalidVersion) =
      versions readme.header (Text.lines readme.source) := by
  rw [filter_code_issues rfl, filter_code_header (by decide),
    filter_code_eq_nil (fun _ ↦ code_of_mem_missingFields) (by decide),
    filter_code_eq_nil (fun _ ↦ code_of_mem_tags) (by decide),
    filter_code_eq_self fun _ ↦ code_of_mem_versions,
    filter_code_eq_nil (fun _ ↦ code_of_mem_shortDescription) (by decide)]
  simp only [List.append_nil, List.nil_append]

theorem filter_shortDescriptionTooLong (readme : Readme) :
    (Check.issues readme).filter (·.code = .shortDescriptionTooLong) =
      (shortDescription readme.header (Text.lines readme.source)).filter
        (·.code = .shortDescriptionTooLong) := by
  rw [filter_code_issues rfl, filter_code_header (by decide),
    filter_code_eq_nil (fun _ ↦ code_of_mem_missingFields) (by decide),
    filter_code_eq_nil (fun _ ↦ code_of_mem_tags) (by decide),
    filter_code_eq_nil (fun _ ↦ code_of_mem_versions) (by decide)]
  simp only [List.nil_append]

end Check

/-! ## Notes and issues -/

namespace Notes

/-- What reading says, with the kind of issue and the entry of the header that it is about. -/
def topics : List (Text × Code × Field) :=
  [("Plugin name is required (=== Plugin Name ===)", .missingField, .pluginName),
    ("Contributors field is required", .missingField, .contributors),
    ("Tags field is required", .missingField, .tags),
    ("Requires at least field is required", .missingField, .requiresAtLeast),
    ("Tested up to field is required", .missingField, .testedUpTo),
    ("Stable tag field is required", .missingField, .stableTag),
    ("License field is required", .missingField, .license),
    ("Short description is required", .missingField, .shortDescription),
    ("Maximum 5 tags recommended", .tooManyTags, .tags),
    ("Short description should be 150 characters or less", .shortDescriptionTooLong,
      .shortDescription),
    ("Requires at least should be in format X.Y or X.Y.Z", .invalidVersion, .requiresAtLeast),
    ("Tested up to should be in format X.Y or X.Y.Z", .invalidVersion, .testedUpTo),
    ("Stable tag should be in format X.Y or X.Y.Z", .invalidVersion, .stableTag),
    ("Requires PHP should be in format X.Y or X.Y.Z", .invalidVersion, .requiresPhp)]

/-- A note of reading and an issue of the checks are about the same thing. -/
def Matches (note : Text) (issue : Issue) : Prop :=
  ∃ code field, (note, code, field) ∈ topics ∧ issue.code = code ∧
    issue.subject = some (.field field)

/-- A note tells which kind of issue it is about, and which entry of the header. -/
theorem Matches.unique {note : Text} {a b : Issue} (ha : Matches note a) (hb : Matches note b) :
    a.code = b.code ∧ a.subject = b.subject := by
  have htopics : ∀ topic ∈ topics, ∀ other ∈ topics, topic.1 = other.1 → topic = other := by
    decide +kernel
  obtain ⟨code, field, hmem, hcode, hsubject⟩ := ha
  obtain ⟨code', field', hmem', hcode', hsubject'⟩ := hb
  obtain ⟨-, heq⟩ := Prod.ext_iff.mp (htopics _ hmem _ hmem' rfl)
  obtain ⟨rfl, rfl⟩ := Prod.ext_iff.mp heq
  exact ⟨hcode.trans hcode'.symm, hsubject.trans hsubject'.symm⟩

open Check

/-- The errors of reading are about the fields that checks miss. -/
theorem matches_errors (header : Header) :
    List.Forall₂ Matches header.errors (missingFields header) := by
  have htopics : ∀ field ∈ Field.required,
      (Header.missingText field, Code.missingField, field) ∈ topics := by
    decide +kernel
  rw [Header.errors_eq, missingFields, List.forall₂_map_left_iff, List.forall₂_map_right_iff,
    List.forall₂_same]
  exact fun field hfield ↦ ⟨_, _, htopics field (List.mem_filter.mp hfield).1, rfl, rfl⟩

theorem matches_tagsAdvice (header : Header) (ls : List Text) :
    List.Forall₂ Matches header.tagsAdvice?.toList
      ((Check.tags header ls).filter (·.code = .tooManyTags)) := by
  unfold Check.tags
  rw [List.filter_append, filter_map_fieldWarning (by decide), List.append_nil, Header.tagsAdvice?]
  split_ifs
  · exact .cons ⟨.tooManyTags, .tags, by decide +kernel, rfl, rfl⟩ .nil
  · exact .nil

theorem matches_descriptionAdvice (header : Header) (ls : List Text) :
    List.Forall₂ Matches header.descriptionAdvice?.toList
      ((shortDescription header ls).filter (·.code = .shortDescriptionTooLong)) := by
  have hother {condition : Prop} [Decidable condition] {issue : Issue}
      (h : issue.code ≠ .shortDescriptionTooLong) :
      List.Forall₂ Matches []
        ((if condition then [issue] else []).filter (·.code = .shortDescriptionTooLong)) := by
    split_ifs
    · rw [List.filter_cons_of_neg (by simpa using h)]
      exact .nil
    · exact .nil
  unfold shortDescription
  dsimp only
  rw [List.filter_append, List.filter_append, ← List.append_nil header.descriptionAdvice?.toList,
    ← List.append_nil (_ ++ [])]
  refine List.rel_append (List.rel_append ?_ (hother (by nofun))) (hother (by nofun))
  rw [Header.descriptionAdvice?]
  split_ifs
  · exact .cons ⟨.shortDescriptionTooLong, .shortDescription, by decide +kernel, rfl, rfl⟩ .nil
  · exact .nil

/-- The warnings about versions are about those that checks find wrong. -/
theorem matches_versions (header : Header) (ls : List Text) :
    List.Forall₂ Matches (header.wrongVersions.map fun (field, _) ↦ Header.versionText field.title)
      (Check.versions header ls) := by
  have htopics : ∀ field ∈ [Field.requiresAtLeast, .testedUpTo, .stableTag, .requiresPhp],
      (Header.versionText field.title, Code.invalidVersion, field) ∈ topics := by
    decide +kernel
  rw [Check.versions, List.forall₂_map_left_iff, List.forall₂_map_right_iff, List.forall₂_same]
  rintro ⟨field, value⟩ hmem
  have hfield : field ∈ header.versions.map Prod.fst :=
    List.mem_map_of_mem (List.mem_filter.mp hmem).1
  obtain ⟨hcode, hsubject, -⟩ := about_fieldWarning ls .invalidVersion field
    (field.title ++ " should be in format X.Y or X.Y.Z (got \"" ++ value ++ "\")") value
  exact ⟨_, _, htopics field hfield, hcode, hsubject⟩

end Notes

/-- Reading and checking agree on what is wrong with a header. The errors of reading and the issues
of missing fields name the same fields in the same order. The warnings of reading and the issues of
too many tags, of a description that is too long, and of wrong versions correspond one by one. A
note leaves no choice of what it is about. -/
theorem notes_match_issues (t : Text) :
    let readme := Readme.ofText t
    let found (code : Code) := (Verdict.of readme []).issues.filter (·.code = code)
    List.Forall₂ Notes.Matches readme.header.errors (found .missingField) ∧
      List.Forall₂ Notes.Matches readme.header.warnings
        (found .tooManyTags ++ found .shortDescriptionTooLong ++ found .invalidVersion) ∧
      ∀ note a b, Notes.Matches note a → Notes.Matches note b →
        a.code = b.code ∧ a.subject = b.subject := by
  intro readme found
  refine ⟨?_, ?_, fun note a b ↦ Notes.Matches.unique⟩
  all_goals
    simp only [found, Verdict.issues_of_nil, Check.filter_missingField, Check.filter_tooManyTags,
      Check.filter_shortDescriptionTooLong, Check.filter_invalidVersion]
  · exact Notes.matches_errors readme.header
  · rw [Header.warnings_eq]
    exact List.rel_append (List.rel_append (Notes.matches_tagsAdvice _ _)
      (Notes.matches_descriptionAdvice _ _)) (Notes.matches_versions _ _)

end PluginReadme
