import PluginReadme.Proofs.Check.Findings

/-!
# Errors and warnings

Two checks report errors, that on required fields and that on malformed headings, and every other
check reports warnings only (`Check.AreWarnings`). So the errors of a readme are its missing fields
and then its malformed headings (`Verdict.errors_of`), and a readme with neither is valid.
-/

namespace PluginReadme

namespace Check

def AreWarnings (issues : List Issue) : Prop := ∀ issue ∈ issues, issue.severity = .warning

section Lists

variable {α : Type} {issues more : List Issue} {issue : Issue}

theorem areWarnings_nil : AreWarnings [] := List.forall_mem_nil _

theorem areWarnings_singleton (h : issue.severity = .warning) : AreWarnings [issue] :=
  List.forall_mem_singleton.mpr h

theorem AreWarnings.append (h : AreWarnings issues) (hmore : AreWarnings more) :
    AreWarnings (issues ++ more) :=
  List.forall_mem_append.mpr ⟨h, hmore⟩

theorem areWarnings_ite {condition : Prop} [Decidable condition] (h : AreWarnings issues)
    (hmore : AreWarnings more) : AreWarnings (if condition then issues else more) := by
  split
  · exact h
  · exact hmore

theorem areWarnings_map {report : α → Issue} (h : ∀ a, (report a).severity = .warning)
    (found : List α) : AreWarnings (found.map report) := by
  intro issue hissue
  obtain ⟨a, -, rfl⟩ := List.mem_map.mp hissue
  exact h a

theorem areWarnings_flatMap {report : α → List Issue} (h : ∀ a, AreWarnings (report a))
    (found : List α) : AreWarnings (found.flatMap report) := by
  intro issue hissue
  obtain ⟨a, -, ha⟩ := List.mem_flatMap.mp hissue
  exact h a issue ha

end Lists

/-! ## The header -/

section Header

variable (header : Header) (ls : List Text)

theorem severity_fieldWarning (code : Code) (field : Field) (message value : Text) :
    (fieldWarning ls code field message value).severity = .warning := by
  unfold fieldWarning
  dsimp only
  split
  · rfl
  · split <;> rfl

theorem areWarnings_nameLength : AreWarnings (nameLength header ls) :=
  areWarnings_ite (areWarnings_singleton rfl)
    (areWarnings_ite (areWarnings_singleton rfl) areWarnings_nil)

theorem areWarnings_contributors : AreWarnings (contributors header ls) := by
  refine areWarnings_map ?_ _
  exact fun _ ↦ severity_fieldWarning ls _ _ _ _

theorem areWarnings_tags : AreWarnings (tags header ls) :=
  (areWarnings_ite (areWarnings_singleton rfl) areWarnings_nil).append
    (areWarnings_map (fun _ ↦ severity_fieldWarning ls _ _ _ _) _)

theorem areWarnings_versions : AreWarnings (versions header ls) := by
  refine areWarnings_map ?_ _
  exact fun _ ↦ severity_fieldWarning ls _ _ _ _

theorem areWarnings_shortDescription : AreWarnings (shortDescription header ls) :=
  ((areWarnings_ite (areWarnings_singleton rfl) areWarnings_nil).append
    (areWarnings_ite (areWarnings_singleton rfl) areWarnings_nil)).append
      (areWarnings_ite (areWarnings_singleton rfl) areWarnings_nil)

theorem areWarnings_license : AreWarnings (license header ls) :=
  areWarnings_ite areWarnings_nil (areWarnings_singleton rfl)

theorem areWarnings_addresses : AreWarnings (addresses header ls) :=
  (areWarnings_ite areWarnings_nil
    (areWarnings_singleton (severity_fieldWarning ls _ _ _ _))).append
      (areWarnings_ite areWarnings_nil (areWarnings_singleton (severity_fieldWarning ls _ _ _ _)))

end Header

/-! ## Sections, markup and content -/

theorem areWarnings_sectionContent (part : Section) : AreWarnings (sectionContent part) :=
  areWarnings_ite (areWarnings_singleton rfl) (areWarnings_map (fun _ ↦ rfl) _)

theorem areWarnings_sectionOrder (parts : List Section) : AreWarnings (sectionOrder parts) := by
  cases parts with
  | nil => exact areWarnings_nil
  | cons first _ => exact areWarnings_ite areWarnings_nil (areWarnings_singleton rfl)

/-- The sections of a readme are never the cause of an error. -/
theorem areWarnings_sections (parts : List Section) : AreWarnings (sections parts) :=
  ((areWarnings_map (fun _ ↦ rfl) _).append (areWarnings_sectionOrder parts)).append
    (areWarnings_flatMap areWarnings_sectionContent parts)

theorem areWarnings_unclosedFence (ls : List Text) : AreWarnings (unclosedFence ls) := by
  unfold unclosedFence
  dsimp only
  split
  · exact areWarnings_ite (areWarnings_singleton rfl) areWarnings_nil
  · exact areWarnings_nil

theorem areWarnings_unclosedLinksOn (line : Text) (number : Nat) :
    AreWarnings (unclosedLinksOn line number) := by
  refine AreWarnings.append ?_ ?_
  · split
    · exact areWarnings_singleton rfl
    · exact areWarnings_nil
  · split
    · exact areWarnings_singleton rfl
    · exact areWarnings_nil

theorem areWarnings_unbalancedEmphasis (ls : List Text) (source : Text) :
    AreWarnings (unbalancedEmphasis ls source) :=
  (areWarnings_ite (areWarnings_singleton rfl) areWarnings_nil).append
    (areWarnings_ite (areWarnings_singleton rfl) areWarnings_nil)

/-- Apart from malformed headings, markup is never the cause of an error. -/
theorem areWarnings_markup (ls : List Text) (source : Text) : AreWarnings (markup ls source) := by
  have hhashes : AreWarnings (hashHeadings ls) := areWarnings_map (fun _ ↦ rfl) _
  have hlinks : AreWarnings (unclosedLinks ls) :=
    areWarnings_flatMap (fun _ ↦ areWarnings_unclosedLinksOn _ _) _
  have hindentation : AreWarnings (mixedIndentation ls) := areWarnings_map (fun _ ↦ rfl) _
  exact ((((areWarnings_unclosedFence ls).append hhashes).append
    (areWarnings_unbalancedEmphasis ls source)).append hlinks).append hindentation

theorem areWarnings_promotionalLanguage (ls : List Text) : AreWarnings (promotionalLanguage ls) :=
  areWarnings_flatMap (fun _ ↦ areWarnings_map (fun _ ↦ rfl) _) _

theorem areWarnings_mailAddresses (ls : List Text) : AreWarnings (mailAddresses ls) :=
  areWarnings_flatMap (fun _ ↦ areWarnings_map (fun _ ↦ rfl) _) _

theorem areWarnings_size (source : Text) : AreWarnings (size source) :=
  areWarnings_ite areWarnings_nil (areWarnings_singleton rfl)

end Check

/-! ## The errors of a readme -/

namespace Verdict

open Check

/-- The errors of a readme are the required fields it lacks and then its malformed headings. -/
theorem errors_of (readme : Readme) :
    (Verdict.of readme []).errors =
      missingFields readme.header ++ malformedHeadings (Text.lines readme.source) := by
  have hnone {issues : List Issue} (h : AreWarnings issues) : issues.filter (·.isError) = [] := by
    rw [List.filter_eq_nil_iff]
    intro issue hissue
    rw [Issue.isError, h issue hissue]
    decide
  have hmissing : (missingFields readme.header).filter (·.isError) =
      missingFields readme.header := by
    rw [List.filter_eq_self]
    intro issue hissue
    obtain ⟨field, -, rfl⟩ := List.mem_map.mp hissue
    rfl
  have hmalformed : (malformedHeadings (Text.lines readme.source)).filter (·.isError) =
      malformedHeadings (Text.lines readme.source) := by
    rw [List.filter_eq_self]
    intro issue hissue
    obtain ⟨⟨line, index⟩, -, rfl⟩ := List.mem_map.mp hissue
    rfl
  rw [errors, issues_of_nil, Check.issues, Check.header]
  simp only [List.filter_append, hmissing, hmalformed, hnone (areWarnings_nameLength _ _),
    hnone (areWarnings_contributors _ _), hnone (areWarnings_tags _ _),
    hnone (areWarnings_versions _ _), hnone (areWarnings_shortDescription _ _),
    hnone (areWarnings_license _ _), hnone (areWarnings_addresses _ _),
    hnone (areWarnings_sections _), hnone (areWarnings_promotionalLanguage _),
    hnone (areWarnings_markup _ _), hnone (areWarnings_mailAddresses _),
    hnone (areWarnings_size _), List.append_nil]

/-- Where no required field is missing and no heading is malformed, there are no errors. -/
theorem errors_of_eq_nil_iff (readme : Readme) :
    (Verdict.of readme []).errors = [] ↔
      (∀ field ∈ Field.required, readme.header.lacks field = false) ∧
        ∀ line ∈ Text.lines readme.source, isMalformed line = false := by
  have hfound : (Text.lines readme.source).zipIdx.filter (fun pair ↦ isMalformed pair.1) = [] ↔
      ∀ line ∈ Text.lines readme.source, isMalformed line = false := by
    have hcount := countP_eq_length_filter_zipIdx isMalformed (Text.lines readme.source)
    rw [← List.length_eq_zero_iff, hcount, List.countP_eq_zero]
    simp only [Bool.not_eq_true]
  rw [errors_of, List.append_eq_nil_iff, missingFields, malformedHeadings, List.map_eq_nil_iff,
    List.map_eq_nil_iff, hfound, List.filter_eq_nil_iff]
  simp only [Bool.not_eq_true]

end Verdict

end PluginReadme
