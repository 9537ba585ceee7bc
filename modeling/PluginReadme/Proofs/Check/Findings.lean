import PluginReadme.Check.Verdict
import PluginReadme.Proofs.Check.Marks

/-!
# What a reported issue says about the text

Every check reports issues of its own category only. Hence an issue that a quick fix can mend on a
line comes from the check of its code, stands on a line of the text, and what the check looked for
holds there (`finding_of_mem_issues`). Later proofs use this instead of the checks.
-/

namespace PluginReadme

/-- The issue is at a line; lines count from one. -/
structure Issue.IsAt (issue : Issue) (ls : List Text) (index : Nat) (line : Text) : Prop where
  line_eq : ls[index]? = some line
  number_eq : issue.line = some ((index : Int) + 1)

theorem Verdict.issues_of (readme : Readme) (ignored : List Text) :
    (Verdict.of readme ignored).issues = Verdict.kept ignored (Check.issues readme) := by
  rw [Verdict.of, Verdict.ofIssues]

/-- With no code to be ignored, everything that the checks found is reported. -/
theorem Verdict.issues_of_nil (readme : Readme) :
    (Verdict.of readme []).issues = Check.issues readme := by
  rw [Verdict.issues_of, Verdict.kept, List.filter_eq_self]
  intro issue _
  rfl

namespace Check

variable {issue : Issue} {ls : List Text} {t : Text}

/-! ## Categories -/

section Guarded

variable {α : Type} {condition : Prop} [Decidable condition] {a b : α}

/-- A check reports one thing or nothing. -/
theorem eq_of_mem_ite (h : a ∈ if condition then [b] else []) : a = b := by
  split_ifs at h
  · exact List.mem_singleton.mp h
  · exact absurd h List.not_mem_nil

theorem eq_of_mem_ite_not (h : a ∈ if condition then [] else [b]) : a = b := by
  split_ifs at h
  · exact absurd h List.not_mem_nil
  · exact List.mem_singleton.mp h

end Guarded

/-- A warning about a value has the code, the field and the message that it is made with. -/
theorem about_fieldWarning (ls : List Text) (code : Code) (field : Field) (message value : Text) :
    (fieldWarning ls code field message value).code = code ∧
      (fieldWarning ls code field message value).subject = some (.field field) ∧
        (fieldWarning ls code field message value).message = message := by
  unfold fieldWarning
  dsimp only
  split
  · exact ⟨rfl, rfl, rfl⟩
  · split <;> exact ⟨rfl, rfl, rfl⟩

theorem code_fieldWarning (ls : List Text) (code : Code) (field : Field) (message value : Text) :
    (fieldWarning ls code field message value).code = code :=
  (about_fieldWarning ls code field message value).1

/-- The kinds of issues about an entry of the header that is there. -/
def entryCodes : List Code :=
  [.pluginNameLength, .invalidContributor, .tooManyTags, .longTag, .invalidVersion,
    .shortDescriptionTooLong, .shortDescriptionMarkup, .shortDescriptionTooShort, .licenseNotGpl,
    .invalidUrl]

section Entries

variable {header : Header}

theorem code_of_mem_missingFields (h : issue ∈ missingFields header) :
    issue.code ∈ [Code.missingField] := by
  obtain ⟨field, -, rfl⟩ := List.mem_map.mp h
  exact List.mem_cons_self

theorem code_of_mem_nameLength (h : issue ∈ nameLength header ls) :
    issue.code ∈ [Code.pluginNameLength] := by
  unfold nameLength at h
  dsimp only at h
  split_ifs at h
  · rw [List.mem_singleton.mp h]
    exact List.mem_cons_self
  · rw [List.mem_singleton.mp h]
    exact List.mem_cons_self
  · exact absurd h List.not_mem_nil

theorem code_of_mem_contributors (h : issue ∈ contributors header ls) :
    issue.code ∈ [Code.invalidContributor] := by
  obtain ⟨name, -, rfl⟩ := List.mem_map.mp h
  dsimp only
  rw [code_fieldWarning]
  exact List.mem_cons_self

theorem code_of_mem_tags (h : issue ∈ tags header ls) :
    issue.code ∈ [Code.tooManyTags, .longTag] := by
  rcases List.mem_append.mp h with h | h
  · rw [eq_of_mem_ite h]
    exact (by decide : Code.tooManyTags ∈ [Code.tooManyTags, .longTag])
  · obtain ⟨tag, -, rfl⟩ := List.mem_map.mp h
    rw [code_fieldWarning]
    decide

theorem code_of_mem_versions (h : issue ∈ versions header ls) :
    issue.code ∈ [Code.invalidVersion] := by
  obtain ⟨⟨field, value⟩, -, rfl⟩ := List.mem_map.mp h
  dsimp only
  rw [code_fieldWarning]
  exact List.mem_cons_self

theorem code_of_mem_shortDescription (h : issue ∈ shortDescription header ls) :
    issue.code ∈
      [Code.shortDescriptionTooLong, .shortDescriptionMarkup, .shortDescriptionTooShort] := by
  unfold shortDescription at h
  simp only [List.mem_append] at h
  rcases h with (h | h) | h
  · rw [eq_of_mem_ite h]
    exact List.mem_cons_self
  · rw [eq_of_mem_ite h]
    exact List.mem_cons_of_mem _ List.mem_cons_self
  · rw [eq_of_mem_ite h]
    exact List.mem_cons_of_mem _ (List.mem_cons_of_mem _ List.mem_cons_self)

theorem code_of_mem_license (h : issue ∈ license header ls) :
    issue.code ∈ [Code.licenseNotGpl] := by
  rw [eq_of_mem_ite_not h]
  exact List.mem_cons_self

theorem code_of_mem_addresses (h : issue ∈ addresses header ls) :
    issue.code ∈ [Code.invalidUrl] := by
  rcases List.mem_append.mp h with h | h
  all_goals
    rw [eq_of_mem_ite_not h, code_fieldWarning]
    exact List.mem_cons_self

/-- An entry is missing, or something is wrong with it. -/
theorem code_of_mem_header (h : issue ∈ Check.header header ls) :
    issue ∈ missingFields header ∨ issue.code ∈ entryCodes := by
  have hmem {codes : List Code} (hsubset : codes ⊆ entryCodes) (hcode : issue.code ∈ codes) :
      issue ∈ missingFields header ∨ issue.code ∈ entryCodes := Or.inr (hsubset hcode)
  simp only [Check.header, List.mem_append] at h
  rcases h with ((((((h | h) | h) | h) | h) | h) | h) | h
  · exact Or.inl h
  · exact hmem (by decide) (code_of_mem_nameLength h)
  · exact hmem (by decide) (code_of_mem_contributors h)
  · exact hmem (by decide) (code_of_mem_tags h)
  · exact hmem (by decide) (code_of_mem_versions h)
  · exact hmem (by decide) (code_of_mem_shortDescription h)
  · exact hmem (by decide) (code_of_mem_license h)
  · exact hmem (by decide) (code_of_mem_addresses h)

end Entries

/-- Issues of the header belong to the category of the header. -/
theorem category?_of_mem_header {header : Header} (h : issue ∈ Check.header header ls) :
    issue.code.category? = some .header := by
  rcases code_of_mem_header h with h | h
  · obtain ⟨field, -, rfl⟩ := List.mem_map.mp h
    rfl
  · have hall : ∀ code ∈ entryCodes, code.category? = some .header := by decide
    exact hall issue.code h

theorem category?_of_mem_contentFaults {title content : Text} {code : Code} {message : String}
    (h : (code, message) ∈ contentFaults title content) : code.category? = some .sections := by
  have hfault (holds : Bool) {own : Code} {text : String} (hown : own.category? = some .sections)
      (h : (code, message) ∈ if holds then [(own, text)] else []) :
      code.category? = some .sections := by
    obtain ⟨rfl, -⟩ := Prod.mk.inj (eq_of_mem_ite h)
    exact hown
  unfold contentFaults at h
  dsimp only at h
  split at h
  · rcases List.mem_append.mp h with h | h
    · exact hfault _ rfl h
    · exact hfault _ rfl h
  split at h
  · exact hfault _ rfl h
  split at h
  · exact hfault _ rfl h
  split at h
  · exact hfault _ rfl h
  split at h
  · exact hfault _ rfl h
  split at h
  · obtain ⟨notice, -, h⟩ := List.mem_flatMap.mp h
    exact hfault _ rfl h
  · exact absurd h List.not_mem_nil

/-- Issues of the sections belong to the category of the sections. -/
theorem category?_of_mem_sections {parts : List Section} (h : issue ∈ Check.sections parts) :
    issue.code.category? = some .sections := by
  simp only [Check.sections, List.mem_append] at h
  rcases h with (h | h) | h
  · obtain ⟨title, -, rfl⟩ := List.mem_map.mp h
    rfl
  · unfold sectionOrder at h
    split at h
    · exact absurd h List.not_mem_nil
    · rw [eq_of_mem_ite_not h]
      rfl
  · obtain ⟨part, -, h⟩ := List.mem_flatMap.mp h
    unfold sectionContent at h
    dsimp only at h
    split_ifs at h
    · rw [List.mem_singleton.mp h]
      rfl
    · obtain ⟨⟨code, message⟩, hfault, rfl⟩ := List.mem_map.mp h
      exact category?_of_mem_contentFaults hfault

theorem category?_of_mem_promotionalLanguage (h : issue ∈ promotionalLanguage ls) :
    issue.code.category? = some .content := by
  obtain ⟨⟨line, index⟩, -, h⟩ := List.mem_flatMap.mp h
  obtain ⟨⟨start, stop, word⟩, -, rfl⟩ := List.mem_map.mp h
  rfl

theorem category?_of_mem_mailAddresses (h : issue ∈ mailAddresses ls) :
    issue.code.category? = some .content := by
  obtain ⟨⟨line, index⟩, -, h⟩ := List.mem_flatMap.mp h
  obtain ⟨hit, -, rfl⟩ := List.mem_map.mp h
  rfl

theorem category?_of_mem_size {source : Text} (h : issue ∈ size source) :
    issue.code.category? = some .content := by
  rw [eq_of_mem_ite_not h]
  rfl

theorem category?_of_mem_malformedHeadings (h : issue ∈ malformedHeadings ls) :
    issue.code.category? = some .markup := by
  obtain ⟨⟨line, index⟩, -, rfl⟩ := List.mem_map.mp h
  rfl

/-- Issues of the markup belong to the category of the markup. -/
theorem category?_of_mem_markup {source : Text} (h : issue ∈ markup ls source) :
    issue.code.category? = some .markup := by
  simp only [markup, List.mem_append] at h
  rcases h with (((h | h) | h) | h) | h
  · unfold unclosedFence at h
    dsimp only at h
    split at h
    · rw [eq_of_mem_ite h]
      rfl
    · exact absurd h List.not_mem_nil
  · obtain ⟨⟨line, index⟩, -, rfl⟩ := List.mem_map.mp h
    rfl
  · rcases List.mem_append.mp h with h | h
    · rw [eq_of_mem_ite h]
      rfl
    · rw [eq_of_mem_ite h]
      rfl
  · obtain ⟨⟨line, index⟩, -, h⟩ := List.mem_flatMap.mp h
    rcases List.mem_append.mp h with h | h
    all_goals
      split at h
      · rw [List.mem_singleton.mp h]
        rfl
      · exact absurd h List.not_mem_nil
  · obtain ⟨block, -, rfl⟩ := List.mem_map.mp h
    rfl

def issuesOf (readme : Readme) : Category → List Issue
  | .header => header readme.header (Text.lines readme.source)
  | .sections => sections readme.sections
  | .markup => malformedHeadings (Text.lines readme.source) ++
      markup (Text.lines readme.source) readme.source
  | .content => promotionalLanguage (Text.lines readme.source) ++
      mailAddresses (Text.lines readme.source) ++ size readme.source

/-- An issue comes from the checks of its category. -/
theorem mem_issuesOf {readme : Readme} {category : Category} (h : issue ∈ issues readme)
    (hcategory : issue.code.category? = some category) : issue ∈ issuesOf readme category := by
  have hfrom {own : Category} (hown : issue.code.category? = some own)
      (hmem : issue ∈ issuesOf readme own) : issue ∈ issuesOf readme category := by
    rw [hown, Option.some.injEq] at hcategory
    exact hcategory ▸ hmem
  simp only [issues, List.mem_append] at h
  rcases h with (((((h | h) | h) | h) | h) | h) | h
  · exact hfrom (category?_of_mem_header h) h
  · exact hfrom (category?_of_mem_sections h) h
  · exact hfrom (category?_of_mem_malformedHeadings h) (List.mem_append_left _ h)
  · exact hfrom (category?_of_mem_promotionalLanguage h)
      (List.mem_append_left _ (List.mem_append_left _ h))
  · exact hfrom (category?_of_mem_markup h) (List.mem_append_right _ h)
  · exact hfrom (category?_of_mem_mailAddresses h)
      (List.mem_append_left _ (List.mem_append_right _ h))
  · exact hfrom (category?_of_mem_size h) (List.mem_append_right _ h)

/-! ## Numbered lines -/

theorem getElem?_of_mem_zipIdx {line : Text} {index : Nat} (h : (line, index) ∈ ls.zipIdx) :
    ls[index]? = some line :=
  List.mem_zipIdx_iff_getElem?.mp h

/-- Numbering the lines changes nothing about how many have a property. -/
theorem countP_eq_length_filter_zipIdx (p : Text → Bool) (ls : List Text) :
    (ls.zipIdx.filter fun (line, _) ↦ p line).length = ls.countP p := by
  calc
    (ls.zipIdx.filter fun (line, _) ↦ p line).length = ls.zipIdx.countP (p ∘ Prod.fst) :=
      List.countP_eq_length_filter.symm
    _ = (ls.zipIdx.map Prod.fst).countP p := List.countP_map.symm
    _ = ls.countP p := by rw [List.zipIdx_map_fst]

/-- The last line with a property has it, and no later line does. -/
theorem getLast?_filter_zipIdx {p : Text → Bool} {line : Text} {index : Nat}
    (h : (ls.zipIdx.filter fun (line, _) ↦ p line).getLast? = some (line, index)) :
    ls[index]? = some line ∧ p line = true ∧ ∀ other ∈ ls.drop (index + 1), p other = false := by
  obtain ⟨hmem, hline⟩ := List.mem_filter.mp (List.mem_of_getLast? h)
  refine ⟨getElem?_of_mem_zipIdx hmem, hline, ?_⟩
  induction ls using List.reverseRecOn with
  | nil => simp
  | append_singleton front last ih =>
    rw [List.zipIdx_append, List.filter_append] at h
    by_cases hlast : p last = true
    · have hend : (([last].zipIdx (0 + front.length)).filter fun (line, _) ↦ p line) =
          [(last, 0 + front.length)] := by
        simp [hlast]
      rw [hend, List.getLast?_concat, Option.some.injEq, Prod.mk.injEq] at h
      rw [← h.2, List.drop_eq_nil_of_le (by simp)]
      simp
    · have hend : (([last].zipIdx (0 + front.length)).filter fun (line, _) ↦ p line) = [] := by
        simp [hlast]
      rw [hend, List.append_nil] at h
      have hfront := (List.mem_filter.mp (List.mem_of_getLast? h)).1
      have hlength : index < front.length := List.snd_lt_of_mem_zipIdx hfront
      rw [List.drop_append_of_le_length (by omega)]
      intro other hother
      rcases List.mem_append.mp hother with hother | hother
      · exact ih h hfront other hother
      · rw [List.mem_singleton.mp hother]
        exact Bool.eq_false_iff.mpr hlast

theorem lastLineWhere?_eq_some {holds : Text → Bool} (h : ∃ line ∈ ls, holds line = true) :
    ∃ index line, ls[index]? = some line ∧ lastLineWhere? holds ls = some (index + 1) := by
  obtain ⟨line, hline, hholds⟩ := h
  obtain ⟨index, hindex⟩ := List.getElem?_of_mem hline
  have hmem : (line, index) ∈ ls.zipIdx.reverse :=
    List.mem_reverse.mpr (List.mem_zipIdx_iff_getElem?.mpr hindex)
  have hsome : (ls.zipIdx.reverse.find? fun (line, _) ↦ holds line).isSome = true :=
    List.find?_isSome.mpr ⟨(line, index), hmem, hholds⟩
  obtain ⟨⟨found, position⟩, hfound⟩ := Option.isSome_iff_exists.mp hsome
  refine ⟨position, found, ?_, ?_⟩
  · exact getElem?_of_mem_zipIdx (List.mem_reverse.mp (List.mem_of_find?_eq_some hfound))
  · rw [lastLineWhere?, hfound]
    rfl

/-! ## Findings -/

/-- The kinds of issues that a quick fix mends on the line they are at. -/
def mendableCodes : List Code :=
  [.malformedHeading, .hashHeading, .unclosedFence, .unbalancedBold, .unbalancedItalic,
    .unclosedLink]

/-- What is wrong with a text where one of its lines has an issue. -/
inductive Finding (t : Text) (index : Nat) (line : Text) (issue : Issue) : Prop where
  | malformedHeading (code_eq : issue.code = .malformedHeading)
      (malformed : isMalformed line = true)
      (suggestion_eq : issue.suggestion = Heading.suggested? (Text.strip line))
  | hashHeading (code_eq : issue.code = .hashHeading) (hashed : Heading.isHashed line = true)
      (suggestion_eq : issue.suggestion = Heading.ofHashes? line)
  | unclosedFence (code_eq : issue.code = .unclosedFence) (fence : Fence.isFence line = true)
      (last : ∀ other ∈ (Text.lines t).drop (index + 1), Fence.isFence other = false)
      (odd : (Text.lines t).countP Fence.isFence % 2 = 1)
  | unbalancedBold (code_eq : issue.code = .unbalancedBold) (odd : boldCount t % 2 = 1)
  | unbalancedItalic (code_eq : issue.code = .unbalancedItalic) (odd : italicCount t % 2 = 1)
  | unclosedLink (code_eq : issue.code = .unclosedLink)
      (link : hasOpenLink line = true)

section Finding

variable {index : Nat} {line : Text}

theorem Finding.isMalformed (h : Finding t index line issue)
    (hcode : issue.code = .malformedHeading) : isMalformed line = true := by
  cases h with
  | malformedHeading _ malformed _ => exact malformed
  | _ => simp_all

theorem Finding.isHashed (h : Finding t index line issue) (hcode : issue.code = .hashHeading) :
    Heading.isHashed line = true ∧ issue.suggestion = Heading.ofHashes? line := by
  cases h with
  | hashHeading _ hashed suggestion_eq => exact ⟨hashed, suggestion_eq⟩
  | _ => simp_all

/-- Where a fence is said to be open, the number of fences is odd. -/
theorem Finding.odd_fences (h : Finding t index line issue) (hcode : issue.code = .unclosedFence) :
    (Text.lines t).countP Fence.isFence % 2 = 1 := by
  cases h with
  | unclosedFence _ _ _ odd => exact odd
  | _ => simp_all

/-- Where bold text is said to be unbalanced, the number of its marks is odd. -/
theorem Finding.odd_bold (h : Finding t index line issue) (hcode : issue.code = .unbalancedBold) :
    boldCount t % 2 = 1 := by
  cases h with
  | unbalancedBold _ odd => exact odd
  | _ => simp_all

/-- Where italic text is said to be unbalanced, an odd number of asterisks is left over. -/
theorem Finding.odd_italic (h : Finding t index line issue)
    (hcode : issue.code = .unbalancedItalic) : italicCount t % 2 = 1 := by
  cases h with
  | unbalancedItalic _ odd => exact odd
  | _ => simp_all

theorem Finding.hasOpenLink (h : Finding t index line issue)
    (hcode : issue.code = .unclosedLink) : hasOpenLink line = true := by
  cases h with
  | unclosedLink _ link => exact link
  | _ => simp_all

end Finding

theorem finding_of_mem_malformedHeadings (h : issue ∈ malformedHeadings (Text.lines t)) :
    ∃ index line, issue.IsAt (Text.lines t) index line ∧ Finding t index line issue := by
  obtain ⟨⟨line, index⟩, hmem, rfl⟩ := List.mem_map.mp h
  obtain ⟨hline, hmalformed⟩ := List.mem_filter.mp hmem
  exact ⟨index, line, ⟨getElem?_of_mem_zipIdx hline, rfl⟩, .malformedHeading rfl hmalformed rfl⟩

theorem finding_of_mem_hashHeadings (h : issue ∈ hashHeadings (Text.lines t)) :
    ∃ index line, issue.IsAt (Text.lines t) index line ∧ Finding t index line issue := by
  obtain ⟨⟨line, index⟩, hmem, rfl⟩ := List.mem_map.mp h
  obtain ⟨hline, hhashed⟩ := List.mem_filter.mp hmem
  exact ⟨index, line, ⟨getElem?_of_mem_zipIdx hline, rfl⟩, .hashHeading rfl hhashed rfl⟩

theorem finding_of_mem_unclosedFence (h : issue ∈ unclosedFence (Text.lines t)) :
    ∃ index line, issue.IsAt (Text.lines t) index line ∧ Finding t index line issue := by
  unfold unclosedFence at h
  dsimp only at h
  split at h
  · next line index hlast =>
    obtain ⟨hline, hfence, hafter⟩ := getLast?_filter_zipIdx hlast
    split_ifs at h with hodd
    · rw [countP_eq_length_filter_zipIdx] at hodd
      rw [List.mem_singleton.mp h]
      exact ⟨index, line, ⟨hline, rfl⟩, .unclosedFence rfl hfence hafter hodd⟩
    · exact absurd h List.not_mem_nil
  · exact absurd h List.not_mem_nil

/-- An odd number of markers in a text is an odd number on one of its lines, so one is found. -/
theorem finding_of_mem_unbalancedEmphasis (h : issue ∈ unbalancedEmphasis (Text.lines t) t) :
    ∃ index line, issue.IsAt (Text.lines t) index line ∧ Finding t index line issue := by
  rcases List.mem_append.mp h with h | h
  · split_ifs at h with hodd
    · have hsum : ((Text.lines t).map boldCount).sum % 2 = 1 := by
        rw [← boldCount_eq_sum_lines, hodd]
      obtain ⟨line, hline, hodd'⟩ := exists_odd_of_sum_odd hsum
      have hoccurs : Text.occurs boldMark line = true := occurs_boldMark (by omega)
      obtain ⟨index, found, hfound, hnumber⟩ := lastLineWhere?_eq_some ⟨line, hline, hoccurs⟩
      rw [List.mem_singleton.mp h, hnumber]
      exact ⟨index, found, ⟨hfound, rfl⟩, .unbalancedBold rfl hodd⟩
    · exact absurd h List.not_mem_nil
  · split_ifs at h with hodd
    · have hsum : ((Text.lines t).map fun line ↦ line.count '*').sum % 2 = 1 := by
        rw [← count_eq_sum_lines, ← italicCount_mod_two, hodd]
      obtain ⟨line, hline, hodd'⟩ := exists_odd_of_sum_odd hsum
      have hparity := italicCount_mod_two line
      have hpositive : ∃ line ∈ Text.lines t, decide (0 < italicCount line) = true :=
        ⟨line, hline, decide_eq_true (by omega)⟩
      obtain ⟨index, found, hfound, hnumber⟩ := lastLineWhere?_eq_some hpositive
      rw [List.mem_singleton.mp h, hnumber]
      exact ⟨index, found, ⟨hfound, rfl⟩, .unbalancedItalic rfl hodd⟩
    · exact absurd h List.not_mem_nil

theorem finding_of_mem_unclosedLinks (h : issue ∈ unclosedLinks (Text.lines t))
    (hcode : issue.code ∈ mendableCodes) :
    ∃ index line, issue.IsAt (Text.lines t) index line ∧ Finding t index line issue := by
  obtain ⟨⟨line, index⟩, hline, h⟩ := List.mem_flatMap.mp h
  rcases List.mem_append.mp h with h | h
  · split at h
    · next offset hoffset =>
      rw [List.mem_singleton.mp h]
      exact ⟨index, line, ⟨getElem?_of_mem_zipIdx hline, rfl⟩,
        .unclosedLink rfl (Option.isSome_iff_exists.mpr ⟨offset, hoffset⟩)⟩
    · exact absurd h List.not_mem_nil
  · split at h
    · have hbracket : issue.code = .unclosedBracket := by
        rw [List.mem_singleton.mp h]
        rfl
      rw [hbracket] at hcode
      exact absurd hcode (by decide)
    · exact absurd h List.not_mem_nil

theorem code_of_mem_mixedIndentation (h : issue ∈ mixedIndentation ls) :
    issue.code = .mixedIndentation := by
  obtain ⟨block, -, rfl⟩ := List.mem_map.mp h
  rfl

theorem category?_of_mem_mendableCodes {code : Code} (h : code ∈ mendableCodes) :
    code.category? = some .markup := by
  simp only [mendableCodes, List.mem_cons, List.not_mem_nil, or_false] at h
  rcases h with rfl | rfl | rfl | rfl | rfl | rfl
  all_goals rfl

/-- A reported issue that can be mended on a line is at a line of the text. -/
theorem finding_of_mem_issues (h : issue ∈ (Verdict.of (Readme.ofText t) []).issues)
    (hcode : issue.code ∈ mendableCodes) :
    ∃ index line, issue.IsAt (Text.lines t) index line ∧ Finding t index line issue := by
  rw [Verdict.issues_of_nil] at h
  rcases List.mem_append.mp (mem_issuesOf h (category?_of_mem_mendableCodes hcode)) with h | h
  · exact finding_of_mem_malformedHeadings h
  · change issue ∈ markup (Text.lines t) t at h
    simp only [markup, List.mem_append] at h
    rcases h with (((h | h) | h) | h) | h
    · exact finding_of_mem_unclosedFence h
    · exact finding_of_mem_hashHeadings h
    · exact finding_of_mem_unbalancedEmphasis h
    · exact finding_of_mem_unclosedLinks h hcode
    · rw [code_of_mem_mixedIndentation h] at hcode
      exact absurd hcode (by decide)

end Check

end PluginReadme
