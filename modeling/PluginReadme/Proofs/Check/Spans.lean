import PluginReadme.Proofs.Check.Places
import PluginReadme.Proofs.Readme.Located

/-!
# Values and labels

The line of a labelled field begins with its label (`IsLabelled`), and a warning about a value marks
the first place where the value stands on that line. The search goes over the label too. So the mark
is behind the colon of the label exactly if the value does not stand at a place inside the label or
at its colon (`StartsWithin`). Values have no blanks at their ends, and therefore the blanks in
front of the label do not matter.
-/

namespace PluginReadme

variable {ls : List Text} {raw blanks name rest before value after : Text} {field : Field}
  {issue : Issue} {header : Header}

/-! ## Labels -/

namespace Field

/-- The line begins with the label of the field: blanks, the label in letters of either case up to
the first colon of the line, and the rest. -/
structure IsLabelled (field : Field) (line blanks name rest : Text) : Prop where
  line_eq : line = blanks ++ name ++ ':' :: rest
  blank : ∀ c ∈ blanks, isBlank c = true
  colon_free : ':' ∉ blanks ++ name
  label_eq : field.label? = some (name.map foldCase ++ [':'])

/-- A label ends with its only colon. -/
theorem exists_of_label? {label : Text} (h : field.label? = some label) :
    ∃ letters, label = letters ++ [':'] ∧ ':' ∉ letters := by
  have hall : ∀ field ∈ all, ∀ label ∈ field.label?,
      label = label.dropLast ++ [':'] ∧ ':' ∉ label.dropLast := by decide
  exact ⟨label.dropLast, hall field (mem_all field) label h⟩

theorem exists_isLabelled (h : field.onLine? (Text.strip raw) = some value) :
    ∃ blanks name rest, field.IsLabelled raw blanks name rest := by
  obtain ⟨label, front, tail, hlabel, hline, hfront, -⟩ := onLine?_eq_some_iff.mp h
  obtain ⟨letters, rfl, hfree⟩ := exists_of_label? hlabel
  obtain ⟨name, last, rfl, rfl, hlast⟩ := List.map_eq_append_iff.mp hfront
  obtain ⟨c, rfl, hc⟩ := List.map_eq_singleton_iff.mp hlast
  obtain rfl := foldCase_eq_colon_iff.mp hc
  obtain ⟨blanks, back, hraw, hblanks, -⟩ := Text.exists_trim isBlank raw
  refine ⟨blanks, name, tail ++ back, ?_, hblanks, ?_, hlabel⟩
  · calc
      raw = blanks ++ Text.strip raw ++ back := hraw
      _ = blanks ++ name ++ ':' :: (tail ++ back) := by
        rw [hline]
        simp
  · rw [List.mem_append, not_or]
    refine ⟨fun hmem ↦ absurd (hblanks ':' hmem) (by decide), fun hmem ↦ hfree ?_⟩
    exact List.mem_map.mpr ⟨':', hmem, foldCase_eq_colon_iff.mpr rfl⟩

end Field

/-! ## First places -/

/-- The text stands at a place inside the label, and may go on behind it. -/
def StartsWithin (value label rest : Text) : Prop :=
  ∃ start tail, label = start ++ tail ∧ tail ≠ [] ∧ value <+: tail ++ rest

/-- The first place of a text that does not start in front of the label is behind the label exactly
if the text does not start within it. -/
theorem first_place_iff {front label : Text}
    (hsplit : before ++ value ++ after = front ++ label ++ rest)
    (hfirst : Text.indexOf? value (before ++ value ++ after) = some before.length)
    (hfront : front.length ≤ before.length) :
    (front ++ label).length ≤ before.length ↔ ¬ StartsWithin value label rest := by
  constructor
  · rintro hbehind ⟨start, tail, rfl, htail, more, hmore⟩
    have hother : before ++ value ++ after = front ++ start ++ value ++ more := by
      rw [hsplit, List.append_assoc _ value, hmore]
      simp
    rw [hother] at hfirst
    have hle := Text.le_length_of_indexOf? hfirst
    have hpos := List.length_pos_of_ne_nil htail
    simp only [List.length_append] at hbehind hle
    omega
  · intro hnot
    by_contra hinside
    rw [not_le, List.length_append] at hinside
    simp only [List.append_assoc] at hsplit
    obtain ⟨start, rfl⟩ : front <+: before :=
      List.prefix_of_prefix_length_le ⟨_, hsplit.symm⟩ ⟨_, rfl⟩ hfront
    rw [List.length_append] at hinside
    rw [List.append_assoc] at hsplit
    have hrest := List.append_cancel_left hsplit
    obtain ⟨tail, rfl⟩ : start <+: label :=
      List.prefix_of_prefix_length_le ⟨_, hrest⟩ ⟨_, rfl⟩ (by omega)
    rw [List.append_assoc] at hrest
    refine hnot ⟨start, tail, rfl, ?_, after, List.append_cancel_left hrest⟩
    rintro rfl
    rw [List.append_nil] at hinside
    omega

/-- A text without blanks at its ends does not start in a run of blanks. -/
theorem length_le_of_isTrimmed {front : Text} (hvalue : Text.IsTrimmed isBlank value)
    (hne : value ≠ []) (hblank : ∀ c ∈ front, isBlank c = true)
    (hsplit : before ++ value ++ after = front ++ rest) : front.length ≤ before.length := by
  by_contra hshort
  rw [List.append_assoc] at hsplit
  obtain ⟨more, rfl⟩ : before <+: front :=
    List.prefix_of_prefix_length_le ⟨_, hsplit⟩ ⟨_, rfl⟩ (by omega)
  obtain ⟨c, tail, rfl⟩ := List.exists_cons_of_ne_nil hne
  rw [List.append_assoc] at hsplit
  have hrest := List.append_cancel_left hsplit
  cases more with
  | nil => simp at hshort
  | cons d more =>
    obtain rfl : c = d := (List.cons.inj hrest).1
    have hc : isBlank c = true := hblank c (by simp)
    rw [hvalue.head c rfl] at hc
    exact Bool.noConfusion hc

/-! ## Warnings about values -/

namespace Check

def valueCodes : List Code := [.invalidContributor, .longTag, .invalidVersion, .invalidUrl]

/-- An issue that marks a value is a warning about the value of a field. -/
theorem exists_valueWarning {readme : Readme} (h : issue ∈ issues readme)
    (hcode : issue.code ∈ valueCodes) : ∃ field value,
      IsValueWarning readme.header (Text.lines readme.source) issue field value := by
  have hcategory : ∀ code ∈ valueCodes, code.category? = some .header := by decide
  have hmem := mem_issuesOf h (hcategory issue.code hcode)
  have hno {codes : List Code} (hown : issue.code ∈ codes)
      (hdisjoint : ∀ code ∈ codes, code ∉ valueCodes) : False := hdisjoint issue.code hown hcode
  simp only [issuesOf, Check.header, List.mem_append] at hmem
  rcases hmem with ((((((h | h) | h) | h) | h) | h) | h) | h
  · exact (hno (code_of_mem_missingFields h) (by decide)).elim
  · exact (hno (code_of_mem_nameLength h) (by decide)).elim
  · exact exists_valueWarning_of_mem_contributors h
  · refine exists_valueWarning_of_mem_tags h fun hmany ↦ ?_
    rw [hmany] at hcode
    exact absurd hcode (by decide)
  · exact exists_valueWarning_of_mem_versions h
  · exact (hno (code_of_mem_shortDescription h) (by decide)).elim
  · exact (hno (code_of_mem_license h) (by decide)).elim
  · exact exists_valueWarning_of_mem_addresses h

/-- What is marked stands on the line with the label of its field. -/
theorem IsValueWarning.isLabelled (h : IsValueWarning header ls issue field value)
    (hmarks : issue.Marks ls before value after) :
    ∃ blanks name rest, field.IsLabelled (before ++ value ++ after) blanks name rest := by
  obtain ⟨hline, -⟩ := h.place
  obtain ⟨index, hat⟩ := hmarks.at_line
  obtain ⟨n, hplace, hn⟩ := Option.map_eq_some_iff.mp (hline.symm.trans hat.number_eq)
  obtain ⟨raw, read, hraw, hread⟩ := Header.exists_onLine?_of_place? h.labelled hplace
  obtain rfl : n - 1 = index := by omega
  obtain rfl := Option.some.inj (hraw.symm.trans hat.line_eq)
  exact Field.exists_isLabelled hread

/-- A warning about a value with a column marks the value on the line that begins with the label of
its field, and it marks it behind the colon of the label exactly if the value does not stand at a
place inside the label or at its colon. -/
theorem span_after_colon_iff (t : Text) {issue : Issue}
    (h : issue ∈ (Verdict.of (Readme.ofText t) []).issues) (hcode : issue.code ∈ valueCodes)
    (hcolumn : issue.column ≠ none) :
    ∃ field blanks name rest before value after,
      issue.subject = some (.field field) ∧
      issue.Marks (Text.lines t) before value after ∧
      Shows (Readme.ofText t).header issue before value after ∧
      field.IsLabelled (before ++ value ++ after) blanks name rest ∧
      ((∀ column ∈ issue.column, ((blanks ++ name).length : Int) + 1 < column) ↔
        ¬ StartsWithin value (name ++ [':']) rest) := by
  rw [Verdict.issues_of_nil] at h
  obtain ⟨field, value, hwarning⟩ := exists_valueWarning h hcode
  obtain ⟨-, ⟨hnone, -⟩ | ⟨before, after, hmarks, hfirst⟩⟩ := hwarning.place
  · exact absurd hnone hcolumn
  obtain ⟨blanks, name, rest, hlabelled⟩ := hwarning.isLabelled hmarks
  obtain ⟨code, message, hint, hmade⟩ := hwarning.made
  have hsubject : issue.subject = some (.field field) := by
    rw [hmade]
    exact (about_fieldWarning _ code field message value).2.1
  refine ⟨field, blanks, name, rest, before, value, after, hsubject, hmarks,
    hwarning.shows before after, hlabelled, ?_⟩
  have hsplit : before ++ value ++ after = blanks ++ (name ++ [':']) ++ rest := by
    rw [hlabelled.line_eq]
    simp
  have htrimmed := Header.isTrimmed_of_mem_entry hwarning.labelled hwarning.mem
  have hfront := length_le_of_isTrimmed htrimmed hmarks.ne_nil hlabelled.blank
    (hsplit.trans (List.append_assoc blanks _ rest))
  rw [← first_place_iff hsplit hfirst hfront, hmarks.column_eq]
  simp only [Option.mem_some, forall_eq', List.length_append, List.length_singleton]
  omega

theorem span_after_colon_iff_latest :
    ∃ issue ∈ (Verdict.of (Readme.ofText "Stable tag: latest".toList) []).issues,
      issue.code ∈ valueCodes ∧ issue.column ≠ none ∧
      ∃ field blanks name rest before value after,
        issue.subject = some (.field field) ∧
        issue.Marks ["Stable tag: latest".toList] before value after ∧
        Shows (Readme.ofText "Stable tag: latest".toList).header issue before value after ∧
        field.IsLabelled (before ++ value ++ after) blanks name rest ∧
        ((∀ column ∈ issue.column, ((blanks ++ name).length : Int) + 1 < column) ↔
          ¬ StartsWithin value (name ++ [':']) rest) := by
  let issue : Issue :=
    { Issue.warning .invalidVersion
        "Stable tag should be in format X.Y or X.Y.Z (got \"latest\")".toList with
      subject := some (.field .stableTag)
      line := some 1
      column := some 13
      endColumn := some 18
      hint := some "Use semantic versioning format".toList }
  have hmem : issue ∈ (Verdict.of (Readme.ofText "Stable tag: latest".toList) []).issues := by
    decide +kernel
  exact ⟨issue, hmem, by decide, by decide,
    span_after_colon_iff "Stable tag: latest".toList hmem (by decide) (by decide)⟩

/-- The contributor is marked at the end of the word in front of the colon. -/
theorem not_span_after_colon :
    ∃ issue ∈ (Verdict.of (Readme.ofText "Contributors: s".toList) []).issues,
      issue.code = .invalidContributor ∧ issue.subject = some (.field .contributors) ∧
      issue.line = some 1 ∧ issue.column = some 12 ∧ issue.endColumn = some 12 ∧
      Field.contributors.IsLabelled "Contributors: s" [] "Contributors" " s" ∧
      ¬ ∀ column ∈ issue.column, (("Contributors".toList.length : Nat) : Int) + 1 < column := by
  let issue : Issue :=
    { Issue.warning .invalidContributor
        "Contributor \"s\" doesn't appear to be a valid WordPress.org username".toList with
      subject := some (.field .contributors)
      line := some 1
      column := some 12
      endColumn := some 12
      hint := some "Use only WordPress.org usernames for proper profile linking".toList }
  have hmem : issue ∈ (Verdict.of (Readme.ofText "Contributors: s".toList) []).issues := by
    decide +kernel
  have hlabelled : Field.contributors.IsLabelled "Contributors: s" [] "Contributors" " s" :=
    ⟨by decide, List.forall_mem_nil _, by decide, by decide⟩
  refine ⟨issue, hmem, rfl, rfl, rfl, rfl, rfl, hlabelled, fun hafter ↦ ?_⟩
  exact absurd (hafter 12 rfl) (by decide)

end Check

end PluginReadme
