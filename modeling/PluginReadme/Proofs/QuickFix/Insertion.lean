import PluginReadme.Proofs.QuickFix.Applied
import PluginReadme.Proofs.Readme.Fields
import PluginReadme.Proofs.Text.Cut

/-!
# Inserted fields

The fix for a missing field puts a sample line into the header. A labelled field goes after the last
field that is there, so no later line of the header can set it again; the name goes in front of
everything, where the first name counts. Either way the field is read from the new line and nothing
else gets lost (`Keeps`). The description goes to the end of the header, and it is read from there
only if the header names the plugin: the fix for the description works if and only if it does
(`missing_insertField_subset_iff`).
-/

namespace PluginReadme

def Header.Keeps (old new : Header) : Prop :=
  ∀ field, new.lacks field = true → old.lacks field = true

namespace Header

variable {ls before after : List Text} {line value sample : Text} {field other : Field}

/-- The name, the labelled fields and the description can be looked at one by one. More lines in the
header do not take the description away. -/
theorem keeps_of_region {new : List Text} (hregion : (regionOf ls).Sublist (regionOf new))
    (hname : nameIn new = [] → nameIn ls = [])
    (hfields : ∀ other : Field, other.label? ≠ none →
      ((regionOf new).foldl read {}).lacks other = true →
        ((regionOf ls).foldl read {}).lacks other = true) :
    Keeps (ofLines ls) (ofLines new) := by
  intro other hother
  cases hlabel : other.label? with
  | some label =>
    have hlabelled : other.label? ≠ none := by simp [hlabel]
    rw [lacks_ofLines_of_label? _ hlabelled] at hother ⊢
    exact hfields other hlabelled hother
  | none =>
    have hcases : other = .pluginName ∨ other = .shortDescription := by
      cases other <;> simp_all [Field.label?]
    rcases hcases with rfl | rfl
    · rw [lacks_pluginName_ofLines, List.isEmpty_iff] at hother ⊢
      exact hname hother
    · rw [lacks_shortDescription_ofLines, List.isEmpty_iff] at hother ⊢
      exact firstRun_afterName_of_sublist hregion hother

/-! ## Sample lines -/

/-- A sample is a line that can stand anywhere in a header. -/
structure IsInsertable (line : Text) : Prop where
  feed_not_mem : '\n' ∉ line
  last_ne_return : line.getLast? ≠ some '\r'
  strip_eq : Text.strip line = line
  not_section : ¬ Heading.IsSectionBetweenBlanks line

/-- Every sample can stand anywhere in a header. -/
theorem isInsertable_sample (h : field.sample? = some sample) : IsInsertable sample := by
  cases field
  case donateLink | requiresPhp | licenseUri => simp [Field.sample?] at h
  all_goals
    obtain rfl := Option.some.inj h
    exact ⟨by decide, by decide, by decide, by decide⟩

theorem isInsertable_nil : IsInsertable [] := ⟨by decide, by decide, by decide, by decide⟩

/-- The sample of a labelled field sets it to a value that counts. -/
theorem ofLine?_sample (h : field.sample? = some sample) (hlabel : field.label? ≠ none) :
    ∃ value, Field.ofLine? sample = some (field, value) ∧
      ∀ header : Header, (header.set field value).lacks field = false := by
  cases field
  case pluginName | shortDescription => exact absurd rfl hlabel
  case donateLink | requiresPhp | licenseUri => simp [Field.sample?] at h
  all_goals
    obtain rfl := Option.some.inj h
    exact ⟨_, rfl, fun _ ↦ rfl⟩

theorem nameOn?_sample (h : field.sample? = some sample) (hname : field ≠ .pluginName) :
    nameOn? sample = none := by
  cases field
  case pluginName => exact absurd rfl hname
  case donateLink | requiresPhp | licenseUri => simp [Field.sample?] at h
  all_goals
    obtain rfl := Option.some.inj h
    decide

/-! ## Lines that are put in -/

/-- A line that is put into a header stands between what was read before and after it. -/
theorem regionOf_insert (hbefore : ∀ line ∈ before, ¬ Heading.IsSectionBetweenBlanks line)
    (hline : IsInsertable line) :
    regionOf (before ++ line :: after) = before.map Text.strip ++ line :: regionOf after := by
  rw [regionOf_append hbefore, regionOf_cons, if_neg hline.not_section, hline.strip_eq]

/-- A name in front of everything is the name of the plugin. -/
theorem keeps_insert_pluginName (ls : List Text) (h : Field.pluginName.sample? = some sample) :
    Keeps (ofLines ls) (ofLines (sample :: ls)) ∧
      (ofLines (sample :: ls)).lacks .pluginName = false := by
  have hregion : regionOf (sample :: ls) = sample :: regionOf ls :=
    regionOf_insert (List.forall_mem_nil _) (isInsertable_sample h)
  obtain rfl := Option.some.inj h
  have hname : nameIn ("=== Plugin Name ===".toList :: ls) = "Plugin Name".toList := by
    rw [nameIn, List.findSome?_cons]
    rfl
  constructor
  · apply keeps_of_region
    · rw [hregion]
      exact List.sublist_cons_self _ _
    · intro hnil
      rw [hname] at hnil
      exact absurd hnil (by decide)
    · intro other _ hother
      rwa [hregion, List.foldl_cons] at hother
  · rw [lacks_pluginName_ofLines, hname]
    rfl

/-- A labelled line with no field after it sets its field. -/
theorem keeps_insert_of_label? (hlabel : field.label? ≠ none) (h : field.sample? = some sample)
    (hbefore : ∀ line ∈ before, ¬ Heading.IsSectionBetweenBlanks line)
    (hafter : ∀ line ∈ regionOf after, isHeaderField line = false) :
    Keeps (ofLines (before ++ after)) (ofLines (before ++ sample :: after)) ∧
      (ofLines (before ++ sample :: after)).lacks field = false := by
  obtain ⟨value, hvalue, hset⟩ := ofLine?_sample h hlabel
  let front : Header := (before.map Text.strip).foldl read {}
  have hunread : ∀ line ∈ regionOf after, Field.ofLine? line = none := by
    intro line hline
    have hfield := (Bool.or_eq_false_iff.mp (hafter line hline)).2
    rwa [Option.isSome_eq_false_iff, Option.isNone_iff_eq_none] at hfield
  have hold : regionOf (before ++ after) = before.map Text.strip ++ regionOf after :=
    regionOf_append hbefore
  have hnew : regionOf (before ++ sample :: after) =
      before.map Text.strip ++ sample :: regionOf after :=
    regionOf_insert hbefore (isInsertable_sample h)
  have hold_fields : (regionOf (before ++ after)).foldl read {} = front := by
    rw [hold, List.foldl_append, foldl_read_of_forall _ hunread]
  have hnew_fields : (regionOf (before ++ sample :: after)).foldl read {} =
      front.set field value := by
    calc
      (regionOf (before ++ sample :: after)).foldl read {} =
          (regionOf after).foldl read (((before.map Text.strip).foldl read {}).read sample) := by
        rw [hnew, List.foldl_append, List.foldl_cons]
      _ = ((before.map Text.strip).foldl read {}).read sample := foldl_read_of_forall _ hunread
      _ = front.set field value := by rw [read, hvalue]
  have hsample : nameOn? sample = none := nameOn?_sample h fun heq ↦ hlabel (by rw [heq]; rfl)
  constructor
  · apply keeps_of_region
    · rw [hold, hnew]
      exact (List.Sublist.refl _).append (List.sublist_cons_self _ _)
    · intro hname
      rwa [nameIn_append_cons hsample] at hname
    · intro other _ hother
      rw [hnew_fields] at hother
      rw [hold_fields]
      by_cases hfield : other = field
      · rw [hfield, hset] at hother
        exact absurd hother Bool.false_ne_true
      · rwa [lacks_set_of_ne _ hfield] at hother
  · rw [lacks_ofLines_of_label? _ hlabel, hnew_fields, hset]

/-- A plain line at the end belongs to a description if and only if some line before it names the
plugin. -/
theorem firstRun_afterName_append_ne_nil_iff (hline : isPlain line = true)
    (hunnamed : ∀ other ∈ line :: after, Heading.pluginName? other = none) :
    firstRun (afterName (before ++ line :: after)) ≠ [] ↔
      ∃ other ∈ before, (Heading.pluginName? other).isSome = true := by
  constructor
  · intro hread
    by_contra hnone
    have hall : ∀ other ∈ before ++ line :: after, Heading.pluginName? other = none := by
      intro other hother
      rcases List.mem_append.mp hother with hother | hother
      · have hname := not_and.mp (not_exists.mp hnone other) hother
        rwa [Bool.not_eq_true, Option.isSome_eq_false_iff, Option.isNone_iff_eq_none] at hname
      · exact hunnamed other hother
    rw [afterName_eq_nil hall, firstRun_nil] at hread
    exact hread rfl
  · rintro ⟨name, hname, hsome⟩ hnil
    have hmem : line ∈ afterName (before ++ line :: after) := by
      refine mem_afterName_iff.mpr ⟨name, hsome, ?_⟩
      exact (List.singleton_sublist.mpr hname).append
        (List.singleton_sublist.mpr List.mem_cons_self)
    rw [firstRun_eq_nil_iff.mp hnil line hmem] at hline
    exact absurd hline Bool.false_ne_true

/-- At the end of the header a description is read if and only if the header names the plugin. -/
theorem keeps_insert_shortDescription (h : Field.shortDescription.sample? = some sample)
    (hbefore : ∀ line ∈ before, ¬ Heading.IsSectionBetweenBlanks line)
    (hafter : regionOf after = []) :
    Keeps (ofLines (before ++ after)) (ofLines (before ++ sample :: [] :: after)) ∧
      ((ofLines (before ++ sample :: [] :: after)).lacks .shortDescription = false ↔
        ∃ line ∈ regionOf (before ++ after), (Heading.pluginName? line).isSome = true) := by
  have hold : regionOf (before ++ after) = before.map Text.strip := by
    rw [regionOf_append hbefore, hafter, List.append_nil]
  have hempty : regionOf ([] :: after) = [[]] := by
    have hinsert : regionOf ([] ++ [] :: after) = [] ++ [] :: regionOf after :=
      regionOf_insert (List.forall_mem_nil _) isInsertable_nil
    rwa [hafter] at hinsert
  have hnew : regionOf (before ++ sample :: [] :: after) =
      before.map Text.strip ++ [sample, []] := by
    rw [regionOf_insert hbefore (isInsertable_sample h), hempty]
  have hsample : nameOn? sample = none := nameOn?_sample h (by decide)
  have hplain : isPlain sample = true := by
    obtain rfl := Option.some.inj h
    decide
  have hadded : ∀ line ∈ [sample, []], Heading.pluginName? line = none := by
    obtain rfl := Option.some.inj h
    decide
  have hunread : ∀ line ∈ [sample, []], Field.ofLine? line = none := by
    obtain rfl := Option.some.inj h
    decide
  constructor
  · apply keeps_of_region
    · rw [hold, hnew]
      exact List.sublist_append_left _ _
    · intro hnil
      rwa [nameIn_append_cons hsample, nameIn_append_cons (by decide)] at hnil
    · intro other _ hother
      rwa [hnew, List.foldl_append, foldl_read_of_forall _ hunread, ← hold] at hother
  · rw [hold, lacks_shortDescription_ofLines, hnew, List.isEmpty_eq_false_iff]
    exact firstRun_afterName_append_ne_nil_iff hplain hadded

end Header

/-! ## Reported fields -/

namespace Readme

variable {t : Text} {issue : Issue} {subject : Subject}

/-- What the issues about missing fields of a text are about. -/
def missing (t : Text) : List Subject :=
  (Verdict.of (ofText t) []).issues.filterMap fun issue ↦
    if issue.code = .missingField then issue.subject else none

/-- An issue about a missing field comes from the check of the required ones. -/
theorem mem_missingFields_of_mem_issues (h : issue ∈ (Verdict.of (ofText t) []).issues)
    (hcode : issue.code = .missingField) : issue ∈ Check.missingFields (ofText t).header := by
  rw [Verdict.issues_of_nil] at h
  have hcategory : issue.code.category? = some .header := by
    rw [hcode]
    rfl
  rcases Check.code_of_mem_header (Check.mem_issuesOf h hcategory) with hmissing | hentry
  · exact hmissing
  · rw [hcode] at hentry
    exact absurd hentry (by decide)

/-- What is missing are the required fields that the header lacks. -/
theorem mem_missing_iff :
    subject ∈ missing t ↔
      ∃ field ∈ Field.required, (ofText t).header.lacks field = true ∧ subject = .field field := by
  constructor
  · intro h
    obtain ⟨issue, hissue, hsubject⟩ := List.mem_filterMap.mp h
    split_ifs at hsubject with hcode
    obtain ⟨field, hfield, rfl⟩ :=
      List.mem_map.mp (mem_missingFields_of_mem_issues hissue hcode)
    obtain ⟨hrequired, hlacks⟩ := List.mem_filter.mp hfield
    exact ⟨field, hrequired, hlacks, (Option.some.inj hsubject).symm⟩
  · rintro ⟨field, hrequired, hlacks, rfl⟩
    obtain ⟨issue, hissue, hcode, hsubject⟩ : ∃ issue ∈ Check.missingFields (ofText t).header,
        issue.code = .missingField ∧ issue.subject = some (.field field) :=
      ⟨_, List.mem_map_of_mem (List.mem_filter.mpr ⟨hrequired, hlacks⟩), rfl, rfl⟩
    refine List.mem_filterMap.mpr ⟨issue, ?_, by rw [if_pos hcode, hsubject]⟩
    rw [Verdict.issues_of_nil]
    simp only [Check.issues, Check.header, List.mem_append]
    tauto

/-- Supplying a field takes it from the missing ones and adds none. -/
theorem missing_subset_iff {field : Field} {fixed : Text} (hrequired : field ∈ Field.required)
    (hkeeps : (ofText t).header.Keeps (ofText fixed).header) :
    missing fixed ⊆ (missing t).filter (fun other ↦ other != .field field) ↔
      (ofText fixed).header.lacks field = false := by
  constructor
  · intro hsubset
    rw [← Bool.not_eq_true]
    intro hlacks
    have hmem := hsubset (mem_missing_iff.mpr ⟨field, hrequired, hlacks, rfl⟩)
    exact absurd (List.mem_filter.mp hmem).2 (by simp)
  · intro hsupplied subject hsubject
    obtain ⟨other, hother, hlacks, rfl⟩ := mem_missing_iff.mp hsubject
    have hne : other ≠ field := by
      rintro rfl
      rw [hsupplied] at hlacks
      exact absurd hlacks Bool.false_ne_true
    have hmissing : .field other ∈ missing t :=
      mem_missing_iff.mpr ⟨other, hother, hkeeps other hlacks, rfl⟩
    exact List.mem_filter.mpr ⟨hmissing, by simpa using hne⟩

end Readme

/-! ## The fix for a missing field -/

namespace QuickFix

variable {t sample : Text} {issue : Issue} {field : Field} {ls before added after : List Text}

theorem withField_pluginName (ls : List Text) (sample : Text) :
    withField ls (some (.field .pluginName)) sample = [] ++ ([sample] ++ ls) :=
  rfl

/-- The description goes between the region of the header and the rest. -/
theorem exists_withField_shortDescription (ls : List Text) (sample : Text) :
    ∃ before after, ls = before ++ after ∧
      withField ls (some (.field .shortDescription)) sample = before ++ ([sample, []] ++ after) ∧
      (∀ line ∈ before, ¬ Heading.IsSectionBetweenBlanks line) ∧ Header.regionOf after = [] := by
  obtain ⟨before, after, hls, hregion, hafter, hbefore⟩ := Header.exists_region ls
  have hlength : (Header.regionOf ls).length = before.length := by
    rw [← hregion, List.length_map]
  refine ⟨before, after, hls, ?_, hbefore, hafter⟩
  calc
    withField ls (some (.field .shortDescription)) sample =
        ls.take before.length ++ [sample, []] ++ ls.drop before.length := by
      rw [← hlength]
      rfl
    _ = before ++ ([sample, []] ++ after) := by
      rw [hls, List.take_left, List.drop_left, List.append_assoc]

/-- A labelled field goes after the last field of the region. -/
theorem exists_withField_of_label? (ls : List Text) (hlabel : field.label? ≠ none)
    (sample : Text) :
    ∃ before after, ls = before ++ after ∧
      withField ls (some (.field field)) sample = before ++ ([sample] ++ after) ∧
      (∀ line ∈ before, ¬ Heading.IsSectionBetweenBlanks line) ∧
      ∀ line ∈ Header.regionOf after, isHeaderField line = false := by
  obtain ⟨front, back, hls, hregion, hback, hfront⟩ := Header.exists_region ls
  -- Labelled fields are treated like a subject that is no field of headers.
  have hwith : withField ls (some (.field field)) sample = withField ls none sample := by
    cases field
    case pluginName | shortDescription => exact absurd rfl hlabel
    all_goals rfl
  rw [hwith]
  unfold withField
  dsimp only
  split
  · next line index hlast =>
    obtain ⟨hline, -, hafter⟩ := Check.getLast?_filter_zipIdx hlast
    have hindex : index + 1 ≤ front.length := by
      obtain ⟨hlt, -⟩ := List.getElem?_eq_some_iff.mp hline
      rwa [← hregion, List.length_map] at hlt
    refine ⟨front.take (index + 1), front.drop (index + 1) ++ back, ?_, ?_, ?_, ?_⟩
    · rw [← List.append_assoc, List.take_append_drop, hls]
    · rw [hls, List.take_append_of_le_length hindex, List.drop_append_of_le_length hindex,
        List.append_assoc]
    · exact fun line hline ↦ hfront line (List.mem_of_mem_take hline)
    · have hrest : Header.regionOf (front.drop (index + 1) ++ back) =
          (Header.regionOf ls).drop (index + 1) := by
        rw [Header.regionOf_append fun line hline ↦ hfront line (List.mem_of_mem_drop hline), hback,
          List.append_nil, List.map_drop, hregion]
      rw [hrest]
      exact hafter
  · refine ⟨front, back, hls, ?_, hfront, by rw [hback]; exact List.forall_mem_nil _⟩
    rw [← hregion, List.length_map, hls, List.take_left, List.drop_left, List.append_assoc]

/-- The lines that are put in are read from the fixed text. -/
theorem apply_insertField (hcode : issue.code = .missingField)
    (hsample : suggestion? issue = some sample) (hlines : Text.lines t = before ++ after)
    (hwith : withField (Text.lines t) issue.subject sample = before ++ (added ++ after))
    (hne : added ≠ []) (hadded : ∀ line ∈ added, Header.IsInsertable line) :
    ∃ fixed, apply t issue = some fixed ∧
      (Readme.ofText fixed).header = Header.ofLines (before ++ (added ++ after)) := by
  have hrun : run .insertField (Text.lines t) issue = some (before ++ (added ++ after)) := by
    unfold run
    rw [hsample, ← hwith]
    rfl
  refine ⟨_, by rw [apply_eq (by rw [hcode]; rfl), hrun]; rfl, ?_⟩
  obtain ⟨tidy, htidy, hfixed⟩ := lines_join_insert hlines hne fun line hline ↦
    ⟨(hadded line hline).feed_not_mem, (hadded line hline).last_ne_return⟩
  have hstrip : Text.strip ∘ tidy = Text.strip := by
    rcases htidy with rfl | rfl
    · rfl
    · exact funext Text.strip_dropFinalReturn
  change Header.ofLines (Text.lines _) = _
  apply Header.ofLines_congr
  rw [hfixed, List.map_append, List.map_map, hstrip, ← List.map_append]

/-- What holds of the header with the new lines holds of the header of the fixed text. -/
theorem exists_apply_of_keeps {supplied : Prop} (hcode : issue.code = .missingField)
    (hsample : suggestion? issue = some sample) (hlines : Text.lines t = before ++ after)
    (hwith : withField (Text.lines t) issue.subject sample = before ++ (added ++ after))
    (hne : added ≠ []) (hadded : ∀ line ∈ added, Header.IsInsertable line)
    (hkeeps : (Header.ofLines (before ++ after)).Keeps
      (Header.ofLines (before ++ (added ++ after))))
    (hsupplied : (Header.ofLines (before ++ (added ++ after))).lacks field = false ↔ supplied) :
    ∃ fixed, apply t issue = some fixed ∧
      (Readme.ofText t).header.Keeps (Readme.ofText fixed).header ∧
      ((Readme.ofText fixed).header.lacks field = false ↔ supplied) := by
  obtain ⟨fixed, happly, hheader⟩ := apply_insertField hcode hsample hlines hwith hne hadded
  have hold : (Readme.ofText t).header = Header.ofLines (before ++ after) := by
    rw [← hlines]
    rfl
  refine ⟨fixed, happly, ?_, ?_⟩
  · rw [hold, hheader]
    exact hkeeps
  · rw [hheader]
    exact hsupplied

theorem suggestion?_sample (h : issue.suggestion = field.sample?) :
    suggestion? issue = field.sample? := by
  rw [suggestion?, h]
  cases field <;> rfl

/-- The fix keeps every field, and supplies its own under one condition on the description. -/
theorem exists_apply_insertField (t : Text) (hcode : issue.code = .missingField)
    (hsubject : issue.subject = some (.field field))
    (hsuggestion : issue.suggestion = field.sample?) (hsample : field.sample? = some sample) :
    ∃ fixed, apply t issue = some fixed ∧
      (Readme.ofText t).header.Keeps (Readme.ofText fixed).header ∧
      ((Readme.ofText fixed).header.lacks field = false ↔
        (field = .shortDescription →
          ∃ line ∈ Header.regionOf (Text.lines t), (Heading.pluginName? line).isSome = true)) := by
  have hsuggested : suggestion? issue = some sample :=
    (suggestion?_sample hsuggestion).trans hsample
  have hinsertable : Header.IsInsertable sample := Header.isInsertable_sample hsample
  have hone : ∀ line ∈ [sample], Header.IsInsertable line :=
    List.forall_mem_singleton.mpr hinsertable
  by_cases hname : field = .pluginName
  · subst hname
    have hwith : withField (Text.lines t) issue.subject sample =
        [] ++ ([sample] ++ Text.lines t) := by
      rw [hsubject, withField_pluginName]
    obtain ⟨hkeeps, hsupplied⟩ := Header.keeps_insert_pluginName (Text.lines t) hsample
    exact exists_apply_of_keeps hcode hsuggested rfl hwith (List.cons_ne_nil sample []) hone hkeeps
      (iff_of_true hsupplied fun heq ↦ absurd heq (by decide))
  by_cases hdescription : field = .shortDescription
  · subst hdescription
    obtain ⟨before, after, hlines, hwith, hbefore, hafter⟩ :=
      exists_withField_shortDescription (Text.lines t) sample
    have htwo : ∀ line ∈ [sample, []], Header.IsInsertable line :=
      List.forall_mem_cons.mpr
        ⟨hinsertable, List.forall_mem_singleton.mpr Header.isInsertable_nil⟩
    obtain ⟨hkeeps, hsupplied⟩ := Header.keeps_insert_shortDescription hsample hbefore hafter
    rw [← hsubject] at hwith
    rw [← hlines] at hsupplied
    rw [forall_prop_of_true rfl]
    exact exists_apply_of_keeps hcode hsuggested hlines hwith (List.cons_ne_nil sample [[]]) htwo
      hkeeps hsupplied
  · have hlabel : field.label? ≠ none := by
      cases field <;> first | exact absurd rfl hname | exact absurd rfl hdescription | decide
    obtain ⟨before, after, hlines, hwith, hbefore, hafter⟩ :=
      exists_withField_of_label? (Text.lines t) hlabel sample
    obtain ⟨hkeeps, hsupplied⟩ := Header.keeps_insert_of_label? hlabel hsample hbefore hafter
    rw [← hsubject] at hwith
    exact exists_apply_of_keeps hcode hsuggested hlines hwith (List.cons_ne_nil sample []) hone
      hkeeps (iff_of_true hsupplied fun heq ↦ absurd heq hdescription)

/-- The fix for a missing field always applies. The fixed text lacks only what the text lacked, and
not the field, except that a description is supplied only to a header that names the plugin. -/
theorem missing_insertField_subset_iff (t : Text) (issue : Issue)
    (h : issue ∈ (Verdict.of (Readme.ofText t) []).issues) (hcode : issue.code = .missingField) :
    ∃ fixed, apply t issue = some fixed ∧
      (Readme.missing fixed ⊆
          (Readme.missing t).filter (fun other ↦ some other != issue.subject) ↔
        (issue.subject = some (.field .shortDescription) →
          ∃ line ∈ Header.regionOf (Text.lines t), (Heading.pluginName? line).isSome = true)) := by
  obtain ⟨field, hfield, rfl⟩ :=
    List.mem_map.mp (Readme.mem_missingFields_of_mem_issues h hcode)
  have hrequired : field ∈ Field.required := (List.mem_filter.mp hfield).1
  have hall : ∀ field ∈ Field.required, field.sample?.isSome = true := by decide
  obtain ⟨sample, hsample⟩ := Option.isSome_iff_exists.mp (hall field hrequired)
  obtain ⟨fixed, happly, hkeeps, hsupplied⟩ := exists_apply_insertField t hcode rfl rfl hsample
  refine ⟨fixed, happly, ?_⟩
  have hsubset := Readme.missing_subset_iff hrequired hkeeps
  dsimp only
  simp only [Option.some.injEq, Subject.field.injEq]
  rw [← hsupplied, ← hsubset]
  rfl

/-- The contributors go after the license and before the description, which is found again. -/
theorem missing_insertField_subset_iff_contributors :
    ∃ issue ∈ (Verdict.of (Readme.ofText "=== A ===\nLicense: b\nc".toList) []).issues,
      issue.subject = some (.field .contributors) ∧
        apply "=== A ===\nLicense: b\nc".toList issue =
          some "=== A ===\nLicense: b\nContributors: your-wordpress-username\nc".toList ∧
        Readme.missing
            "=== A ===\nLicense: b\nContributors: your-wordpress-username\nc".toList ⊆
          (Readme.missing "=== A ===\nLicense: b\nc".toList).filter fun other ↦
            some other != issue.subject := by
  let issue : Issue :=
    { severity := .error
      code := .missingField
      message := "Contributors is required"
      subject := some (.field .contributors)
      suggestion := some "Contributors: your-wordpress-username".toList
      hint := some "Add the Contributors field to your readme header".toList }
  have hmem : issue ∈
      (Verdict.of (Readme.ofText "=== A ===\nLicense: b\nc".toList) []).issues := by
    decide +kernel
  have happly : apply "=== A ===\nLicense: b\nc".toList issue =
      some "=== A ===\nLicense: b\nContributors: your-wordpress-username\nc".toList := by
    decide +kernel
  obtain ⟨fixed, hfixed, hsubset⟩ := missing_insertField_subset_iff _ issue hmem rfl
  obtain rfl := Option.some.inj (hfixed.symm.trans happly)
  exact ⟨issue, hmem, rfl, happly, hsubset.mpr fun heq ↦ absurd heq (by decide)⟩

/-- Without a name in the header, the description that is put in is not read. -/
theorem not_missing_insertField_subset :
    ∃ issue ∈ (Verdict.of (Readme.ofText "Tags: a".toList) []).issues,
      issue.code = .missingField ∧ issue.subject = some (.field .shortDescription) ∧
        apply "Tags: a".toList issue =
          some "Tags: a\nA short description of what the plugin does.\n".toList ∧
        .field .shortDescription ∈
          Readme.missing "Tags: a\nA short description of what the plugin does.\n".toList := by
  let issue : Issue :=
    { severity := .error
      code := .missingField
      message := "Short Description is required"
      subject := some (.field .shortDescription)
      suggestion := some "A short description of what the plugin does.".toList
      hint := some "Add the Short Description field to your readme header".toList }
  exact ⟨issue, by decide +kernel, rfl, rfl, by decide +kernel, by decide +kernel⟩

end QuickFix

end PluginReadme
