import PluginReadme.Proofs.Readme.Region
import PluginReadme.Proofs.Text.Class
import PluginReadme.Proofs.Text.Cut

/-!
# Fields that are set

A line sets at most one field (`ofLine?_eq_some_iff`), since no label is the beginning of another
one, and the value after the label is never empty (`value_ne_nil`). What a header says of a field
(`entry`) is changed only where the field itself is set (`entry_set_of_ne`). Two fields pass over
some values (`passesOver`): then the header stays as it was, and in every other case it does not
matter what the header said of the field before (`entry_set_eq`). No value that is read has blanks
at its ends (`isTrimmed_of_mem_entry`).
-/

namespace PluginReadme

variable {ls : List Text} {line value rest : Text} {field other : Field}

/-! ## Labels -/

namespace Field

/-- A line gives a value to a field exactly if it begins with the label of the field and the value
is behind it. -/
theorem onLine?_eq_some_iff : field.onLine? line = some value ↔
    ∃ label front rest, field.label? = some label ∧ line = front ++ rest ∧
      front.map foldCase = label ∧ value? rest = some value := by
  simp only [onLine?, Option.bind_eq_bind, Option.bind_eq_some_iff, Text.afterFolded?_eq_some_iff]
  constructor
  · rintro ⟨label, hlabel, rest, ⟨front, rfl, hfront⟩, hvalue⟩
    exact ⟨label, front, rest, hlabel, rfl, hfront, hvalue⟩
  · rintro ⟨label, front, rest, hlabel, rfl, hfront, hvalue⟩
    exact ⟨label, hlabel, rest, ⟨front, rfl, hfront⟩, hvalue⟩

theorem mem_all (field : Field) : field ∈ all := by
  cases field <;> decide

/-- No label is the beginning of another one. -/
theorem eq_of_label?_isPrefix {label otherLabel : Text} (h : field.label? = some label)
    (hother : other.label? = some otherLabel) (hstart : label <+: otherLabel) : field = other := by
  have hall : ∀ field ∈ all, ∀ other ∈ all, ∀ label ∈ field.label?, ∀ otherLabel ∈ other.label?,
      label <+: otherLabel → field = other := by decide
  exact hall field (mem_all field) other (mem_all other) label h otherLabel hother hstart

/-- A line sets one field. -/
theorem eq_of_onLine? {otherValue : Text} (h : field.onLine? line = some value)
    (hother : other.onLine? line = some otherValue) : field = other := by
  obtain ⟨label, front, rest, hlabel, rfl, hfront, -⟩ := onLine?_eq_some_iff.mp h
  obtain ⟨otherLabel, start, tail, hotherLabel, hsplit, hstart, -⟩ := onLine?_eq_some_iff.mp hother
  rcases List.prefix_or_prefix_of_prefix ⟨rest, rfl⟩ ⟨tail, hsplit.symm⟩ with hprefix | hprefix
  · exact eq_of_label?_isPrefix hlabel hotherLabel (hfront ▸ hstart ▸ hprefix.map foldCase)
  · exact (eq_of_label?_isPrefix hotherLabel hlabel (hfront ▸ hstart ▸ hprefix.map foldCase)).symm

/-- A line sets the one field whose label it begins with. -/
theorem ofLine?_eq_some_iff :
    ofLine? line = some (field, value) ↔ field.onLine? line = some value := by
  refine ⟨Header.onLine?_of_ofLine?_eq_some, fun h ↦ ?_⟩
  have hsome : (ofLine? line).isSome = true := by
    rw [ofLine?, List.findSome?_isSome_iff]
    exact ⟨field, mem_all field, by rw [h]; rfl⟩
  obtain ⟨⟨found, read⟩, hfound⟩ := Option.isSome_iff_exists.mp hsome
  have hread := Header.onLine?_of_ofLine?_eq_some hfound
  obtain rfl := eq_of_onLine? hread h
  rw [hfound, Option.some.inj (hread.symm.trans h)]

/-- On a trimmed line there is something behind the label. -/
theorem value_ne_nil (htrimmed : Text.IsTrimmed isBlank line)
    (h : field.onLine? line = some value) : value ≠ [] := by
  obtain ⟨-, front, rest, -, rfl, -, hvalue⟩ := onLine?_eq_some_iff.mp h
  unfold value? at hvalue
  dsimp only at hvalue
  split_ifs at hvalue with hguard
  obtain ⟨hne, -⟩ := Bool.or_eq_false_iff.mp (Bool.eq_false_iff.mpr hguard)
  have hsplit := Text.dropEndWhile_append_takeEndWhile (· != '\n') (Text.dropFinalFeed rest)
  generalize Text.takeEndWhile (· != '\n') (Text.dropFinalFeed rest) = body at hvalue hne hsplit
  have hbody : body ≠ [] := by simpa using hne
  have hlast : ∀ c ∈ rest.getLast?, isBlank c = false := by
    intro c hc
    refine htrimmed.last c ?_
    rw [List.getLast?_append, hc, Option.some_or]
    exact Option.mem_some_self c
  have hfeed : Text.dropFinalFeed rest = rest := by
    refine if_neg fun hlastFeed ↦ ?_
    exact absurd (hlast '\n' hlastFeed) (by decide)
  rw [hfeed] at hsplit
  rw [← Option.some.inj hvalue, Text.strip, Ne, Text.trim_eq_nil_iff]
  intro hblank
  have hend : rest.getLast? = some (body.getLast hbody) := by
    rw [← hsplit, List.getLast?_append_of_ne_nil _ hbody, List.getLast?_eq_some_getLast hbody]
  have hkept := hlast _ hend
  rw [hblank _ (List.getLast_mem hbody)] at hkept
  exact absurd hkept (by decide)

theorem isTrimmed_of_value? (h : value? rest = some value) : Text.IsTrimmed isBlank value := by
  unfold value? at h
  dsimp only at h
  split_ifs at h
  rw [← Option.some.inj h]
  exact Text.isTrimmed_strip _

end Field

namespace Header

/-! ## Values that are set -/

def entry (header : Header) : Field → List Text
  | .pluginName => [header.pluginName]
  | .contributors => header.contributors
  | .donateLink => [header.donateLink]
  | .tags => header.tags
  | .requiresAtLeast => [header.requiresAtLeast]
  | .testedUpTo => [header.testedUpTo]
  | .stableTag => [header.stableTag]
  | .requiresPhp => [header.requiresPhp]
  | .license => [header.license]
  | .licenseUri => [header.licenseUri]
  | .shortDescription => [header.shortDescription]

theorem lacks_congr {old new : Header} (h : old.entry field = new.entry field) :
    old.lacks field = new.lacks field := by
  cases field
  case contributors | tags => exact congrArg List.isEmpty h
  all_goals exact congrArg List.isEmpty (List.singleton_inj.mp h)

/-- The value does not count, and the field stays as it was. -/
def passesOver : Field → Text → Bool
  | .contributors, value => value.isEmpty || Text.startsWith "(" value
  | .tags, value => value.isEmpty
  | _, _ => false

theorem set_of_passesOver (header : Header) (h : passesOver field value = true) :
    header.set field value = header := by
  cases field
  case contributors | tags => exact if_pos h
  all_goals exact absurd h Bool.false_ne_true

theorem set_contributors (header : Header) (h : passesOver .contributors value = false) :
    header.set .contributors value = { header with contributors := itemsOf value } :=
  if_neg (Bool.eq_false_iff.mp h)

theorem set_tags (header : Header) (h : passesOver .tags value = false) :
    header.set .tags value = { header with tags := itemsOf value } :=
  if_neg (Bool.eq_false_iff.mp h)

/-- A value that counts replaces what was there. -/
theorem entry_set_eq (old new : Header) (h : passesOver field value = false) :
    (old.set field value).entry field = (new.set field value).entry field := by
  cases field
  case contributors => rw [set_contributors old h, set_contributors new h]; rfl
  case tags => rw [set_tags old h, set_tags new h]; rfl
  all_goals rfl

/-- Setting a field leaves every other field as it is. -/
theorem entry_set_of_ne (header : Header) (h : other ≠ field) :
    (header.set field value).entry other = header.entry other := by
  cases hpass : passesOver field value with
  | true => rw [set_of_passesOver header hpass]
  | false =>
    cases field
    case contributors =>
      rw [set_contributors header hpass]
      cases other <;> first | rfl | exact absurd rfl h
    case tags =>
      rw [set_tags header hpass]
      cases other <;> first | rfl | exact absurd rfl h
    all_goals cases other <;> first | rfl | exact absurd rfl h

theorem lacks_set_of_ne (header : Header) (h : other ≠ field) :
    (header.set field value).lacks other = header.lacks other :=
  lacks_congr (entry_set_of_ne header h)

/-! ## Lines that are read -/

theorem entry_read_of_onLine?_eq_none (header : Header) (h : field.onLine? line = none) :
    (header.read line).entry field = header.entry field := by
  unfold read
  split
  · next other value hother =>
    refine entry_set_of_ne header ?_
    rintro rfl
    rw [Field.ofLine?_eq_some_iff, h] at hother
    exact absurd hother (by simp)
  · rfl

/-- Lines without a field leave what the header says of it. -/
theorem entry_foldl_read (header : Header) (h : ∀ line ∈ ls, field.onLine? line = none) :
    (ls.foldl read header).entry field = header.entry field := by
  induction ls generalizing header with
  | nil => rfl
  | cons line ls ih =>
    obtain ⟨hline, hls⟩ := List.forall_mem_cons.mp h
    rw [List.foldl_cons, ih _ hls, entry_read_of_onLine?_eq_none header hline]

theorem read_of_onLine? (header : Header) (h : field.onLine? line = some value) :
    header.read line = header.set field value := by
  rw [read, Field.ofLine?_eq_some_iff.mpr h]

theorem foldl_read_of_forall (header : Header) (h : ∀ line ∈ ls, Field.ofLine? line = none) :
    ls.foldl read header = header := by
  induction ls with
  | nil => rfl
  | cons line ls ih =>
    obtain ⟨hline, hls⟩ := List.forall_mem_cons.mp h
    have hread : header.read line = header := by
      rw [read, hline]
    rw [List.foldl_cons, hread, ih hls]

/-! ## Fields of a readme -/

/-- What the header says of a labelled field is what the lines before the first section say of it.
-/
theorem entry_ofLines_of_label? (ls : List Text) (h : field.label? ≠ none) :
    (ofLines ls).entry field = ((regionOf ls).foldl read {}).entry field := by
  rw [ofLines_eq]
  cases field
  case pluginName | shortDescription => exact absurd rfl h
  all_goals rfl

theorem lacks_ofLines_of_label? (ls : List Text) (h : field.label? ≠ none) :
    (ofLines ls).lacks field = ((regionOf ls).foldl read {}).lacks field :=
  lacks_congr (entry_ofLines_of_label? ls h)

theorem isTrimmed_of_mem_itemsOf {item : Text} (h : item ∈ itemsOf value) :
    Text.IsTrimmed isBlank item := by
  obtain ⟨piece, -, rfl⟩ := List.mem_map.mp (List.mem_filter.mp h).1
  exact Text.isTrimmed_strip piece

/-- What is new in a field is the value or one of its items. -/
theorem mem_entry_set {item : Text} {header : Header}
    (h : item ∈ (header.set field value).entry field) :
    item ∈ header.entry field ∨ item = value ∨ item ∈ itemsOf value := by
  cases hpass : passesOver field value with
  | true =>
    rw [set_of_passesOver header hpass] at h
    exact .inl h
  | false =>
    cases field
    case contributors =>
      rw [set_contributors header hpass] at h
      exact .inr (.inr h)
    case tags =>
      rw [set_tags header hpass] at h
      exact .inr (.inr h)
    all_goals exact .inr (.inl (List.mem_singleton.mp h))

/-- No value of a labelled field has blanks at either end. -/
theorem isTrimmed_of_mem_entry {item : Text} (hlabel : field.label? ≠ none)
    (h : item ∈ (ofLines ls).entry field) : Text.IsTrimmed isBlank item := by
  have hread : ∀ item ∈ ((regionOf ls).foldl read {}).entry field,
      Text.IsTrimmed isBlank item := by
    apply foldl_read_induction (motive := fun header ↦
      ∀ item ∈ header.entry field, Text.IsTrimmed isBlank item)
    · intro header other line value hline hheader item hitem
      by_cases hother : field = other
      · subst hother
        obtain ⟨-, -, rest, -, -, -, hvalue⟩ := Field.onLine?_eq_some_iff.mp hline
        rcases mem_entry_set hitem with hold | rfl | hitems
        · exact hheader item hold
        · exact Field.isTrimmed_of_value? hvalue
        · exact isTrimmed_of_mem_itemsOf hitems
      · rw [entry_set_of_ne header hother] at hitem
        exact hheader item hitem
    · have hempty : ∀ item ∈ ({} : Header).entry field, item = [] := by
        cases field <;> decide
      intro item hitem
      rw [hempty item hitem]
      exact ⟨by simp, by simp⟩
  rw [entry_ofLines_of_label? ls hlabel] at h
  exact hread item h

theorem lacks_pluginName_ofLines (ls : List Text) :
    (ofLines ls).lacks .pluginName = (nameIn ls).isEmpty := by
  rw [ofLines_eq]
  rfl

theorem lacks_shortDescription_ofLines (ls : List Text) :
    (ofLines ls).lacks .shortDescription = (firstRun (afterName (regionOf ls))).isEmpty := by
  rw [ofLines_eq]
  rfl

end Header

end PluginReadme
