import PluginReadme.Proofs.Readme.Heading
import PluginReadme.Readme.Header

/-!
# The name of the plugin

No labelled field sets the name of the plugin. So the name of a readme is the first name on any of
its lines (`pluginName_ofLines`), wherever the header ends.
-/

namespace PluginReadme

/-- The name of the plugin on a line, which may have blanks around it. -/
def nameOn? (line : Text) : Option Text := Heading.pluginName? (Text.strip line)

/-- The trimmed line does not end with a line feed. -/
theorem dropFinalFeed_strip (line : Text) :
    Text.dropFinalFeed (Text.strip line) = Text.strip line := by
  refine if_neg fun hfeed ↦ ?_
  exact absurd ((Text.isTrimmed_trim isBlank line).last '\n' hfeed) (by decide)

theorem nameOn?_of_head_ne_mark {line : Text} (h : (Text.strip line).head? ≠ some '=') :
    nameOn? line = none := by
  cases hname : nameOn? line with
  | none => rfl
  | some name =>
    obtain ⟨inside, hbetween, -, -, -⟩ := Heading.pluginName?_eq_some hname
    rw [dropFinalFeed_strip] at hbetween
    exact absurd (Heading.head_of_between? (by decide) hbetween) h

namespace Header

theorem label?_of_onLine?_eq_some {field : Field} {line value : Text}
    (h : field.onLine? line = some value) : field.label? ≠ none := by
  intro hlabel
  rw [Field.onLine?, hlabel] at h
  exact absurd h (by simp)

theorem onLine?_of_ofLine?_eq_some {field : Field} {line value : Text}
    (h : Field.ofLine? line = some (field, value)) : field.onLine? line = some value := by
  obtain ⟨found, -, hfound⟩ := List.exists_of_findSome?_eq_some h
  obtain ⟨read, hread, heq⟩ := Option.map_eq_some_iff.mp hfound
  obtain ⟨rfl, rfl⟩ := Prod.mk.inj heq
  exact hread

/-- What every labelled field keeps when a line sets it is kept by reading. -/
theorem foldl_read_induction {motive : Header → Prop}
    (set : ∀ (header : Header) (field : Field) (line value : Text),
      field.onLine? line = some value → motive header → motive (header.set field value))
    (header : Header) (region : List Text) (h : motive header) :
    motive (region.foldl read header) := by
  induction region generalizing header with
  | nil => exact h
  | cons line region ih =>
    rw [List.foldl_cons]
    apply ih
    unfold read
    split
    · next field value hline =>
      exact set header field line value (onLine?_of_ofLine?_eq_some hline) h
    · exact h

/-- A labelled field is neither the name nor the description. -/
theorem set_of_label? {field : Field} (header : Header) (value : Text) (h : field.label? ≠ none) :
    (header.set field value).pluginName = header.pluginName ∧
      (header.set field value).shortDescription = header.shortDescription := by
  cases field
  case pluginName => exact absurd rfl h
  case shortDescription => exact absurd rfl h
  case contributors => rw [set]; split <;> exact ⟨rfl, rfl⟩
  case tags => rw [set]; split <;> exact ⟨rfl, rfl⟩
  all_goals exact ⟨rfl, rfl⟩

theorem pluginName_foldl_read (header : Header) (region : List Text) :
    (region.foldl read header).pluginName = header.pluginName := by
  apply foldl_read_induction (motive := fun found ↦ found.pluginName = header.pluginName)
  · intro found field line value hline hfound
    rw [(set_of_label? found value (label?_of_onLine?_eq_some hline)).1, hfound]
  · rfl

theorem shortDescription_foldl_read (header : Header) (region : List Text) :
    (region.foldl read header).shortDescription = header.shortDescription := by
  apply foldl_read_induction (motive := fun found ↦
    found.shortDescription = header.shortDescription)
  · intro found field line value hline hfound
    rw [(set_of_label? found value (label?_of_onLine?_eq_some hline)).2, hfound]
  · rfl

/-- The first value that a function has on a list stands where the function first has one. -/
theorem findSome?_eq_getElem?_findIdx? {α β : Type} (f : α → Option β) (xs : List α) :
    xs.findSome? f =
      (xs.findIdx? fun x ↦ (f x).isSome).bind fun index ↦ (xs[index]?).bind f := by
  induction xs with
  | nil => rfl
  | cons x xs ih =>
    rw [List.findSome?_cons, List.findIdx?_cons]
    cases h : f x with
    | some value => exact h.symm
    | none =>
      dsimp only
      rw [Option.isSome_none, if_neg Bool.false_ne_true, Option.bind_map, ih]
      rfl

/-- The name of a readme is the first name on its lines. -/
theorem pluginName_ofLines (ls : List Text) :
    (ofLines ls).pluginName = ((ls.filterMap nameOn?).head?).getD [] := by
  have hfirst : (ls.filterMap nameOn?).head? =
      (ls.map Text.strip).findSome? Heading.pluginName? := by
    rw [List.head?_filterMap, List.findSome?_map]
    rfl
  rw [hfirst, findSome?_eq_getElem?_findIdx?]
  unfold ofLines
  dsimp only
  split
  · next index h => rw [h]; rfl
  · next h => rw [h, pluginName_foldl_read]; rfl

end Header

end PluginReadme
