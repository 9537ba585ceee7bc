import PluginReadme.Proofs.Readme.Fields
import PluginReadme.Proofs.Text.Cut

/-!
# The lines that fields come from

The header is read from its lines in one way and the places of its fields are looked up in another.
A line decides a field if the field does not depend any more on what it was before (`Decides`), and
the header takes a field from the last line that decides it (`TakenFrom`). The looked-up place is
right (`Located`) unless the last line with the label of a field sets nothing
(`located_iff_of_label?`), a name is empty or stands behind the heading of a section
(`located_pluginName_iff`), or a second name stands in front of the description
(`located_shortDescription_iff`).
-/

namespace PluginReadme.Header

variable {ls front back : List Text} {line value name : Text} {field : Field} {n : Nat}

/-! ## Where a field comes from -/

/-- After the line, the field does not depend on what it was before. -/
def Decides (field : Field) (line : Text) : Prop :=
  ∀ old new : Header, (old.read line).entry field = (new.read line).entry field

def Leaves (field : Field) (line : Text) : Prop :=
  ∀ header : Header, (header.read line).entry field = header.entry field

/-- The header takes the field from the line with the given number, counted from one. The name comes
from the first line of all that holds one, a labelled field from the last line of the region that
decides it, and the description starts at the first plain line after the name. -/
inductive TakenFrom (ls : List Text) : Field → Nat → Prop where
  | name {front back : List Text} {line name : Text} (lines_eq : ls = front ++ line :: back)
      (unnamed : ∀ other ∈ front, nameOn? other = none) (named : nameOn? line = some name)
      (value_eq : (ofLines ls).pluginName = name) : TakenFrom ls .pluginName (front.length + 1)
  | labelled {field : Field} {front back : List Text} {line : Text} (hlabel : field.label? ≠ none)
      (region_eq : regionOf ls = front ++ line :: back) (decides : Decides field line)
      (leaves : ∀ other ∈ back, Leaves field other)
      (value_eq : (ofLines ls).entry field = (({} : Header).read line).entry field) :
      TakenFrom ls field (front.length + 1)
  | description {before between back : List Text} {name line : Text}
      (region_eq : regionOf ls = before ++ name :: (between ++ line :: back))
      (unnamed : ∀ other ∈ before, Heading.pluginName? other = none)
      (named : (Heading.pluginName? name).isSome = true)
      (no_plain : ∀ other ∈ between, isPlain other = false) (plain : isPlain line = true)
      (value_eq : (ofLines ls).shortDescription =
        Text.join [' '] (line :: back.takeWhile isPlain)) :
      TakenFrom ls .shortDescription (before.length + between.length + 2)

/-- A field is shown at a line exactly if the header has it, and then at the line that the header
takes it from. -/
structure Located (ls : List Text) (field : Field) : Prop where
  found_iff : (place? ls field).isSome = true ↔ (ofLines ls).lacks field = false
  taken : ∀ n, place? ls field = some n → TakenFrom ls field n

/-- A field that is neither shown nor there is located. -/
theorem located_of_eq_none (hplace : place? ls field = none)
    (hlacks : (ofLines ls).lacks field = true) : Located ls field where
  found_iff := by
    rw [hplace, hlacks]
    decide
  taken n hn := absurd (hplace.symm.trans hn) (by simp)

/-- A field that is shown where it was taken from is located. -/
theorem located_of_eq_some (hplace : place? ls field = some n)
    (hlacks : (ofLines ls).lacks field = false) (htaken : TakenFrom ls field n) :
    Located ls field where
  found_iff := by
    rw [hplace, hlacks]
    exact iff_of_true rfl rfl
  taken m hm := Option.some.inj (hplace.symm.trans hm) ▸ htaken

/-! ## Labelled fields -/

def LastLabelled (region : List Text) (field : Field) (value : Text) : Prop :=
  ∃ front line back, region = front ++ line :: back ∧ field.onLine? line = some value ∧
    ∀ other ∈ back, field.onLine? other = none

theorem exists_lastLabelled (h : ∃ line ∈ ls, field.onLine? line ≠ none) :
    ∃ value, LastLabelled ls field value := by
  induction ls with
  | nil =>
    obtain ⟨line, hline, -⟩ := h
    exact absurd hline List.not_mem_nil
  | cons first ls ih =>
    by_cases hrest : ∃ line ∈ ls, field.onLine? line ≠ none
    · obtain ⟨value, front, line, back, rfl, hline, hback⟩ := ih hrest
      exact ⟨value, first :: front, line, back, rfl, hline, hback⟩
    · obtain ⟨line, hline, hsome⟩ := h
      obtain rfl : line = first :=
        (List.mem_cons.mp hline).resolve_right fun hmem ↦ hrest ⟨line, hmem, hsome⟩
      obtain ⟨value, hvalue⟩ := Option.ne_none_iff_exists'.mp hsome
      refine ⟨value, [], line, ls, rfl, hvalue, fun other hother ↦ ?_⟩
      by_contra hne
      exact hrest ⟨other, hother, hne⟩

/-- The last line with the label of a field is the one that is found. -/
theorem lastLine?_append (hline : field.onLine? line = some value)
    (hback : ∀ other ∈ back, field.onLine? other = none) :
    lastLine? field (front ++ line :: back) = some (front.length + 1) := by
  let holds (pair : Text × Nat) : Bool := (field.onLine? pair.1).isSome
  have hlater : (back.zipIdx (front.length + 1)).reverse.find? holds = none := by
    rw [List.find?_eq_none]
    intro pair hpair
    have hnone := hback pair.1 (List.fst_mem_of_mem_zipIdx (List.mem_reverse.mp hpair))
    simp [holds, hnone]
  have hreverse : (front ++ line :: back).zipIdx.reverse =
      (back.zipIdx (front.length + 1)).reverse ++ (line, front.length) :: front.zipIdx.reverse := by
    simp [List.zipIdx_append]
  calc
    lastLine? field (front ++ line :: back) =
        ((front ++ line :: back).zipIdx.reverse.find? holds).map (·.2 + 1) := rfl
    _ = (((line, front.length) :: front.zipIdx.reverse).find? holds).map (·.2 + 1) := by
      rw [hreverse, List.find?_append, hlater, Option.none_or]
    _ = (some (line, front.length)).map (·.2 + 1) := by
      rw [List.find?_cons_of_pos (by simp [holds, hline])]
    _ = some (front.length + 1) := rfl

theorem lastLine?_eq_none (h : ∀ line ∈ ls, field.onLine? line = none) :
    lastLine? field ls = none := by
  rw [lastLine?, Option.map_eq_none_iff, List.find?_eq_none]
  rintro ⟨line, index⟩ hline
  dsimp only
  rw [h line (List.fst_mem_of_mem_zipIdx (List.mem_reverse.mp hline))]
  exact Bool.false_ne_true

/-- Labelled fields are shown at the last line with their label. -/
theorem place?_of_label? (ls : List Text) (h : field.label? ≠ none) :
    place? ls field = lastLine? field (regionOf ls) := by
  cases field
  case pluginName | shortDescription => exact absurd rfl h
  all_goals rfl

theorem exists_entry_ne (field : Field) :
    ∃ old new : Header, old.entry field ≠ new.entry field := by
  refine ⟨{}, ⟨['x'], [['x']], ['x'], [['x']], ['x'], ['x'], ['x'], ['x'], ['x'], ['x'], ['x']⟩, ?_⟩
  cases field <;> decide

/-- A value that counts decides the field; any other one leaves it. -/
theorem decides_iff (h : field.onLine? line = some value) :
    Decides field line ↔ passesOver field value = false := by
  constructor
  · intro hdecides
    by_contra hpass
    obtain ⟨old, new, hne⟩ := exists_entry_ne field
    have hsame := hdecides old new
    rw [Bool.not_eq_false] at hpass
    rw [read_of_onLine? old h, read_of_onLine? new h, set_of_passesOver old hpass,
      set_of_passesOver new hpass] at hsame
    exact hne hsame
  · intro hcounts old new
    rw [read_of_onLine? old h, read_of_onLine? new h]
    exact entry_set_eq old new hcounts

theorem lacks_empty (field : Field) : ({} : Header).lacks field = true := by
  cases field <;> rfl

/-- The last value of a field, if it counts, is the value of the header. -/
theorem entry_ofLines_of_lastLine (hlabel : field.label? ≠ none)
    (hregion : regionOf ls = front ++ line :: back) (hline : field.onLine? line = some value)
    (hback : ∀ other ∈ back, field.onLine? other = none)
    (hcounts : passesOver field value = false) :
    (ofLines ls).entry field = (({} : Header).set field value).entry field := by
  calc
    (ofLines ls).entry field = (back.foldl read (read (front.foldl read {}) line)).entry field := by
      rw [entry_ofLines_of_label? ls hlabel, hregion, List.foldl_append, List.foldl_cons]
    _ = (read (front.foldl read {}) line).entry field := entry_foldl_read _ hback
    _ = (({} : Header).set field value).entry field := by
      rw [read_of_onLine? _ hline]
      exact entry_set_eq _ _ hcounts

/-- A labelled field was taken from a line with its label. -/
theorem TakenFrom.exists_labelled (h : TakenFrom ls field n) (hlabel : field.label? ≠ none) :
    ∃ front line back, n = front.length + 1 ∧ regionOf ls = front ++ line :: back ∧
      Decides field line := by
  cases h with
  | name | description => exact absurd rfl hlabel
  | @labelled _ front back line _ hregion hdecides _ _ =>
    exact ⟨front, line, back, rfl, hregion, hdecides⟩

/-- A labelled field is located exactly if its last line gives it a value. -/
theorem located_iff_of_label? (hlabel : field.label? ≠ none) : Located ls field ↔
    ∀ value, LastLabelled (regionOf ls) field value →
      (({} : Header).set field value).lacks field = false := by
  constructor
  · rintro ⟨hfound, htaken⟩ value ⟨front, line, back, hregion, hline, hback⟩
    have hplace : place? ls field = some (front.length + 1) := by
      rw [place?_of_label? ls hlabel, hregion, lastLine?_append hline hback]
    obtain ⟨start, other, rest, hlength, hother, hdecides⟩ :=
      (htaken _ hplace).exists_labelled hlabel
    rw [hregion] at hother
    obtain ⟨-, hsame⟩ := List.append_inj hother (Nat.succ.inj hlength)
    obtain rfl := (List.cons.inj hsame).1
    rw [decides_iff hline] at hdecides
    rw [lacks_congr (entry_ofLines_of_lastLine hlabel hregion hline hback hdecides).symm]
    exact hfound.mp (by rw [hplace]; rfl)
  · intro hgiven
    by_cases hsome : ∃ line ∈ regionOf ls, field.onLine? line ≠ none
    · obtain ⟨value, front, line, back, hregion, hline, hback⟩ := exists_lastLabelled hsome
      have hlacks := hgiven value ⟨front, line, back, hregion, hline, hback⟩
      have hplace : place? ls field = some (front.length + 1) := by
        rw [place?_of_label? ls hlabel, hregion, lastLine?_append hline hback]
      have hcounts : passesOver field value = false := by
        by_contra hpass
        rw [set_of_passesOver _ (by simpa using hpass), lacks_empty] at hlacks
        exact absurd hlacks (by decide)
      have hentry := entry_ofLines_of_lastLine hlabel hregion hline hback hcounts
      exact located_of_eq_some hplace ((lacks_congr hentry).trans hlacks)
        (.labelled hlabel hregion ((decides_iff hline).mpr hcounts)
          (fun other hother header ↦ entry_read_of_onLine?_eq_none header (hback other hother))
          (by rw [hentry, read_of_onLine? _ hline]))
    · have hnone : ∀ line ∈ regionOf ls, field.onLine? line = none := fun line hline ↦ by
        by_contra hne
        exact hsome ⟨line, hline, hne⟩
      have hplace : place? ls field = none := by
        rw [place?_of_label? ls hlabel, lastLine?_eq_none hnone]
      refine located_of_eq_none hplace ?_
      rw [lacks_ofLines_of_label? ls hlabel, lacks_congr (entry_foldl_read {} hnone), lacks_empty]

/-- The line that a labelled field is shown at carries its label. -/
theorem exists_onLine?_of_place? (hlabel : field.label? ≠ none) (h : place? ls field = some n) :
    ∃ raw value, ls[n - 1]? = some raw ∧ field.onLine? (Text.strip raw) = some value := by
  rw [place?_of_label? ls hlabel] at h
  have hsome : ∃ line ∈ regionOf ls, field.onLine? line ≠ none := by
    by_contra hnone
    push Not at hnone
    rw [lastLine?_eq_none hnone] at h
    exact absurd h (by simp)
  obtain ⟨value, front, line, back, hregion, hline, hback⟩ := exists_lastLabelled hsome
  rw [hregion, lastLine?_append hline hback] at h
  obtain rfl := Option.some.inj h
  have hget : (ls.map Text.strip)[front.length]? = some line := by
    obtain ⟨rest, hrest⟩ := regionOf_isPrefix ls
    rw [← hrest, hregion, List.append_assoc, List.getElem?_append_right le_rfl, Nat.sub_self]
    rfl
  rw [List.getElem?_map] at hget
  obtain ⟨raw, hraw, rfl⟩ := Option.map_eq_some_iff.mp hget
  exact ⟨raw, value, hraw, hline⟩

/-! ## The first line of a kind -/

theorem exists_first {p : Text → Bool} (h : ∃ line ∈ ls, p line = true) :
    ∃ front line back, ls = front ++ line :: back ∧ (∀ other ∈ front, p other = false) ∧
      p line = true := by
  obtain ⟨line, hline⟩ := Option.isSome_iff_exists.mp (List.find?_isSome.mpr h)
  obtain ⟨hfound, front, back, rfl, hfront⟩ := List.find?_eq_some_iff_append.mp hline
  exact ⟨front, line, back, rfl, fun other hother ↦ by simpa using hfront other hother, hfound⟩

theorem findIdx?_append_cons {p : Text → Bool} (hfront : ∀ other ∈ front, p other = false)
    (hline : p line = true) : (front ++ line :: back).findIdx? p = some front.length := by
  rw [List.findIdx?_append, List.findIdx?_eq_none_iff.mpr hfront, Option.none_or,
    List.findIdx?_cons, if_pos hline]
  simp

/-! ## The name -/

/-- A line with a name opens no section. -/
theorem not_isSectionBetweenBlanks_of_nameOn? (h : nameOn? line = some name) :
    ¬ Heading.IsSectionBetweenBlanks line := by
  intro hsection
  rw [nameOn?_of_isSectionBetweenBlanks hsection] at h
  exact absurd h (by simp)

/-- The first name is the name. -/
theorem nameIn_append (hfront : ∀ other ∈ front, nameOn? other = none)
    (hline : nameOn? line = some name) : nameIn (front ++ line :: back) = name := by
  calc
    nameIn (front ++ line :: back) = nameIn (line :: back) :=
      @nameIn_append_block [] (line :: back) front hfront
    _ = name := by
      rw [nameIn, List.findSome?_cons, hline]
      rfl

theorem place?_pluginName_of_unnamed (h : ∀ other ∈ regionOf ls, Heading.pluginName? other = none) :
    place? ls .pluginName = none := by
  have hnone : (regionOf ls).findIdx? (fun line ↦ (Heading.pluginName? line).isSome) = none :=
    List.findIdx?_eq_none_iff.mpr fun other hother ↦ by rw [h other hother]; rfl
  rw [place?, hnone]
  rfl

/-- The first name is shown where it stands, if that is before the first section. -/
theorem place?_pluginName_append (hfront : ∀ other ∈ front, nameOn? other = none)
    (hline : nameOn? line = some name)
    (hsection : ∀ other ∈ front, ¬ Heading.IsSectionBetweenBlanks other) :
    place? (front ++ line :: back) .pluginName = some (front.length + 1) := by
  have hregion : regionOf (front ++ line :: back) =
      front.map Text.strip ++ Text.strip line :: regionOf back := by
    rw [regionOf_append hsection, regionOf_cons,
      if_neg (not_isSectionBetweenBlanks_of_nameOn? hline)]
  have hunnamed : ∀ other ∈ front.map Text.strip, (Heading.pluginName? other).isSome = false :=
    List.forall_mem_map.mpr fun other hother ↦ by
      rw [show Heading.pluginName? (Text.strip other) = none from hfront other hother]
      rfl
  have hnamed : (Heading.pluginName? (Text.strip line)).isSome = true := by
    rw [show Heading.pluginName? (Text.strip line) = some name from hline]
    rfl
  rw [place?, hregion, findIdx?_append_cons hunnamed hnamed, List.length_map]
  rfl

/-- A name behind the heading of a section is not located. -/
theorem place?_pluginName_of_section (hfront : ∀ other ∈ front, nameOn? other = none)
    (hsection : ∃ other ∈ front, Heading.IsSectionBetweenBlanks other) :
    place? (front ++ back) .pluginName = none := by
  apply place?_pluginName_of_unnamed
  intro other hother
  rw [regionOf_append_of_exists hsection] at hother
  obtain ⟨raw, hraw, rfl⟩ := List.mem_map.mp ((regionOf_isPrefix front).subset hother)
  exact hfront raw hraw

/-- The first name is located exactly if it stands before the first section and is not empty, or
behind a heading and empty. -/
theorem located_pluginName_append (hfront : ∀ other ∈ front, nameOn? other = none)
    (hline : nameOn? line = some name) : Located (front ++ line :: back) .pluginName ↔
      (name ≠ [] ↔ ∀ other ∈ front, ¬ Heading.IsSectionBetweenBlanks other) := by
  have hlacks : (ofLines (front ++ line :: back)).lacks .pluginName = false ↔ name ≠ [] := by
    rw [lacks_pluginName_ofLines, nameIn_append hfront hline, List.isEmpty_eq_false_iff]
  by_cases hsection : ∀ other ∈ front, ¬ Heading.IsSectionBetweenBlanks other
  · have hplace : place? (front ++ line :: back) .pluginName = some (front.length + 1) :=
      place?_pluginName_append hfront hline hsection
    have hvalue : (ofLines (front ++ line :: back)).pluginName = name := by
      rw [ofLines_eq]
      exact nameIn_append hfront hline
    rw [iff_true_right hsection, ← hlacks]
    refine ⟨fun h ↦ h.found_iff.mp ?_, fun h ↦ ?_⟩
    · rw [hplace]
      rfl
    · exact located_of_eq_some hplace h (.name rfl hfront hline hvalue)
  · have hsome : ∃ other ∈ front, Heading.IsSectionBetweenBlanks other := by
      simpa using hsection
    have hplace : place? (front ++ line :: back) .pluginName = none :=
      place?_pluginName_of_section hfront hsome
    rw [iff_false_right hsection, ← hlacks, Bool.not_eq_false]
    refine ⟨fun h ↦ ?_, located_of_eq_none hplace⟩
    rw [← Bool.not_eq_false, ← h.found_iff, hplace]
    exact Bool.false_ne_true

theorem located_pluginName_of_unnamed (hnone : ∀ line ∈ ls, nameOn? line = none) :
    Located ls .pluginName := by
  have hplace : place? ls .pluginName = none := by
    apply place?_pluginName_of_unnamed
    intro other hother
    obtain ⟨raw, hraw, rfl⟩ := List.mem_map.mp ((regionOf_isPrefix ls).subset hother)
    exact hnone raw hraw
  refine located_of_eq_none hplace ?_
  rw [lacks_pluginName_ofLines, nameIn, List.findSome?_eq_none_iff.mpr hnone]
  rfl

/-- The name is located exactly if the first one stands before the first section, unless it is empty
and stands behind it. -/
theorem located_pluginName_iff : Located ls .pluginName ↔
    ∀ front line back name, ls = front ++ line :: back →
      (∀ other ∈ front, nameOn? other = none) → nameOn? line = some name →
      (name ≠ [] ↔ ∀ other ∈ front, ¬ Heading.IsSectionBetweenBlanks other) := by
  constructor
  · rintro hlocated front line back name rfl hfront hline
    exact (located_pluginName_append hfront hline).mp hlocated
  · intro hgiven
    by_cases hnamed : ∃ line ∈ ls, (nameOn? line).isSome = true
    · obtain ⟨front, line, back, rfl, hnone, hsome⟩ := exists_first hnamed
      obtain ⟨name, hline⟩ := Option.isSome_iff_exists.mp hsome
      have hfront : ∀ other ∈ front, nameOn? other = none :=
        fun other hother ↦ by simpa using hnone other hother
      exact (located_pluginName_append hfront hline).mpr
        (hgiven front line back name rfl hfront hline)
    · exact located_pluginName_of_unnamed (by simpa using hnamed)

/-! ## The description -/

/-- A line that the description is shown at: it is not blank and sets no field. -/
def isShown (line : Text) : Bool := !line.isEmpty && (Field.ofLine? line).isNone

/-- A plain line is one that the description is shown at, and no name. -/
theorem isPlain_eq (line : Text) :
    isPlain line = (isShown line && (Heading.pluginName? line).isNone) := by
  calc
    isPlain line = (!line.isEmpty &&
        ((Heading.pluginName? line).isNone && (Field.ofLine? line).isNone)) := by
      rw [isPlain, isHeaderField, Bool.not_or, Option.not_isSome, Option.not_isSome]
    _ = (isShown line && (Heading.pluginName? line).isNone) := by
      rw [Bool.and_comm (Heading.pluginName? line).isNone, isShown, Bool.and_assoc]

theorem isPlain_of_not_isShown (h : isShown line = false) : isPlain line = false := by
  rw [isPlain_eq, h, Bool.false_and]

theorem place?_shortDescription_of_unnamed
    (h : ∀ other ∈ regionOf ls, Heading.pluginName? other = none) :
    place? ls .shortDescription = none := by
  have hnone : (regionOf ls).findIdx? (fun line ↦ (Heading.pluginName? line).isSome) = none :=
    List.findIdx?_eq_none_iff.mpr fun other hother ↦ by rw [h other hother]; rfl
  rw [place?, hnone]
  rfl

/-- Behind the name the description is shown at the first line that can be shown. -/
theorem place?_shortDescription_eq {before after : List Text}
    (hregion : regionOf ls = before ++ name :: after)
    (hbefore : ∀ other ∈ before, Heading.pluginName? other = none)
    (hname : (Heading.pluginName? name).isSome = true) :
    place? ls .shortDescription =
      (after.findIdx? isShown).map fun offset ↦ before.length + offset + 2 := by
  have hunnamed : ∀ other ∈ before, (Heading.pluginName? other).isSome = false :=
    fun other hother ↦ by rw [hbefore other hother]; rfl
  have hafter : (before ++ name :: after).drop (before.length + 1) = after := by
    rw [List.append_cons]
    exact List.drop_left' (by simp)
  calc
    place? ls .shortDescription =
        (((before ++ name :: after).drop (before.length + 1)).findIdx? isShown).bind fun offset ↦
          some (before.length + offset + 2) := by
      rw [place?, hregion, findIdx?_append_cons hunnamed hname, Option.bind_eq_bind,
        Option.bind_some]
      rfl
    _ = (after.findIdx? isShown).map fun offset ↦ before.length + offset + 2 := by
      rw [hafter]
      exact Option.map_eq_bind.symm

theorem afterName_append {before after : List Text}
    (hbefore : ∀ other ∈ before, Heading.pluginName? other = none)
    (hname : (Heading.pluginName? name).isSome = true) :
    afterName (before ++ name :: after) = after := by
  rw [afterName, List.dropWhile_append_of_pos fun other hother ↦ by rw [hbefore other hother]; rfl,
    List.dropWhile_cons_of_neg (by rw [← Option.not_isSome, hname]; decide)]
  rfl

theorem firstRun_append {between : List Text} (hbetween : ∀ other ∈ between, isPlain other = false)
    (hline : isPlain line = true) :
    firstRun (between ++ line :: back) = Text.join [' '] (line :: back.takeWhile isPlain) := by
  rw [firstRun, List.dropWhile_append_of_pos fun other hother ↦ by rw [hbetween other hother]; rfl,
    List.dropWhile_cons_of_neg (by rw [hline]; decide), List.takeWhile_cons_of_pos hline]

/-- The description was taken from the first plain line behind the first name. -/
theorem TakenFrom.exists_description (h : TakenFrom ls .shortDescription n) :
    ∃ before name between line back, n = before.length + between.length + 2 ∧
      regionOf ls = before ++ name :: (between ++ line :: back) ∧
      (∀ other ∈ before, Heading.pluginName? other = none) ∧
      (Heading.pluginName? name).isSome = true ∧ isPlain line = true := by
  cases h with
  | labelled hlabel => exact absurd rfl hlabel
  | @description before between back name line hregion hbefore hname _ hplain _ =>
    exact ⟨before, name, between, line, back, rfl, hregion, hbefore, hname, hplain⟩

/-- The description is located if the first line that it can be shown at is plain. -/
theorem located_shortDescription_of_plain {before between : List Text}
    (hregion : regionOf ls = before ++ name :: (between ++ line :: back))
    (hbefore : ∀ other ∈ before, Heading.pluginName? other = none)
    (hname : (Heading.pluginName? name).isSome = true)
    (hbetween : ∀ other ∈ between, isShown other = false) (hshown : isShown line = true)
    (hplain : isPlain line = true) : Located ls .shortDescription := by
  have hno : ∀ other ∈ between, isPlain other = false :=
    fun other hother ↦ isPlain_of_not_isShown (hbetween other hother)
  have hplace : place? ls .shortDescription = some (before.length + between.length + 2) := by
    rw [place?_shortDescription_eq hregion hbefore hname, findIdx?_append_cons hbetween hshown]
    rfl
  have hafter : afterName (regionOf ls) = between ++ line :: back := by
    rw [hregion, afterName_append hbefore hname]
  have hvalue :
      (ofLines ls).shortDescription = Text.join [' '] (line :: back.takeWhile isPlain) := by
    rw [ofLines_eq, ← firstRun_append hno hplain, ← hafter]
  refine located_of_eq_some hplace ?_ (.description hregion hbefore hname hno hplain hvalue)
  rw [lacks_shortDescription_ofLines, hafter, List.isEmpty_eq_false_iff]
  intro hempty
  have hnone := firstRun_eq_nil_iff.mp hempty line (by simp)
  exact absurd (hnone.symm.trans hplain) (by decide)

/-- Without a line to be shown at, there is no description. -/
theorem located_shortDescription_of_no_shown {before after : List Text}
    (hregion : regionOf ls = before ++ name :: after)
    (hbefore : ∀ other ∈ before, Heading.pluginName? other = none)
    (hname : (Heading.pluginName? name).isSome = true)
    (hnone : ∀ other ∈ after, isShown other = false) : Located ls .shortDescription := by
  have hempty : firstRun after = [] :=
    firstRun_eq_nil_iff.mpr fun other hother ↦ isPlain_of_not_isShown (hnone other hother)
  refine located_of_eq_none ?_ ?_
  · rw [place?_shortDescription_eq hregion hbefore hname, List.findIdx?_eq_none_iff.mpr hnone]
    rfl
  · rw [lacks_shortDescription_ofLines, hregion, afterName_append hbefore hname, hempty]
    rfl

theorem located_shortDescription_of_unnamed
    (hnone : ∀ line ∈ regionOf ls, Heading.pluginName? line = none) :
    Located ls .shortDescription := by
  refine located_of_eq_none (place?_shortDescription_of_unnamed hnone) ?_
  rw [lacks_shortDescription_ofLines, afterName_eq_nil hnone]
  rfl

/-- The description is located exactly if the first line that it can be shown at holds no second
name. -/
theorem located_shortDescription_iff : Located ls .shortDescription ↔
    ∀ before name between line back, regionOf ls = before ++ name :: (between ++ line :: back) →
      (∀ other ∈ before, Heading.pluginName? other = none) →
      (Heading.pluginName? name).isSome = true → (∀ other ∈ between, isShown other = false) →
      isShown line = true → Heading.pluginName? line = none := by
  constructor
  · rintro ⟨-, htaken⟩ before name between line back hregion hbefore hname hbetween hline
    have hplace : place? ls .shortDescription = some (before.length + between.length + 2) := by
      rw [place?_shortDescription_eq hregion hbefore hname, findIdx?_append_cons hbetween hline]
      rfl
    obtain ⟨before', name', between', line', back', hlength, hregion', hbefore', hname', hplain⟩ :=
      (htaken _ hplace).exists_description
    rw [hregion] at hregion'
    have hnone {other : Text} (h : Heading.pluginName? other = none) :
        (Heading.pluginName? other).isNone = true := by rw [h]; rfl
    obtain ⟨rfl, -, hrest⟩ := Text.append_cons_inj
      (q := fun other ↦ (Heading.pluginName? other).isNone)
      (fun other hother ↦ hnone (hbefore other hother)) (by rw [← Option.not_isSome, hname]; rfl)
      (fun other hother ↦ hnone (hbefore' other hother)) (by rw [← Option.not_isSome, hname']; rfl)
      hregion'
    obtain ⟨-, hsame⟩ := List.append_inj hrest (by omega)
    obtain rfl := (List.cons.inj hsame).1
    rw [isPlain_eq, Bool.and_eq_true, Option.isNone_iff_eq_none] at hplain
    exact hplain.2
  · intro hgiven
    by_cases hnamed : ∃ line ∈ regionOf ls, (Heading.pluginName? line).isSome = true
    · obtain ⟨before, name, after, hregion, hunnamed, hname⟩ := exists_first hnamed
      have hbefore : ∀ other ∈ before, Heading.pluginName? other = none :=
        fun other hother ↦ by simpa using hunnamed other hother
      by_cases hshown : ∃ line ∈ after, isShown line = true
      · obtain ⟨between, line, back, rfl, hbetween, hline⟩ := exists_first hshown
        have hplain : isPlain line = true := by
          rw [isPlain_eq, hline, hgiven before name between line back hregion hbefore hname hbetween
            hline]
          rfl
        exact located_shortDescription_of_plain hregion hbefore hname hbetween hline hplain
      · exact located_shortDescription_of_no_shown hregion hbefore hname (by simpa using hshown)
    · exact located_shortDescription_of_unnamed (by simpa using hnamed)

/-! ## All fields -/

/-- A placeholder in parentheses, or a list of nothing but commas and blanks. -/
def IsIdle (field : Field) (value : Text) : Prop :=
  field = .contributors ∧ Text.startsWith "(" value = true ∨
    (field = .contributors ∨ field = .tags) ∧ itemsOf value = []

/-- Setting a field gives it a value unless the value is idle. -/
theorem lacks_set_iff (hlabel : field.label? ≠ none) (hne : value ≠ []) :
    (({} : Header).set field value).lacks field = false ↔ ¬ IsIdle field value := by
  cases field
  case pluginName | shortDescription => exact absurd rfl hlabel
  case contributors =>
    cases hpass : passesOver .contributors value with
    | true =>
      have hstart : Text.startsWith "(" value = true :=
        ((Bool.or_eq_true _ _).mp hpass).resolve_left (by simpa using hne)
      rw [set_of_passesOver _ hpass]
      exact iff_of_false (by decide) (not_not.mpr (.inl ⟨rfl, hstart⟩))
    | false =>
      have hstart : Text.startsWith "(" value = false := (Bool.or_eq_false_iff.mp hpass).2
      rw [set_contributors _ hpass, lacks, List.isEmpty_eq_false_iff]
      refine not_congr ⟨fun h ↦ .inr ⟨.inl rfl, h⟩, ?_⟩
      rintro (⟨-, h⟩ | ⟨-, h⟩)
      · exact absurd (hstart.symm.trans h) (by decide)
      · exact h
  case tags =>
    have hpass : passesOver .tags value = false := List.isEmpty_eq_false_iff.mpr hne
    rw [set_tags _ hpass, lacks, List.isEmpty_eq_false_iff]
    simp [IsIdle]
  all_goals
    rw [set, lacks, List.isEmpty_eq_false_iff]
    simp [IsIdle, hne]

/-- What locates a field. The first name of the text has to stand before the first section, unless
it is empty; the first line behind the name that is not blank and sets no field must not be a second
name; and the last line of any other field must not be idle. -/
def Locatable (ls : List Text) : Field → Prop
  | .pluginName => ∀ front line back name, ls = front ++ line :: back →
      (∀ other ∈ front, nameOn? other = none) → nameOn? line = some name →
      (name ≠ [] ↔ ∀ other ∈ front, ¬ Heading.IsSectionBetweenBlanks other)
  | .shortDescription => ∀ before name between line back,
      regionOf ls = before ++ name :: (between ++ line :: back) →
      (∀ other ∈ before, Heading.pluginName? other = none) →
      (Heading.pluginName? name).isSome = true → (∀ other ∈ between, isShown other = false) →
      isShown line = true → Heading.pluginName? line = none
  | field => ∀ value, LastLabelled (regionOf ls) field value → ¬ IsIdle field value

theorem isTrimmed_of_mem_regionOf (h : line ∈ regionOf ls) : Text.IsTrimmed isBlank line := by
  obtain ⟨raw, -, rfl⟩ := List.mem_map.mp ((regionOf_isPrefix ls).subset h)
  exact Text.isTrimmed_strip raw

/-- The place of a field is there exactly if the header has the field, and it is the place that the
header takes the field from, for all fields that can be located and for no others. -/
theorem located_iff (t : Text) (field : Field) :
    Located (Text.lines t) field ↔ Locatable (Text.lines t) field := by
  have hlabelled (hlabel : field.label? ≠ none) : Located (Text.lines t) field ↔
      ∀ value, LastLabelled (regionOf (Text.lines t)) field value → ¬ IsIdle field value := by
    rw [located_iff_of_label? hlabel]
    refine forall_congr' fun value ↦ forall_congr' fun hlast ↦ lacks_set_iff hlabel ?_
    obtain ⟨front, line, back, hregion, hline, -⟩ := hlast
    have hmem : line ∈ regionOf (Text.lines t) := by
      rw [hregion]
      simp
    exact Field.value_ne_nil (isTrimmed_of_mem_regionOf hmem) hline
  cases field
  case pluginName => exact located_pluginName_iff
  case shortDescription => exact located_shortDescription_iff
  all_goals exact hlabelled (by decide)

/-- A second name in front of the description takes its place, and a placeholder that of the
contributors before it. -/
theorem not_located :
    place? (Text.lines "=== A ===\n=== B ===\nhi") .shortDescription = some 2 ∧
      (ofLines (Text.lines "=== A ===\n=== B ===\nhi")).shortDescription = "hi".toList ∧
      ¬ Located (Text.lines "=== A ===\n=== B ===\nhi") .shortDescription ∧
      ¬ Located (Text.lines "Contributors: a\nContributors: (b)") .contributors := by
  refine ⟨by decide, by decide, fun h ↦ ?_, fun h ↦ ?_⟩
  · have hlines : regionOf (Text.lines "=== A ===\n=== B ===\nhi") =
        ["=== A ===".toList, "=== B ===".toList, "hi".toList] := by decide
    obtain ⟨before, name, between, line, back, hlength, hregion, -, -, hplain⟩ :=
      (h.taken 2 (by decide)).exists_description
    obtain rfl : before = [] := List.eq_nil_of_length_eq_zero (by omega)
    obtain rfl : between = [] := List.eq_nil_of_length_eq_zero (by omega)
    rw [hlines] at hregion
    obtain rfl := (List.cons.inj (List.cons.inj hregion).2).1
    exact absurd hplain (by decide)
  · have hlines : regionOf (Text.lines "Contributors: a\nContributors: (b)") =
        ["Contributors: a".toList] ++ ["Contributors: (b)".toList] := by decide
    have hvalue : Field.contributors.onLine? "Contributors: (b)" = some "(b)".toList := by decide
    obtain ⟨front, line, back, hlength, hregion, hdecides⟩ :=
      (h.taken 2 (by decide)).exists_labelled (by decide)
    rw [hlines] at hregion
    obtain ⟨-, hsame⟩ := List.append_inj hregion (Nat.succ.inj hlength)
    obtain rfl := (List.cons.inj hsame).1
    exact absurd ((decides_iff hvalue).mp hdecides) (by decide)

end PluginReadme.Header
