import PluginReadme.Proofs.Readme.Fields

/-!
# The order of field lines

What a header says of a field depends only on the lines that set this field, taken in their order
(`entry_foldl_read`), and no line sets two fields. Field lines are neither names nor headings of
sections, and a description ends at each of them (`firstRun_append_block`). So a block of field
lines can be put into any other order in which the lines of one field follow each other as before:
the header stays the same (`header_eq_of_rearranges`).
-/

namespace PluginReadme

variable {front block other back ls : List Text} {line value : Text} {field : Field}

/-! ## Field lines -/

namespace Field

def isSetOn (field : Field) (line : Text) : Bool := (field.onLine? (Text.strip line)).isSome

/-- A field line begins with the first letter of a label. -/
theorem head_ne_mark_of_onLine? (h : field.onLine? line = some value) : line.head? ≠ some '=' := by
  obtain ⟨label, start, rest, hlabel, rfl, hstart, -⟩ := onLine?_eq_some_iff.mp h
  have hall : ∀ field ∈ all, ∀ label ∈ field.label?, label.head? ≠ none ∧
      label.head? ≠ some (foldCase '=') := by
    decide
  obtain ⟨hne, hhead⟩ := hall field (mem_all field) label hlabel
  rw [← hstart, List.head?_map] at hne hhead
  cases start with
  | nil => exact absurd rfl hne
  | cons c start =>
    intro hmark
    obtain rfl : c = '=' := Option.some.inj hmark
    exact hhead rfl

/-- A line with a field is no line of the description. -/
theorem isPlain_of_isSetOn (h : field.isSetOn line = true) :
    Header.isPlain (Text.strip line) = false := by
  obtain ⟨value, hvalue⟩ := Option.isSome_iff_exists.mp h
  have hfield : isHeaderField (Text.strip line) = true := by
    rw [isHeaderField, ofLine?_eq_some_iff.mpr hvalue, Option.isSome_some, Bool.or_true]
  rw [Header.isPlain, hfield, Bool.not_true, Bool.and_false]

end Field

/-- A line with a field does not name the plugin. -/
theorem nameOn?_of_isSetOn (h : field.isSetOn line = true) : nameOn? line = none := by
  obtain ⟨value, hvalue⟩ := Option.isSome_iff_exists.mp h
  exact nameOn?_of_head_ne_mark (Field.head_ne_mark_of_onLine? hvalue)

theorem not_isSectionBetweenBlanks_of_isSetOn (h : field.isSetOn line = true) :
    ¬ Heading.IsSectionBetweenBlanks line := by
  obtain ⟨value, hvalue⟩ := Option.isSome_iff_exists.mp h
  intro hsection
  rw [Heading.IsSectionBetweenBlanks,
    Heading.section?_of_head_ne_mark (Field.head_ne_mark_of_onLine? hvalue)] at hsection
  exact absurd hsection Bool.false_ne_true

namespace Header

/-! ## Values -/

/-- The entries of all fields make up the header. -/
theorem eq_of_entry {old new : Header} (h : ∀ field, old.entry field = new.entry field) :
    old = new := by
  obtain ⟨⟩ := old
  obtain ⟨⟩ := new
  have hsame := fun field ↦ h field
  simp only [entry] at hsame
  rw [Header.mk.injEq]
  exact ⟨List.singleton_inj.mp (hsame .pluginName), hsame .contributors,
    List.singleton_inj.mp (hsame .donateLink), hsame .tags,
    List.singleton_inj.mp (hsame .requiresAtLeast), List.singleton_inj.mp (hsame .testedUpTo),
    List.singleton_inj.mp (hsame .stableTag), List.singleton_inj.mp (hsame .requiresPhp),
    List.singleton_inj.mp (hsame .license), List.singleton_inj.mp (hsame .licenseUri),
    List.singleton_inj.mp (hsame .shortDescription)⟩

theorem entry_set_congr {old new : Header} {set : Field}
    (h : old.entry field = new.entry field) :
    (old.set set value).entry field = (new.set set value).entry field := by
  by_cases heq : field = set
  · subst heq
    cases hpass : passesOver field value with
    | true => rw [set_of_passesOver old hpass, set_of_passesOver new hpass, h]
    | false => exact entry_set_eq old new hpass
  · rw [entry_set_of_ne old heq, entry_set_of_ne new heq, h]

theorem entry_read_congr {old new : Header} (h : old.entry field = new.entry field) :
    (old.read line).entry field = (new.read line).entry field := by
  unfold read
  split
  · exact entry_set_congr h
  · exact h

/-- What a header says of a field depends on the lines that set it and on nothing else. -/
theorem entry_foldl_read_filter {old new : Header} (h : old.entry field = new.entry field)
    (ls : List Text) :
    (ls.foldl read old).entry field =
      ((ls.filter fun line ↦ (field.onLine? line).isSome).foldl read new).entry field := by
  induction ls generalizing old new with
  | nil => exact h
  | cons line ls ih =>
    rw [List.foldl_cons]
    cases hline : field.onLine? line with
    | some value =>
      rw [List.filter_cons_of_pos (by rw [hline]; rfl), List.foldl_cons]
      exact ih (entry_read_congr h)
    | none =>
      rw [List.filter_cons_of_neg (by rw [hline]; decide)]
      exact ih ((entry_read_of_onLine?_eq_none old hline).trans h)

/-- A header depends, field by field, on the lines with the field and on their order. -/
theorem foldl_read_eq_of_filter {first second : List Text} (header : Header)
    (h : ∀ field : Field, first.filter (fun line ↦ (field.onLine? line).isSome) =
      second.filter fun line ↦ (field.onLine? line).isSome) :
    first.foldl read header = second.foldl read header := by
  apply eq_of_entry
  intro field
  rw [entry_foldl_read_filter rfl first, entry_foldl_read_filter rfl second, h field]

/-! ## The name and the description -/

theorem afterName_append_of_unnamed (h : ∀ line ∈ front, Heading.pluginName? line = none) :
    afterName (front ++ back) = afterName back := by
  rw [afterName, List.dropWhile_append_of_pos fun line hline ↦ by rw [h line hline]; rfl]
  rfl

theorem afterName_append_of_named
    (h : ∃ line ∈ front, (Heading.pluginName? line).isSome = true) :
    afterName (front ++ back) = afterName front ++ back := by
  induction front with
  | nil => exact absurd h (by simp)
  | cons line front ih =>
    rw [afterName, afterName, List.cons_append]
    cases hline : Heading.pluginName? line with
    | some name =>
      rw [List.dropWhile_cons_of_neg (by simp [hline]),
        List.dropWhile_cons_of_neg (by simp [hline])]
      rfl
    | none =>
      rw [List.dropWhile_cons_of_pos (by rw [hline]; rfl),
        List.dropWhile_cons_of_pos (by rw [hline]; rfl)]
      obtain ⟨named, hmem, hnamed⟩ := h
      rcases List.mem_cons.mp hmem with rfl | hmem
      · rw [hline] at hnamed
        exact absurd hnamed Bool.false_ne_true
      · exact ih ⟨named, hmem, hnamed⟩

/-- A line that is not plain ends the description, if that has begun. -/
theorem firstRun_append_cons (h : isPlain line = false) :
    firstRun (front ++ line :: back) =
      if firstRun front = [] then firstRun back else firstRun front := by
  induction front with
  | nil =>
    rw [List.nil_append, firstRun_nil, if_pos rfl, firstRun,
      List.dropWhile_cons_of_pos (by rw [h]; rfl)]
    rfl
  | cons first front ih =>
    cases hfirst : isPlain first with
    | true =>
      have hne : firstRun (first :: front) ≠ [] := by
        rw [Ne, firstRun_eq_nil_iff]
        intro hnone
        exact absurd (hnone first List.mem_cons_self) (by rw [hfirst]; decide)
      have hstop : (front ++ line :: back).takeWhile isPlain = front.takeWhile isPlain := by
        rw [List.takeWhile_append]
        split_ifs with hall
        · rw [List.takeWhile_cons_of_neg (by rw [h]; decide), List.append_nil,
            (List.takeWhile_sublist isPlain).eq_of_length hall]
        · rfl
      have hrun (ls : List Text) :
          firstRun (first :: ls) = Text.join [' '] (first :: ls.takeWhile isPlain) := by
        rw [firstRun, List.dropWhile_cons_of_neg (by rw [hfirst]; decide),
          List.takeWhile_cons_of_pos hfirst]
      calc
        firstRun (first :: front ++ line :: back) =
            Text.join [' '] (first :: (front ++ line :: back).takeWhile isPlain) := hrun _
        _ = Text.join [' '] (first :: front.takeWhile isPlain) := by rw [hstop]
        _ = firstRun (first :: front) := (hrun front).symm
        _ = if firstRun (first :: front) = [] then firstRun back else firstRun (first :: front) :=
          (if_neg hne).symm
    | false =>
      have hskip (ls : List Text) : firstRun (first :: ls) = firstRun ls := by
        rw [firstRun, List.dropWhile_cons_of_pos (by rw [hfirst]; rfl)]
        rfl
      rw [List.cons_append, hskip, hskip, ih]

/-- What stands in a block of field lines does not matter to the description. -/
theorem firstRun_append_block (hne : block ≠ []) (h : ∀ line ∈ block, isPlain line = false) :
    firstRun (front ++ (block ++ back)) =
      if firstRun front = [] then firstRun back else firstRun front := by
  obtain ⟨line, block, rfl⟩ := List.exists_cons_of_ne_nil hne
  obtain ⟨hline, hblock⟩ := List.forall_mem_cons.mp h
  have hskip : firstRun (block ++ back) = firstRun back := by
    rw [firstRun, List.dropWhile_append_of_pos fun other hother ↦ by rw [hblock other hother]; rfl]
    rfl
  rw [List.cons_append, firstRun_append_cons hline, hskip]

/-! ## Blocks in another order -/

/-- The field lines of a block in another order, in which the lines of one field follow each other
as before. -/
structure Rearranges (block other : List Text) : Prop where
  perm : other.Perm block
  labelled : ∀ line ∈ block, ∃ field : Field, field.isSetOn line = true
  order_eq : ∀ field : Field, other.filter field.isSetOn = block.filter field.isSetOn

namespace Rearranges

theorem labelled_other (h : Rearranges block other) :
    ∀ line ∈ other, ∃ field : Field, field.isSetOn line = true :=
  fun line hline ↦ h.labelled line (h.perm.mem_iff.mp hline)

/-- In another order the lines of one field follow each other as before. -/
theorem filter_strip_eq (h : Rearranges block other) (field : Field) :
    (other.map Text.strip).filter (fun line ↦ (field.onLine? line).isSome) =
      (block.map Text.strip).filter fun line ↦ (field.onLine? line).isSome := by
  rw [List.filter_map, List.filter_map]
  exact congrArg (List.map Text.strip) (h.order_eq field)

/-- Field lines in another order leave the name. -/
theorem nameIn_eq (h : Rearranges block other) :
    nameIn (front ++ other ++ back) = nameIn (front ++ block ++ back) := by
  have hunnamed {ls : List Text} (hls : ∀ line ∈ ls, ∃ field : Field, field.isSetOn line = true) :
      ∀ line ∈ ls, nameOn? line = none := by
    intro line hline
    obtain ⟨field, hfield⟩ := hls line hline
    exact nameOn?_of_isSetOn hfield
  rw [List.append_assoc, List.append_assoc, nameIn_append_block (hunnamed h.labelled_other),
    nameIn_append_block (hunnamed h.labelled)]

end Rearranges

/-- Behind no heading of a section the block is part of the region. -/
theorem regionOf_append_block (hfront : ∀ line ∈ front, ¬ Heading.IsSectionBetweenBlanks line)
    (h : ∀ line ∈ block, ∃ field : Field, field.isSetOn line = true) :
    regionOf (front ++ block ++ back) =
      front.map Text.strip ++ (block.map Text.strip ++ regionOf back) := by
  have hblock : ∀ line ∈ block, ¬ Heading.IsSectionBetweenBlanks line := by
    intro line hline
    obtain ⟨field, hfield⟩ := h line hline
    exact not_isSectionBetweenBlanks_of_isSetOn hfield
  rw [List.append_assoc, regionOf_append hfront, regionOf_append hblock]

/-- The description is the same after any block of field lines of the same length. -/
theorem description_append_block (hne : block ≠ [])
    (h : ∀ line ∈ block, ∃ field : Field, field.isSetOn line = true) :
    firstRun (afterName (front ++ (block.map Text.strip ++ back))) =
      if ∃ line ∈ front, (Heading.pluginName? line).isSome = true then
        if firstRun (afterName front) = [] then firstRun back else firstRun (afterName front)
      else firstRun (afterName back) := by
  have hunnamed : ∀ line ∈ block.map Text.strip, Heading.pluginName? line = none := by
    intro line hline
    obtain ⟨raw, hraw, rfl⟩ := List.mem_map.mp hline
    obtain ⟨field, hfield⟩ := h raw hraw
    exact nameOn?_of_isSetOn hfield
  have hplain : ∀ line ∈ block.map Text.strip, isPlain line = false := by
    intro line hline
    obtain ⟨raw, hraw, rfl⟩ := List.mem_map.mp hline
    obtain ⟨field, hfield⟩ := h raw hraw
    exact Field.isPlain_of_isSetOn hfield
  split_ifs with hnamed hrun
  · rw [afterName_append_of_named hnamed, firstRun_append_block (by simpa using hne) hplain,
      if_pos hrun]
  · rw [afterName_append_of_named hnamed, firstRun_append_block (by simpa using hne) hplain,
      if_neg hrun]
  · have hfront : ∀ line ∈ front, Heading.pluginName? line = none := by
      intro line hline
      by_contra hname
      exact hnamed ⟨line, hline, Option.isSome_iff_ne_none.mpr hname⟩
    rw [afterName_append_of_unnamed hfront, afterName_append_of_unnamed hunnamed]

/-- Field lines in another order leave the whole header. -/
theorem ofLines_eq_of_rearranges (h : Rearranges block other) :
    ofLines (front ++ other ++ back) = ofLines (front ++ block ++ back) := by
  by_cases hne : block = []
  · obtain rfl := hne
    rw [h.perm.eq_nil]
  have hother : other ≠ [] := by
    rintro rfl
    exact hne (List.nil_perm.mp h.perm)
  rw [ofLines_eq, ofLines_eq, h.nameIn_eq]
  by_cases hsection : ∃ line ∈ front, Heading.IsSectionBetweenBlanks line
  · rw [List.append_assoc, List.append_assoc, regionOf_append_of_exists hsection,
      regionOf_append_of_exists hsection]
  · have hfront : ∀ line ∈ front, ¬ Heading.IsSectionBetweenBlanks line :=
      fun line hline hheading ↦ hsection ⟨line, hline, hheading⟩
    rw [regionOf_append_block hfront h.labelled_other, regionOf_append_block hfront h.labelled,
      description_append_block hother h.labelled_other, description_append_block hne h.labelled]
    have hfilter (field : Field) :
        (front.map Text.strip ++ (other.map Text.strip ++ regionOf back)).filter
            (fun line ↦ (field.onLine? line).isSome) =
          (front.map Text.strip ++ (block.map Text.strip ++ regionOf back)).filter fun line ↦
            (field.onLine? line).isSome := by
      simp only [List.filter_append, h.filter_strip_eq field]
    have hfields := foldl_read_eq_of_filter {} hfilter
    rw [hfields]

end Header

/-! ## Two texts -/

namespace Readme

/-- Texts whose lines differ in the order of a block of field lines have the same header, as long as
the lines of each field keep their order; and no line, in whatever letters it is written, sets two
fields. -/
theorem header_eq_of_rearranges {s t : Text} (hs : Text.lines s = front ++ block ++ back)
    (ht : Text.lines t = front ++ other ++ back) (h : Header.Rearranges block other) :
    (ofText t).header = (ofText s).header ∧
      ∀ (line : Text) (first second : Field), (first.onLine? line).isSome = true →
        (second.onLine? line).isSome = true → first = second := by
  constructor
  · change Header.ofLines (Text.lines t) = Header.ofLines (Text.lines s)
    rw [hs, ht, Header.ofLines_eq_of_rearranges h]
  · intro line first second hfirst hsecond
    obtain ⟨value, hvalue⟩ := Option.isSome_iff_exists.mp hfirst
    obtain ⟨otherValue, hother⟩ := Option.isSome_iff_exists.mp hsecond
    exact Field.eq_of_onLine? hvalue hother

/-- The second line of tags, with a long s, still replaces the first one, and the description stays
where it was. -/
theorem header_eq_of_rearranges_tags :
    let s : Text := "=== A ===\nTags: a\nLicense: MIT\n  tag\u017F: b, c\nhi".toList
    let t : Text := "=== A ===\r\nLicense: MIT\r\nTags: a\r\n  tag\u017F: b, c\r\nhi".toList
    let block : List Text := ["Tags: a", "License: MIT", "  tag\u017F: b, c"]
    let other : List Text := ["License: MIT", "Tags: a", "  tag\u017F: b, c"]
    Text.lines s = ["=== A ===".toList] ++ block ++ ["hi".toList] ∧
      Text.lines t = ["=== A ===".toList] ++ other ++ ["hi".toList] ∧
      Header.Rearranges block other ∧ (ofText t).header = (ofText s).header ∧
      (ofText s).header.tags = ["b".toList, "c".toList] ∧
      (ofText s).header.shortDescription = "hi".toList := by
  intro s t block other
  have hs : Text.lines s = ["=== A ===".toList] ++ block ++ ["hi".toList] := by decide
  have ht : Text.lines t = ["=== A ===".toList] ++ other ++ ["hi".toList] := by decide
  have h : Header.Rearranges block other := by
    refine ⟨by decide, ?_, fun field ↦ by cases field <;> decide⟩
    have hall : ∀ line ∈ block, ∃ field ∈ Field.all, field.isSetOn line = true := by decide
    intro line hline
    obtain ⟨field, -, hfield⟩ := hall line hline
    exact ⟨field, hfield⟩
  exact ⟨hs, ht, h, (header_eq_of_rearranges hs ht h).1, by decide, by decide⟩

end Readme

end PluginReadme
