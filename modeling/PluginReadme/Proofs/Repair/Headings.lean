import Mathlib.Data.List.Forall2
import PluginReadme.Proofs.Readme.Header
import PluginReadme.Proofs.Readme.Sections
import PluginReadme.Proofs.Repair.Residue

/-!
# Headings that repair keeps

Repair decides by the lengths of the two runs of marks on the trimmed line, and a readme is read by
the exact shape of its lines. On every line that opens a section or names the plugin the runs are
the marks of that shape (`enclosed_marks`), so such a line keeps its title and its name, and no
line that is rewritten gets a name (`keepsHeading_line`). Where there are no fences, a repaired
readme has one line for every line except for blank ones, so its name is the same and its sections
come in the same order with others between them.
-/

namespace PluginReadme.Repair

variable {style : Style} {line : Text} {ls : List Text} {t : Text}

/-! ## Lines -/

/-- A line in place of another: it opens the same section, if that one opens any, and names the
plugin in the same way or not at all. -/
structure KeepsHeading (line repaired : Text) : Prop where
  title : ∀ title, Heading.section? line = some title → Heading.section? repaired = some title
  name : nameOn? repaired = nameOn? line

theorem KeepsHeading.refl (line : Text) : KeepsHeading line line where
  title _ h := h
  name := rfl

/-- A line with a name stands between three marks and three, and repair leaves it. -/
theorem nameOn?_eq_none_of_heading? {number : Nat} {found : Text × Change}
    (h : heading? number line = some found) : nameOn? line = none := by
  cases hname : nameOn? line with
  | none => rfl
  | some name =>
    obtain ⟨inside, hbetween, hne, htrimmed, -⟩ := Heading.pluginName?_eq_some hname
    rw [dropFinalFeed_strip] at hbetween
    have henclosed := enclosed_marks 3 htrimmed hne
    rw [← Heading.eq_of_between? hbetween] at henclosed
    unfold heading? at h
    dsimp only at h
    rw [henclosed] at h
    simp at h

/-- A line that opens a section keeps its title when it is rewritten. -/
theorem section?_of_heading? {number : Nat} {heading title : Text} {change : Change}
    (h : heading? number line = some (heading, change))
    (htitle : Heading.section? line = some title) : Heading.section? heading = some title := by
  obtain ⟨inside, hbetween, hpadded, rfl⟩ := Heading.title?_eq_some htitle
  have hne := Heading.ne_nil_of_isPadded hpadded
  have hmarks := Heading.eq_of_between? hbetween
  have hstrip : Text.strip line = line := by
    apply Text.trim_eq_self
    constructor
    · intro c hc
      rw [Heading.head_of_between? (by decide) hbetween] at hc
      exact Option.some.inj hc ▸ Heading.isBlank_mark
    · intro c hc
      rw [hmarks, List.getLast?_append] at hc
      exact Option.some.inj hc ▸ Heading.isBlank_mark
  -- What stands inside begins and ends with a blank, so the two runs are exactly the marks.
  have henclosed := enclosed_marks 2 (Heading.isTrimmed_of_isPadded hpadded) hne
  rw [← hmarks] at henclosed
  unfold heading? at h
  dsimp only at h
  rw [hstrip, henclosed] at h
  dsimp only at h
  rw [if_neg (by decide : ¬2 = 0)] at h
  split_ifs at h with hskip hempty hsame
  rw [Bool.or_eq_true, not_or, List.isEmpty_iff] at hempty
  rw [← (Prod.mk.inj (Option.some.inj h)).1]
  exact Heading.title?_write 2 (Heading.isTitle_strip hempty.1)

theorem head_of_hashHeading? {number : Nat} {found : Text × Change}
    (h : hashHeading? number line = some found) : line.head? = some '#' := by
  by_contra hhead
  rw [hashHeading?_of_head_ne_hash hhead] at h
  exact absurd h (by simp)

theorem head_strip_of_head_hash (h : line.head? = some '#') :
    (Text.strip line).head? = some '#' := by
  obtain ⟨rest, rfl⟩ := List.head?_eq_some_iff.mp h
  have hne : Text.strip ('#' :: rest) ≠ [] := Check.strip_ne_nil_of_mem List.mem_cons_self rfl
  rw [← Check.head_stripLeft_eq_head_strip hne]
  rfl

/-- A line becomes one line that keeps its heading. -/
theorem keepsHeading_line (number : Nat) (content : Text) :
    ∃ repaired, (Repair.line number content).lines = [repaired] ∧
      KeepsHeading content repaired := by
  unfold Repair.line
  cases hheading : heading? number content with
  | some found =>
    obtain ⟨n, title, hn, htitle, hwrite, -⟩ := heading?_eq_some hheading
    refine ⟨found.1, rfl, fun _ ↦ section?_of_heading? hheading, ?_⟩
    rw [nameOn?_eq_none_of_heading? hheading, nameOn?, hwrite, Heading.strip_write (by omega),
      Heading.pluginName?_write hn]
  | none =>
    cases hhashes : hashHeading? number content with
    | some found =>
      obtain ⟨n, title, hn, htitle, hwrite, -⟩ := hashHeading?_eq_some hhashes
      have hhead := head_of_hashHeading? hhashes
      have hsection : Heading.section? content = none :=
        Heading.section?_of_head_ne_mark (by rw [hhead]; decide)
      have hname : nameOn? content = none :=
        nameOn?_of_head_ne_mark (by rw [head_strip_of_head_hash hhead]; decide)
      refine ⟨found.1, rfl, fun title hsome ↦ ?_, ?_⟩
      · rw [hsection] at hsome
        exact absurd hsome (by simp)
      · rw [hname, nameOn?, hwrite, Heading.strip_write (by omega), Heading.pluginName?_write hn]
    | none => exact ⟨content, rfl, .refl content⟩

/-! ## Readmes without fences -/

/-- Without fences every line is a chunk of its own. -/
theorem exists_keepsHeading_chunksFrom (style : Style)
    (h : ∀ line ∈ ls, Fence.opening? line = none) (number : Nat) :
    ∃ repaired, List.Forall₂ KeepsHeading ls repaired ∧
      ((chunksFrom none number ls).map (chunk style)).flatMap (·.lines) = repaired := by
  induction ls generalizing number with
  | nil => exact ⟨[], .nil, rfl⟩
  | cons line ls ih =>
    obtain ⟨hline, hls⟩ := List.forall_mem_cons.mp h
    obtain ⟨rest, hkeeps, hrest⟩ := ih hls (number + 1)
    obtain ⟨repaired, hrepaired, hkeep⟩ := keepsHeading_line number line
    refine ⟨repaired :: rest, .cons hkeep hkeeps, ?_⟩
    rw [chunksFrom, hline]
    dsimp only
    rw [List.map_cons, List.flatMap_cons, hrest]
    exact congrArg (· ++ rest) hrepaired

/-- Without fences the style makes no difference. -/
theorem chunk_eq_of_opening?_eq_none (h : ∀ line ∈ ls, Fence.opening? line = none) (number : Nat) :
    (chunksFrom none number ls).map (chunk style) =
      (chunksFrom none number ls).map (chunk .indented) := by
  induction ls generalizing number with
  | nil => rfl
  | cons line ls ih =>
    obtain ⟨hline, hls⟩ := List.forall_mem_cons.mp h
    rw [chunksFrom, hline]
    dsimp only
    rw [List.map_cons, List.map_cons, ih hls]
    rfl

/-- Without fences the style does not matter. -/
theorem repair_eq_indented (h : ∀ line ∈ Text.lines t, Fence.opening? line = none) :
    repair style t = repair .indented t := by
  unfold repair Repair.lines chunks
  dsimp only
  rw [chunk_eq_of_opening?_eq_none h]

/-- What is read line by line and never from blank lines is read alike after they are cut. -/
theorem filterMap_cutBlanksFrom {α : Type} {read : Text → Option α}
    (h : ∀ line, Text.isBlankText line = true → read line = none) (run : Nat) (ls : List Text) :
    (cutBlanksFrom run ls).filterMap read = ls.filterMap read := by
  induction ls generalizing run with
  | nil => rfl
  | cons line ls ih =>
    rw [cutBlanksFrom]
    split_ifs with hblank hrun
    · rw [List.filterMap_cons_none (h [] rfl), List.filterMap_cons_none (h line hblank), ih]
    · rw [List.filterMap_cons_none (h line hblank), ih]
    · rw [List.filterMap_cons, List.filterMap_cons, ih]

/-- What is read from no blank line is read from the lines of the chunks. -/
theorem filterMap_lines_repair {α : Type} {read : Text → Option α}
    (h : ∀ line, Text.isBlankText line = true → read line = none) (t : Text) :
    (Text.lines (repair .indented t).text).filterMap read =
      (((chunks (Text.lines t)).map (chunk .indented)).flatMap (·.lines)).filterMap read := by
  have hcut := filterMap_cutBlanksFrom h 0
    (((chunks (Text.lines t)).map (chunk .indented)).flatMap (·.lines))
  rw [← hcut]
  by_cases hnil : (Repair.lines .indented (Text.lines t)).lines = []
  · have htext : (repair .indented t).text = [] := by
      change Text.join _ (Repair.lines .indented (Text.lines t)).lines = []
      rw [hnil]
      rfl
    rw [htext, show cutBlanksFrom 0 _ = [] from hnil]
    exact List.filterMap_cons_none (h [] rfl)
  · rw [lines_repair (by simp) hnil]
    rfl

theorem section?_of_isBlankText (h : Text.isBlankText line = true) :
    Heading.section? line = none := by
  refine Heading.section?_of_head_ne_mark fun hhead ↦ ?_
  exact absurd (List.all_eq_true.mp h '=' (List.mem_of_mem_head? hhead)) (by decide)

theorem nameOn?_of_isBlankText (h : Text.isBlankText line = true) : nameOn? line = none := by
  have hnil : Text.strip line = [] := Text.trim_eq_nil_iff.mpr (List.all_eq_true.mp h)
  exact nameOn?_of_head_ne_mark (by rw [hnil]; decide)

/-- Repaired lines name the plugin where the lines did. -/
theorem filterMap_nameOn?_eq {repaired : List Text} (h : List.Forall₂ KeepsHeading ls repaired) :
    repaired.filterMap nameOn? = ls.filterMap nameOn? := by
  induction h with
  | nil => rfl
  | cons hline _ ih => rw [List.filterMap_cons, List.filterMap_cons, hline.name, ih]

/-- The sections of the lines are among those of the repaired lines, in their order. -/
theorem filterMap_section?_sublist {repaired : List Text}
    (h : List.Forall₂ KeepsHeading ls repaired) :
    (ls.filterMap Heading.section?).Sublist (repaired.filterMap Heading.section?) := by
  induction h with
  | nil => exact List.Sublist.refl []
  | @cons line new ls rest hline _ ih =>
    cases htitle : Heading.section? line with
    | none =>
      rw [List.filterMap_cons_none htitle]
      cases hnew : Heading.section? new with
      | none => rw [List.filterMap_cons_none hnew]; exact ih
      | some title => rw [List.filterMap_cons_some hnew]; exact ih.cons title
    | some title =>
      rw [List.filterMap_cons_some htitle, List.filterMap_cons_some (hline.title title htitle)]
      exact ih.cons_cons title

/-- A repaired readme without fences has the same name, and its sections are the same with others
between them. -/
theorem pluginName_and_titles_repair (style : Style) (t : Text)
    (h : ∀ line ∈ Text.lines t, Fence.opening? line = none) :
    (Readme.ofText (repair style t).text).header.pluginName =
        (Readme.ofText t).header.pluginName ∧
      ((Readme.ofText t).sections.map (·.title)).Sublist
        ((Readme.ofText (repair style t).text).sections.map (·.title)) := by
  obtain ⟨repaired, hkeeps, hrepaired⟩ := exists_keepsHeading_chunksFrom .indented h 1
  rw [repair_eq_indented h]
  constructor
  · have hnames : (Text.lines (repair .indented t).text).filterMap nameOn? =
        (Text.lines t).filterMap nameOn? := by
      calc
        (Text.lines (repair .indented t).text).filterMap nameOn? =
            repaired.filterMap nameOn? := by
          rw [filterMap_lines_repair (fun _ ↦ nameOn?_of_isBlankText), chunks, hrepaired]
        _ = (Text.lines t).filterMap nameOn? := filterMap_nameOn?_eq hkeeps
    change (Header.ofLines _).pluginName = (Header.ofLines _).pluginName
    rw [Header.pluginName_ofLines, Header.pluginName_ofLines, hnames]
  · change ((Section.ofLines _).map _).Sublist ((Section.ofLines _).map _)
    rw [Section.ofLines, Section.ofLines, Section.titles_ofLinesFrom, Section.titles_ofLinesFrom,
      filterMap_lines_repair (fun _ ↦ section?_of_isBlankText), chunks, hrepaired]
    exact filterMap_section?_sublist hkeeps

/-- A name without blanks, a wrong heading, number signs, and titles with marks and of marks. -/
theorem pluginName_and_titles_repair_marks :
    (∀ line ∈ Text.lines "  ===P\tQ===\n== A=\n==  B = C\t==\n#D\n==  == ==".toList,
        Fence.opening? line = none) ∧
      (Readme.ofText (repair .fenced
        "  ===P\tQ===\n== A=\n==  B = C\t==\n#D\n==  == ==".toList).text).header.pluginName =
          "P\tQ".toList ∧
      ["B = C".toList, "==".toList].Sublist ((Readme.ofText (repair .fenced
        "  ===P\tQ===\n== A=\n==  B = C\t==\n#D\n==  == ==".toList).text).sections.map
          (·.title)) := by
  have hlines : ∀ line ∈ Text.lines "  ===P\tQ===\n== A=\n==  B = C\t==\n#D\n==  == ==".toList,
      Fence.opening? line = none := by decide
  obtain ⟨hname, htitles⟩ := pluginName_and_titles_repair .fenced _ hlines
  exact ⟨hlines, hname.trans (by decide), htitles⟩

end PluginReadme.Repair
