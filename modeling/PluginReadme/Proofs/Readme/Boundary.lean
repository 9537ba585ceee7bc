import PluginReadme.Proofs.Check.Findings
import PluginReadme.Proofs.Readme.Sections

/-!
# Where the header ends

The fields of the header are read, located and inserted before the first line that is the heading of
a section when the blanks around it are dropped. A section opens at a line that is a heading as it
stands. The two agree on every line without blanks around it. A heading with blanks around it ends
the header, opens no section, and has one of the three shapes, so nothing is reported there. Hence
all readings agree on the headings of a text if and only if none of them has blanks around it
(`headingsAgree_iff`).
-/

namespace PluginReadme

variable {t line : Text} {ls : List Text} {index : Nat}

/-! ## Headings between blanks -/

/-- The line is the heading of a section when the blanks around it are dropped. -/
def Heading.IsSectionBetweenBlanks (line : Text) : Prop :=
  (Heading.section? (Text.strip line)).isSome = true

instance (line : Text) : Decidable (Heading.IsSectionBetweenBlanks line) :=
  inferInstanceAs (Decidable (_ = true))

theorem Heading.isTrimmed_of_section? (h : (Heading.section? line).isSome = true) :
    Text.IsTrimmed isBlank line := by
  obtain ⟨title, htitle⟩ := Option.isSome_iff_exists.mp h
  obtain ⟨inside, hbetween, -, -⟩ := title?_eq_some htitle
  have hline : line = List.replicate 2 '=' ++ inside ++ List.replicate 2 '=' :=
    eq_of_between? hbetween
  constructor
  · intro c hc
    rw [head_of_between? (by decide) hbetween] at hc
    exact Option.some.inj hc ▸ isBlank_mark
  · intro c hc
    rw [hline, List.getLast?_append] at hc
    exact Option.some.inj hc ▸ isBlank_mark

/-- A heading as it stands is a heading between blanks, of which there are none. -/
theorem Heading.isSome_section?_iff :
    (Heading.section? line).isSome = true ↔
      IsSectionBetweenBlanks line ∧ Text.strip line = line := by
  constructor
  · intro h
    have hstrip : Text.strip line = line := Text.trim_eq_self (isTrimmed_of_section? h)
    exact ⟨by rwa [IsSectionBetweenBlanks, hstrip], hstrip⟩
  · rintro ⟨h, hstrip⟩
    rwa [IsSectionBetweenBlanks, hstrip] at h

/-- The heading of a section is not malformed, whatever blanks stand around it. -/
theorem Check.isMalformed_of_isSectionBetweenBlanks (h : Heading.IsSectionBetweenBlanks line) :
    Check.isMalformed line = false := by
  have hcanonical : Heading.isCanonical (Text.strip line) = true :=
    List.any_eq_true.mpr ⟨2, by simp, h⟩
  rw [isMalformed, hcanonical, Bool.not_true, Bool.and_false]

/-! ## The end of the header -/

/-- The header ends at the line with the index: it is the first line after those that fields are
read from, located in and inserted into. -/
def Header.EndsAt (ls : List Text) (index : Nat) : Prop :=
  (Header.regionOf ls).length = index ∧ index < ls.length

theorem Header.getElem?_length_takeWhile (p : Text → Bool) (ls : List Text) :
    ls[(ls.takeWhile p).length]? = (ls.dropWhile p).head? := by
  induction ls with
  | nil => rfl
  | cons line ls ih =>
    cases h : p line with
    | true =>
      rw [List.takeWhile_cons_of_pos h, List.dropWhile_cons_of_pos h, List.length_cons,
        List.getElem?_cons_succ, ih]
    | false =>
      have hneg : ¬ p line = true := by rw [h]; exact Bool.false_ne_true
      rw [List.takeWhile_cons_of_neg hneg, List.dropWhile_cons_of_neg hneg]
      rfl

/-- The line that ends the header is a heading between blanks. -/
theorem Header.isSectionBetweenBlanks_of_endsAt (h : Header.EndsAt ls index) :
    ∃ line, ls[index]? = some line ∧ Heading.IsSectionBetweenBlanks line := by
  obtain ⟨hregion, hlength⟩ := h
  rw [regionOf, List.takeWhile_map, List.length_map] at hregion
  obtain ⟨line, hline⟩ : ∃ line, ls[index]? = some line :=
    ⟨ls[index], List.getElem?_eq_getElem hlength⟩
  refine ⟨line, hline, ?_⟩
  rw [← hregion, getElem?_length_takeWhile] at hline
  have hstop := List.head?_dropWhile_not
    ((fun line : Text ↦ (Heading.section? line).isNone) ∘ Text.strip) ls
  rw [hline] at hstop
  rw [Heading.IsSectionBetweenBlanks, ← Option.not_isNone, Bool.not_eq_true']
  exact hstop

namespace Readme

/-- A section opens at the line with the index. -/
def OpensAt (readme : Readme) (index : Nat) : Prop :=
  ∃ part ∈ readme.sections, part.firstLine = (index : Int)

/-- The line with the index is reported as a malformed heading. -/
def IsReportedAt (t : Text) (index : Nat) : Prop :=
  ∃ issue ∈ (Verdict.of (ofText t) []).issues,
    issue.code = .malformedHeading ∧ issue.line = some ((index : Int) + 1)

/-- A section opens exactly at a line that is its heading as it stands. -/
theorem opensAt_iff (hline : (Text.lines t)[index]? = some line) :
    (ofText t).OpensAt index ↔ (Heading.section? line).isSome = true := by
  have hheadings := Section.headings_ofLinesFrom 0 (Text.lines t)
  constructor
  · rintro ⟨part, hpart, hfirst⟩
    have hmem : ((index : Int), part.title) ∈ (Section.ofLinesFrom 0 (Text.lines t)).map
        fun part ↦ (part.firstLine, part.title) := by
      rw [← hfirst]
      exact List.mem_map_of_mem hpart
    rw [hheadings, List.mem_filterMap] at hmem
    obtain ⟨⟨other, place⟩, hother, htitle⟩ := hmem
    obtain ⟨title, hsection, heq⟩ := Option.map_eq_some_iff.mp htitle
    obtain rfl : place = index := Int.ofNat.inj (Prod.mk.inj heq).1
    have hfound := Check.getElem?_of_mem_zipIdx hother
    rw [hline] at hfound
    rw [Option.some.inj hfound]
    exact Option.isSome_iff_exists.mpr ⟨title, hsection⟩
  · intro h
    obtain ⟨title, htitle⟩ := Option.isSome_iff_exists.mp h
    have hmem : ((index : Int), title) ∈ (Section.ofLinesFrom 0 (Text.lines t)).map
        fun part ↦ (part.firstLine, part.title) := by
      rw [hheadings, List.mem_filterMap]
      exact ⟨(line, index), List.mem_zipIdx_iff_getElem?.mpr hline, by simp [htitle]⟩
    obtain ⟨part, hpart, heq⟩ := List.mem_map.mp hmem
    exact ⟨part, hpart, (Prod.mk.inj heq).1⟩

theorem isMalformed_of_isReportedAt (hline : (Text.lines t)[index]? = some line)
    (h : IsReportedAt t index) : Check.isMalformed line = true := by
  obtain ⟨issue, hissue, hcode, hnumber⟩ := h
  obtain ⟨place, other, hat, hfinding⟩ :=
    Check.finding_of_mem_issues hissue (by rw [hcode]; decide)
  have hplace : (index : Int) + 1 = (place : Int) + 1 :=
    Option.some.inj (hnumber.symm.trans hat.number_eq)
  obtain rfl : place = index := by omega
  rw [Option.some.inj (hline.symm.trans hat.line_eq)]
  exact hfinding.isMalformed hcode

/-! ## Agreement -/

/-- All readings of a text agree on which lines are headings of sections: the header ends where a
section opens, namely the first one, and a heading between blanks opens a section or is reported. -/
structure HeadingsAgree (t : Text) : Prop where
  opensAt_of_endsAt : ∀ index, Header.EndsAt (Text.lines t) index → (ofText t).OpensAt index
  length_region : ((Header.regionOf (Text.lines t)).length : Int) =
    (((ofText t).sections.head?).map (·.firstLine)).getD ((Text.lines t).length : Int)
  noticed : ∀ (index : Nat) (line : Text), (Text.lines t)[index]? = some line →
    Heading.IsSectionBetweenBlanks line → (ofText t).OpensAt index ∨ IsReportedAt t index

/-- Without headings between blanks the header ends before the first heading as it stands. -/
theorem length_regionOf
    (h : ∀ line ∈ ls, Heading.IsSectionBetweenBlanks line → Text.strip line = line) :
    (Header.regionOf ls).length =
      (ls.takeWhile fun line ↦ (Heading.section? line).isNone).length := by
  have hsame : ls.takeWhile ((fun line ↦ (Heading.section? line).isNone) ∘ Text.strip) =
      ls.takeWhile fun line ↦ (Heading.section? line).isNone := by
    induction ls with
    | nil => rfl
    | cons line ls ih =>
      obtain ⟨hline, hrest⟩ := List.forall_mem_cons.mp h
      have hstrip : (Heading.section? (Text.strip line)).isSome =
          (Heading.section? line).isSome := by
        have hplain : (Heading.section? line).isSome = true ↔
            Heading.IsSectionBetweenBlanks line ∧ Text.strip line = line :=
          Heading.isSome_section?_iff
        rw [Bool.eq_iff_iff, hplain]
        exact ⟨fun hsection ↦ ⟨hsection, hline hsection⟩, fun hsection ↦ hsection.1⟩
      have hnone : (Heading.section? (Text.strip line)).isNone =
          (Heading.section? line).isNone := by
        rw [← Option.not_isSome, ← Option.not_isSome, hstrip]
      rw [List.takeWhile_cons, List.takeWhile_cons, ih hrest, Function.comp_apply, hnone]
  rw [Header.regionOf, List.takeWhile_map, List.length_map, hsame]

/-- The readings of a text agree on its headings exactly if no heading has blanks around it. -/
theorem headingsAgree_iff (t : Text) :
    HeadingsAgree t ↔
      ∀ line ∈ Text.lines t, Heading.IsSectionBetweenBlanks line → Text.strip line = line := by
  constructor
  · intro hagree line hmem hsection
    obtain ⟨index, hline⟩ := List.getElem?_of_mem hmem
    rcases hagree.noticed index line hline hsection with hopens | hreported
    · exact (Heading.isSome_section?_iff.mp ((opensAt_iff hline).mp hopens)).2
    · have hmalformed := isMalformed_of_isReportedAt hline hreported
      rw [Check.isMalformed_of_isSectionBetweenBlanks hsection] at hmalformed
      exact absurd hmalformed Bool.false_ne_true
  · intro hplain
    have hopens (index : Nat) (line : Text) (hline : (Text.lines t)[index]? = some line)
        (hsection : Heading.IsSectionBetweenBlanks line) : (ofText t).OpensAt index :=
      (opensAt_iff hline).mpr (Heading.isSome_section?_iff.mpr
        ⟨hsection, hplain line (List.mem_of_getElem? hline) hsection⟩)
    refine ⟨fun index hend ↦ ?_, ?_, fun index line hline hsection ↦
      Or.inl (hopens index line hline hsection)⟩
    · obtain ⟨line, hline, hsection⟩ := Header.isSectionBetweenBlanks_of_endsAt hend
      exact hopens index line hline hsection
    · have hfirst := Section.firstLine_head_ofLinesFrom 0 (Text.lines t)
      rw [Nat.zero_add] at hfirst
      rw [length_regionOf hplain]
      exact (hfirst.trans (by simp)).symm

/-- A heading after one blank ends the header, so that the tags are not read, but opens no
section. -/
theorem not_headingsAgree_blank :
    ¬ HeadingsAgree "=== A ===\n == B ==\nTags: c".toList ∧
      (ofText "=== A ===\n == B ==\nTags: c".toList).sections = [] ∧
      (ofText "=== A ===\n == B ==\nTags: c".toList).header.tags = [] := by
  have hline : (Text.lines "=== A ===\n == B ==\nTags: c".toList)[1]? =
      some " == B ==".toList := by decide
  refine ⟨fun hagree ↦ ?_, by decide, by decide⟩
  rcases hagree.noticed 1 _ hline (by decide) with hopens | hreported
  · exact absurd ((opensAt_iff hline).mp hopens) (by decide)
  · exact absurd (isMalformed_of_isReportedAt hline hreported) (by decide)

end Readme

end PluginReadme
