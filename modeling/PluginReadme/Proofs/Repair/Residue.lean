import PluginReadme.Proofs.Check.Findings
import PluginReadme.Proofs.Repair.Idempotent

/-!
# Headings that repair leaves

The check knows three shapes of headings and repair looks at the marks of a line, so each decides
for itself what a heading is. They meet at settled lines: a settled line that the check calls
malformed is out of reach for repair for one of four reasons (`LeftMalformed`), and a settled line
that it calls a heading of number signs is indented or stands for no heading. Since all lines of a
repaired text are settled, nothing else is reported there.
-/

namespace PluginReadme.Repair

variable {line : Text}

/-- Why repair leaves a line that starts with a mark and is no heading. -/
inductive LeftMalformed (line : Text) : Prop where
  | code (h : Text.startsWith "    " line = true ∨ Text.startsWith "\t" line = true)
  | name (front : ((Text.strip line).takeWhile Heading.isMark).length = 3)
      (back : (Text.takeEndWhile Heading.isMark (Text.strip line)).length = 3)
  | marksOnly (h : ∀ c ∈ line, c = '=' ∨ isBlank c = true)
  | word (last : (Text.strip line).getLast? ≠ some '=')
      (next : ∃ c, ((Text.strip line).dropWhile Heading.isMark).head? = some c ∧ isBlank c = false)

/-! ## Marks -/

theorem exists_not_isMark_of_dropWhile_ne_nil {t : Text} (h : t.dropWhile Heading.isMark ≠ []) :
    ∃ c ∈ t.dropWhile Heading.isMark, Heading.isMark c = false := by
  obtain ⟨c, rest, hcons⟩ := List.exists_cons_of_ne_nil h
  refine ⟨c, by simp [hcons], Text.head_dropWhile Heading.isMark t c ?_⟩
  rw [hcons]
  rfl

/-- A line that holds something else than marks is cut into its two runs and what is between. -/
theorem enclosed_of_dropWhile_ne_nil {t : Text} (h : t.dropWhile Heading.isMark ≠ []) :
    enclosed t = ((t.takeWhile Heading.isMark).length,
      Text.dropEndWhile Heading.isMark (t.dropWhile Heading.isMark),
      (Text.takeEndWhile Heading.isMark t).length) := by
  have hfront := congrArg List.length
    (List.takeWhile_append_dropWhile (p := Heading.isMark) (l := t))
  have hback := congrArg List.length
    (Text.dropEndWhile_append_takeEndWhile Heading.isMark (t.dropWhile Heading.isMark))
  have hrun : Text.takeEndWhile Heading.isMark t =
      Text.takeEndWhile Heading.isMark (t.dropWhile Heading.isMark) := by
    rw [← Text.takeEndWhile_append_of_exists (t.takeWhile Heading.isMark)
      (exists_not_isMark_of_dropWhile_ne_nil h), List.takeWhile_append_dropWhile]
  rw [List.length_append] at hfront hback
  unfold enclosed
  dsimp only
  rw [if_neg (by simpa using h), hrun]
  simp only [Prod.mk.injEq, true_and]
  omega

/-- Where the two runs enclose no title, there are only marks and blanks. -/
theorem isPadding_of_strip_enclosed {t : Text}
    (h : Text.strip (Text.dropEndWhile Heading.isMark (t.dropWhile Heading.isMark)) = []) :
    Heading.IsPadding t := by
  rw [Text.strip, Text.trim_eq_nil_iff] at h
  have hbody : Heading.IsPadding (t.dropWhile Heading.isMark) := by
    rw [← Text.dropEndWhile_append_takeEndWhile Heading.isMark (t.dropWhile Heading.isMark)]
    exact (Heading.isPadding_of_blank h).append
      (Heading.isPadding_of_isMark (Text.forall_mem_takeEndWhile _ _))
  rw [← List.takeWhile_append_dropWhile (p := Heading.isMark) (l := t)]
  exact (Heading.isPadding_of_isMark (Text.forall_mem_takeWhile _ t)).append hbody

theorem isPadding_of_strip (h : Heading.IsPadding (Text.strip line)) : Heading.IsPadding line := by
  obtain ⟨front, tail, heq, hfront, htail⟩ := Text.exists_trim isBlank line
  rw [heq]
  exact ((Heading.isPadding_of_blank hfront).append h).append (Heading.isPadding_of_blank htail)

/-! ## Settled lines -/

/-- Where no mark ends the text and repair proposes nothing, a word touches the marks in front. -/
theorem leftMalformed_of_unclosed {t : Text} (hbody : t.dropWhile Heading.isMark ≠ [])
    (hback : (Text.takeEndWhile Heading.isMark t).length = 0)
    (hblank : ¬(Text.dropEndWhile Heading.isMark (t.dropWhile Heading.isMark)).head?.any isBlank) :
    t.getLast? ≠ some '=' ∧
      ∃ c, (t.dropWhile Heading.isMark).head? = some c ∧ isBlank c = false := by
  have hsplit := Text.dropEndWhile_append_takeEndWhile Heading.isMark t
  rw [List.length_eq_zero_iff.mp hback, List.append_nil] at hsplit
  have hlast : t.getLast? ≠ some '=' := by
    intro hmark
    rw [← hsplit] at hmark
    exact absurd (Text.last_dropEndWhile Heading.isMark t '=' hmark) (by decide)
  refine ⟨hlast, ?_⟩
  have hinside : Text.dropEndWhile Heading.isMark (t.dropWhile Heading.isMark) =
      t.dropWhile Heading.isMark := by
    apply Text.dropEndWhile_eq_self
    intro c hc
    rw [Bool.eq_false_iff]
    intro hmark
    obtain ⟨front, hfront⟩ := List.dropWhile_suffix Heading.isMark (l := t)
    apply hlast
    rw [← hfront, List.getLast?_append, Option.mem_def.mp hc]
    simpa [Heading.isMark] using hmark
  rw [hinside] at hblank
  obtain ⟨c, rest, hcons⟩ := List.exists_cons_of_ne_nil hbody
  rw [hcons] at hblank ⊢
  exact ⟨c, rfl, by simpa using hblank⟩

/-- A settled line that the check calls malformed is left for one of the four reasons. -/
theorem IsSettledLine.leftMalformed (h : IsSettledLine line)
    (hmalformed : Check.isMalformed line = true) : LeftMalformed line := by
  have hmark : Text.startsWith "=" (Text.strip line) = true :=
    Heading.startsWith_mark_iff.mpr (Check.head_strip_of_isMalformed hmalformed)
  by_cases hbody : (Text.strip line).dropWhile Heading.isMark = []
  · have hmarks : Heading.IsPadding (Text.strip line) :=
      Heading.isPadding_of_isMark (List.dropWhile_eq_nil_iff.mp hbody)
    exact .marksOnly (isPadding_of_strip hmarks)
  have hnone := h.heading 0
  unfold heading? at hnone
  dsimp only at hnone
  rw [enclosed_of_dropWhile_ne_nil hbody] at hnone
  dsimp only at hnone
  split_ifs at hnone with hcode htitle hback hblank hsame
  · rw [hmark, Bool.not_true, Bool.or_false, Bool.or_eq_true] at hcode
    exact .code hcode
  · rw [Bool.or_eq_true, List.isEmpty_iff, Bool.and_eq_true, decide_eq_true_eq,
      decide_eq_true_eq] at htitle
    rcases htitle with hempty | ⟨hfront, hend⟩
    · exact .marksOnly (isPadding_of_strip (isPadding_of_strip_enclosed hempty))
    · exact .name hfront hend
  · obtain ⟨hlast, hnext⟩ := leftMalformed_of_unclosed hbody hback hblank
    exact .word hlast hnext
  · rw [Bool.or_eq_true, not_or, List.isEmpty_iff] at htitle
    have hwritten (isSection : Bool) {title : Text} (htitle : Heading.IsTitle title) :
        Heading.IsWritten (headingOf isSection title) :=
      ⟨_, title, by split <;> simp, htitle, rfl⟩
    have hcanonical : Heading.IsWritten line :=
      hsame ▸ hwritten _ (Heading.isTitle_strip htitle.1)
    rw [Check.isMalformed_of_isWritten hcanonical] at hmalformed
    exact Bool.noConfusion hmalformed

/-- A settled line that starts with number signs stands for no heading. -/
theorem IsSettledLine.ofHashes?_eq_none (h : IsSettledLine line)
    (hhashed : Heading.isHashed line = true) :
    line.head?.any isBlank = true ∨ Heading.ofHashes? line = none := by
  have hnone := h.hashes 0
  unfold hashHeading? at hnone
  split_ifs at hnone with hfirst
  · exact Or.inr (Option.map_eq_none_iff.mp hnone)
  · left
    cases line with
    | nil => exact absurd hhashed (by decide)
    | cons c rest =>
      change isBlank c = true
      by_contra hblank
      have hhead := Heading.head_stripLeft_of_isHashed hhashed
      rw [Text.stripLeft, List.dropWhile_cons_of_neg hblank] at hhead
      apply hfirst
      rw [Option.some.inj hhead]
      rfl

/-! ## Repaired texts -/

/-- Every line of a repaired text is settled. -/
theorem isSettledLine_of_mem_lines_repair {t : Text}
    (h : line ∈ Text.lines (repair .indented t).text) : IsSettledLine line := by
  by_cases hnil : (Repair.lines .indented (Text.lines t)).lines = []
  · have htext : (repair .indented t).text = [] := by
      change Text.join _ (Repair.lines .indented (Text.lines t)).lines = []
      rw [hnil]
      rfl
    rw [htext] at h
    rw [List.mem_singleton.mp h]
    exact isSettledLine_nil
  · rw [lines_repair (by simp) hnil] at h
    exact forall_isSettledLine (settled_lines .indented (Text.lines t)) line h

/-- A malformed heading of a repaired text is left for one of the four reasons, and a heading of
number signs there is indented or has no suggestion. -/
theorem leftover_of_mem_issues (t : Text) (issue : Issue)
    (h : issue ∈ (Verdict.of (Readme.ofText (repair .indented t).text) []).issues) :
    (issue.code = .malformedHeading →
        ∃ index line, issue.IsAt (Text.lines (repair .indented t).text) index line ∧
          LeftMalformed line) ∧
      (issue.code = .hashHeading →
        ∃ index line, issue.IsAt (Text.lines (repair .indented t).text) index line ∧
          (line.head?.any isBlank = true ∨ issue.suggestion = none)) := by
  constructor
  · intro hcode
    obtain ⟨index, line, hat, hfinding⟩ := Check.finding_of_mem_issues h (by rw [hcode]; decide)
    have hsettled := isSettledLine_of_mem_lines_repair (List.mem_of_getElem? hat.line_eq)
    exact ⟨index, line, hat, hsettled.leftMalformed (hfinding.isMalformed hcode)⟩
  · intro hcode
    obtain ⟨index, line, hat, hfinding⟩ := Check.finding_of_mem_issues h (by rw [hcode]; decide)
    have hsettled := isSettledLine_of_mem_lines_repair (List.mem_of_getElem? hat.line_eq)
    obtain ⟨hhashed, hsuggestion⟩ := hfinding.isHashed hcode
    refine ⟨index, line, hat, ?_⟩
    rw [hsuggestion]
    exact hsettled.ofHashes?_eq_none hhashed

/-- Two times three marks name the plugin and are left without blanks. -/
theorem leftover_of_mem_issues_name :
    ∃ issue ∈ (Verdict.of (Readme.ofText (repair .indented "== A\n===B===".toList).text) []).issues,
      issue.code = .malformedHeading ∧
        ∃ index line, issue.IsAt (Text.lines (repair .indented "== A\n===B===".toList).text) index
          line ∧ LeftMalformed line := by
  let issue : Issue :=
    { severity := .error
      code := .malformedHeading
      message := "Malformed readme heading syntax"
      line := some 2
      column := some 1
      endColumn := some 7
      suggestion := some "=== B ===".toList
      hint := some "Use proper heading format, e.g. \"=== B ===\"".toList }
  have hmem : issue ∈
      (Verdict.of (Readme.ofText (repair .indented "== A\n===B===".toList).text) []).issues := by
    decide +kernel
  exact ⟨issue, hmem, rfl, (leftover_of_mem_issues _ issue hmem).1 rfl⟩

end PluginReadme.Repair
