import PluginReadme.Markup.Render
import PluginReadme.Proofs.Block.Collector
import PluginReadme.Proofs.Check.Findings
import PluginReadme.Proofs.Repair.Idempotent
import PluginReadme.Proofs.Text.LineEnds

/-!
# The line end makes no difference

Reading, checking and rendering see a text through its lines. The counts of asterisks, which are
taken of the whole text, are sums over its lines; link definitions are read after the line ends are
unified; and only the size counts every character. Repair writes the line end that it finds. So a
text with pairs in place of its line feeds is read, checked, repaired and rendered like the text.
-/

namespace PluginReadme

variable {s t : Text}

/-! ## Checks -/

namespace Check

/-- Emphasis is counted in the lines, whatever ends them. -/
theorem unbalancedEmphasis_eq_of_lines_eq (h : Text.lines s = Text.lines t) (ls : List Text) :
    unbalancedEmphasis ls s = unbalancedEmphasis ls t := by
  have hbold : boldCount s = boldCount t := by
    rw [boldCount_eq_sum_lines, boldCount_eq_sum_lines, h]
  have hitalic : italicCount s % 2 = italicCount t % 2 := by
    rw [italicCount_mod_two, italicCount_mod_two, count_eq_sum_lines, count_eq_sum_lines, h]
  unfold unbalancedEmphasis
  dsimp only
  rw [hbold, hitalic]

/-- Only the check of the size sees more of a text than its lines. -/
theorem issues_eq_append_size (h : Text.lines s = Text.lines t) :
    ∃ found, issues (Readme.ofText s) = found ++ size s ∧
      issues (Readme.ofText t) = found ++ size t := by
  refine ⟨_, rfl, ?_⟩
  unfold issues Readme.ofText markup
  dsimp only
  rw [h, unbalancedEmphasis_eq_of_lines_eq h]

def isBesidesSize (issue : Issue) : Bool := issue.code != .fileTooLarge

theorem code_of_mem_size {issue : Issue} {source : Text} (h : issue ∈ size source) :
    issue.code = .fileTooLarge := by
  rw [eq_of_mem_ite_not h]
  rfl

end Check

namespace Verdict

/-- Without the issues about its size, a readme has those that were found in its lines. -/
theorem filter_kept_append_size (ignored : List Text) (found : List Issue) (source : Text) :
    (kept ignored (found ++ Check.size source)).filter Check.isBesidesSize =
      (kept ignored found).filter Check.isBesidesSize := by
  have hsize : (kept ignored (Check.size source)).filter Check.isBesidesSize = [] := by
    rw [List.filter_eq_nil_iff]
    intro issue hissue
    rw [Check.isBesidesSize, Check.code_of_mem_size (List.mem_of_mem_filter hissue)]
    decide
  have happend : kept ignored (found ++ Check.size source) =
      kept ignored found ++ kept ignored (Check.size source) :=
    List.filter_append found (Check.size source)
  rw [happend, List.filter_append, hsize, List.append_nil]

/-- Texts with the same lines have the same issues besides their sizes. -/
theorem issues_eq_of_lines_eq (h : Text.lines s = Text.lines t) (ignored : List Text) :
    (Verdict.of (Readme.ofText s) ignored).issues.filter Check.isBesidesSize =
      (Verdict.of (Readme.ofText t) ignored).issues.filter Check.isBesidesSize := by
  obtain ⟨found, hs, ht⟩ := Check.issues_eq_append_size h
  calc
    (Verdict.of (Readme.ofText s) ignored).issues.filter Check.isBesidesSize =
        (kept ignored found).filter Check.isBesidesSize := by
      rw [issues_of, hs, filter_kept_append_size]
    _ = (Verdict.of (Readme.ofText t) ignored).issues.filter Check.isBesidesSize := by
      rw [issues_of, ht, filter_kept_append_size]

end Verdict

/-! ## Repair -/

namespace Repair

variable {style : Style}

/-- One line becomes one line at most: a fence alone opens a block without lines. -/
theorem length_lines_singleton (style : Style) (line : Text) :
    (lines style [line]).lines.length ≤ 1 := by
  refine (length_cutBlanksFrom_le 0 _).trans ?_
  unfold chunks chunksFrom
  cases Fence.opening? line with
  | some language => exact Nat.zero_le 1
  | none =>
    change ((Repair.line 1 line).lines ++ []).length ≤ 1
    rcases lines_line 1 line with heq | ⟨n, title, -, heq, -⟩
    · rw [heq]
      exact Nat.le_refl 1
    · rw [heq]
      exact Nat.le_refl 1

theorem join_eq_of_length_le_one {glue other : Text} {ls : List Text} (h : ls.length ≤ 1) :
    Text.join glue ls = Text.join other ls := by
  match ls with
  | [] => rfl
  | [line] => rw [Text.join_singleton, Text.join_singleton]

/-- The log is the same, and the repaired text has pairs where it had line feeds. -/
theorem repair_pairFeeds (style : Style) (h : '\r' ∉ t) :
    (repair style (Text.pairFeeds t)).changes = (repair style t).changes ∧
      (repair style (Text.pairFeeds t)).text = Text.pairFeeds (repair style t).text := by
  have hlines := Text.lines_pairFeeds h
  have hfeed : ∀ line ∈ (lines style (Text.lines t)).lines, '\n' ∉ line :=
    feed_not_mem_lines fun _ ↦ Text.feed_not_mem_of_mem_lines
  constructor
  · change (lines style (Text.lines (Text.pairFeeds t))).changes = _
    rw [hlines]
    rfl
  · change Text.join (Text.lineEnd (Text.pairFeeds t))
        (lines style (Text.lines (Text.pairFeeds t))).lines =
      Text.pairFeeds (Text.join (Text.lineEnd t) (lines style (Text.lines t)).lines)
    rw [hlines, Text.lineEnd_of_not_mem h, Text.pairFeeds_join hfeed]
    by_cases hmem : '\n' ∈ t
    · rw [Text.lineEnd_pairFeeds hmem]
    · rw [Text.lines_of_not_mem hmem]
      exact join_eq_of_length_le_one (length_lines_singleton style t)

end Repair

/-! ## Rendering -/

namespace Markup

/-- Texts with the same lines have the same lines once they are prepared. -/
theorem lines_prepare_eq (options : Options) (definitions : List LinkDefinition)
    (h : Text.lines s = Text.lines t) :
    Text.lines (prepare options definitions s) = Text.lines (prepare options definitions t) := by
  have hbody : Text.lines (if definitions.isEmpty then s else LinkDefinition.strip definitions s) =
      Text.lines (if definitions.isEmpty then t else LinkDefinition.strip definitions t) := by
    split
    · exact h
    · rw [LinkDefinition.strip, LinkDefinition.strip, h]
  unfold prepare
  dsimp only
  split
  · exact hbody
  · rw [escapeRawTags, escapeRawTags, hbody]

/-- Texts with the same lines and the same block structure are rendered alike. -/
theorem render_eq_of_lines_eq [LinkDefinition.Collector] [LinkDefinition.LawfulCollector]
    (options : Options) (h : Text.lines s = Text.lines t)
    (hblocks : Block.normalize s = Block.normalize t) : render options s = render options t := by
  have hdefinitions : definitionsOf options s = definitionsOf options t := by
    rw [definitionsOf, definitionsOf, LinkDefinition.LawfulCollector.normal hblocks]
  have hlines (definitions : List LinkDefinition) :
      renderLines options (prepare options definitions s) =
        renderLines options (prepare options definitions t) := by
    rw [renderLines, renderLines, lines_prepare_eq options definitions h]
  unfold render
  rw [hdefinitions]
  simp only [hlines]

end Markup

/-- A text without carriage returns and the same text with pairs in place of its line feeds have
the same header, sections and faults, the same issues besides the size, repairs that differ in the
line end only, and the same rendering. -/
theorem readings_pairFeeds (t : Text) (h : '\r' ∉ t) :
    ((Readme.ofText (Text.pairFeeds t)).header = (Readme.ofText t).header ∧
        (Readme.ofText (Text.pairFeeds t)).sections = (Readme.ofText t).sections ∧
        (Readme.ofText (Text.pairFeeds t)).header.errors = (Readme.ofText t).header.errors ∧
        (Readme.ofText (Text.pairFeeds t)).header.warnings = (Readme.ofText t).header.warnings) ∧
      (∀ ignored,
        (Verdict.of (Readme.ofText (Text.pairFeeds t)) ignored).issues.filter
            Check.isBesidesSize =
          (Verdict.of (Readme.ofText t) ignored).issues.filter Check.isBesidesSize) ∧
      (∀ style,
        (repair style (Text.pairFeeds t)).changes = (repair style t).changes ∧
          (repair style (Text.pairFeeds t)).text = Text.pairFeeds (repair style t).text) ∧
      ∀ [LinkDefinition.Collector] [LinkDefinition.LawfulCollector] options,
        Markup.render options (Text.pairFeeds t) = Markup.render options t := by
  have hlines := Text.lines_pairFeeds h
  have hheader : (Readme.ofText (Text.pairFeeds t)).header = (Readme.ofText t).header :=
    congrArg Header.ofLines hlines
  refine ⟨⟨hheader, congrArg Section.ofLines hlines, ?_, ?_⟩, ?_, ?_, ?_⟩
  · rw [hheader]
  · rw [hheader]
  · exact Verdict.issues_eq_of_lines_eq hlines
  · exact fun style ↦ Repair.repair_pairFeeds style h
  · exact fun {_} {_} options ↦
      Markup.render_eq_of_lines_eq options hlines (Text.normalize_pairFeeds h)

/-- A heading, a block that goes, and an asterisk too many. -/
theorem readings_pairFeeds_block :
    '\r' ∉ "= A\n```\n```\n**x*\n".toList ∧
      Text.pairFeeds "= A\n```\n```\n**x*\n".toList = "= A\r\n```\r\n```\r\n**x*\r\n".toList ∧
      (repair .indented "= A\r\n```\r\n```\r\n**x*\r\n".toList).text =
        "= A =\r\n**x*\r\n".toList ∧
      (Verdict.of (Readme.ofText "= A\r\n```\r\n```\r\n**x*\r\n".toList) []).issues.filter
          Check.isBesidesSize =
        (Verdict.of (Readme.ofText "= A\n```\n```\n**x*\n".toList) []).issues.filter
          Check.isBesidesSize ∧
      Markup.render {} "= A\r\n```\r\n```\r\n**x*\r\n".toList =
        Markup.render {} "= A\n```\n```\n**x*\n".toList := by
  have hreturn : '\r' ∉ "= A\n```\n```\n**x*\n".toList := by decide
  have hpaired : Text.pairFeeds "= A\n```\n```\n**x*\n".toList =
      "= A\r\n```\r\n```\r\n**x*\r\n".toList := by decide
  obtain ⟨-, hissues, hrepair, hrender⟩ := readings_pairFeeds _ hreturn
  rw [hpaired] at hissues hrepair hrender
  exact ⟨hreturn, hpaired, (hrepair .indented).2.trans (by decide), hissues [], hrender {}⟩

end PluginReadme
