import PluginReadme.Proofs.Markup.Fenced
import PluginReadme.Proofs.Markup.Paired

/-!
# What escaping leaves to code

Tags inside of code are not escaped with the others, since code is escaped when it is written. Code
is read twice, though: line by line when the other tags are escaped, and in the whole text when it
is written. The two readings agree on a text whose code is closed: every fence is closed by a line
of its own, without a backtick before that, and the backticks of each other line are paired
(`render_of_closed`). A backtick that is left over pairs up with the next one further down, and then
a tag in between comes out as it is (`exempt_tag_not_escaped`).
-/

namespace PluginReadme.Markup

variable {options : Options} {t : Text} {spans more ls rest : List Text}

/-! ## What is left as it is -/

/-- The lines inside of fences, or those outside of them; `fenced` says that a fence is open. -/
def linesAt (inside fenced : Bool) : List Text → List Text
  | [] => []
  | line :: rest =>
    if Fence.isFence line then linesAt inside (!fenced) rest
    else (if inside = fenced then [line] else []) ++ linesAt inside fenced rest

/-- The lines that escaping leaves as they are because a fence is open. -/
def exemptLines (ls : List Text) : List Text := linesAt true false ls

/-- The spans that escaping leaves as they are, on the lines outside of fences. -/
def exemptSpans (ls : List Text) : List Text :=
  (linesAt false false ls).flatMap (Scan.marks codeSpan)

theorem linesAt_append (h : ∀ line ∈ ls, Fence.isFence line = false) (inside fenced : Bool)
    (rest : List Text) : linesAt inside fenced (ls ++ rest) =
      (if inside = fenced then ls else []) ++ linesAt inside fenced rest := by
  induction ls with
  | nil => simp
  | cons line ls ih =>
    obtain ⟨hline, hrest⟩ := List.forall_mem_cons.mp h
    rw [List.cons_append, linesAt, if_neg (by simp [hline]), ih hrest]
    split_ifs <;> rfl

/-- Between two fences the lines are inside, and the fences belong to neither side. -/
theorem linesAt_block {opening closing : Text} (hopening : Fence.isFence opening = true)
    (hls : ∀ line ∈ ls, Fence.isFence line = false) (hclosing : Fence.isFence closing = true)
    (inside : Bool) (rest : List Text) :
    linesAt inside false (opening :: (ls ++ closing :: rest)) =
      (if inside then ls else []) ++ linesAt inside false rest := by
  calc
    linesAt inside false (opening :: (ls ++ closing :: rest)) =
        linesAt inside true (ls ++ closing :: rest) := by
      rw [linesAt, if_pos hopening, Bool.not_false]
    _ = (if inside then ls else []) ++ linesAt inside true (closing :: rest) :=
      linesAt_append hls ..
    _ = (if inside then ls else []) ++ linesAt inside false rest := by
      rw [linesAt, if_pos hclosing, Bool.not_true]

/-! ## Closed code -/

/-- Code in a fence: what stands behind the mark that opens it, and the lines after that. -/
structure FencedCode where
  info : Text
  body : List Text

def linesHtml (options : Options) (ls : List Text) : Text :=
  (grouped (ls.map (renderedLine options))).flatMap ('\n' :: ·)

def FencedCode.shown (options : Options) (code : FencedCode) : Text :=
  code.info ++ linesHtml options code.body ++ ['\n']

/-- Lines with paired backticks, of which none with code stands for a video. -/
structure IsRun (spans ls : List Text) : Prop where
  paired : PairedLines spans ls
  noVideo : ∀ line ∈ ls, '\x60' ∈ line → Video.ofLine? (Text.strip (escapeLine line)) = none

/-- The code in the lines is closed: it consists of these blocks and, outside of them, of these
spans. -/
inductive Closed : List FencedCode → List Text → List Text → Prop where
  | run {spans ls : List Text} (hrun : IsRun spans ls) : Closed [] spans ls
  | fence {code : FencedCode} {blocks : List FencedCode} {spans more ls rest : List Text}
      {opening closing : Text} (hrun : IsRun spans ls)
      (hopening : Text.strip opening = Fence.mark ++ code.info) (hinfo : '\x60' ∉ code.info)
      (hbody : ∀ line ∈ code.body, '\x60' ∉ line) (hclosing : Text.strip closing = Fence.mark)
      (hrest : Closed blocks more rest) :
      Closed (code :: blocks) (spans ++ more) (ls ++ opening :: (code.body ++ closing :: rest))

theorem isFence_of_strip {line info : Text} (h : Text.strip line = Fence.mark ++ info) :
    Fence.isFence line = true := by
  rw [Fence.isFence, h]
  exact Text.startsWith_iff.mpr ⟨info, rfl⟩

theorem PairedLines.isFence_eq_false (h : PairedLines spans ls) :
    ∀ line ∈ ls, Fence.isFence line = false := by
  induction h with
  | nil => exact List.forall_mem_nil _
  | cons hline _ ih => exact List.forall_mem_cons.mpr ⟨hline.isFence_eq_false, ih⟩

/-- On lines with paired backticks the spans are read that they enclose. -/
theorem PairedLines.flatMap_marks_codeSpan (h : PairedLines spans ls) :
    ls.flatMap (Scan.marks codeSpan) = spans.map spanned := by
  induction h with
  | nil => rfl
  | cons hline _ ih => rw [List.flatMap_cons, hline.marks_codeSpan, ih, List.map_append]

theorem isFence_of_not_mem {line : Text} (h : '\x60' ∉ line) : Fence.isFence line = false :=
  (Paired.plain h).isFence_eq_false

/-- Escaping leaves the code as it is and nothing else. -/
theorem Closed.exempt {blocks : List FencedCode} (h : Closed blocks spans ls) :
    exemptLines ls = blocks.flatMap FencedCode.body ∧ exemptSpans ls = spans.map spanned := by
  induction h with
  | @run spans ls hrun =>
    have hls (inside : Bool) := linesAt_append hrun.paired.isFence_eq_false inside false []
    simp only [List.append_nil] at hls
    rw [exemptLines, exemptSpans, hls, hls]
    exact ⟨rfl, (List.append_nil _).symm ▸ hrun.paired.flatMap_marks_codeSpan⟩
  | @fence code blocks spans more ls rest opening closing hrun hopening hinfo hbody hclosing _ ih =>
    have hall (inside : Bool) : linesAt inside false
        (ls ++ opening :: (code.body ++ closing :: rest)) =
          (if inside = false then ls else []) ++
            ((if inside then code.body else []) ++ linesAt inside false rest) := by
      have hclosed : Text.strip closing = Fence.mark ++ [] := by rw [hclosing, List.append_nil]
      rw [linesAt_append hrun.paired.isFence_eq_false, linesAt_block (isFence_of_strip hopening)
        (fun line hline ↦ isFence_of_not_mem (hbody line hline)) (isFence_of_strip hclosed)]
    obtain ⟨hlines, hspans⟩ := ih
    rw [exemptLines, exemptSpans] at *
    rw [hall, hall]
    simp [hlines, hspans, hrun.paired.flatMap_marks_codeSpan]

/-! ## The two readings -/

theorem PairedLines.paired_linesHtml (h : PairedLines spans (ls.map (renderedLine options))) :
    Paired spans (linesHtml options ls) := by
  have hfeed : '\x60' ∉ ['\n'] := by decide
  exact h.grouped.flatMap fun hline ↦ hline.append_left hfeed

/-- The passes over lines keep the backticks of a run paired. -/
theorem IsRun.paired_linesHtml (h : IsRun spans ls) :
    Paired spans (linesHtml options (ls.map escapeLine)) := by
  have hlines : PairedLines spans ((ls.map escapeLine).map (renderedLine options)) := by
    rw [List.map_map]
    exact h.paired.map fun line hline codes hpaired ↦ hpaired.escapeLine.renderedLine
      fun hmem ↦ h.noVideo line hline ((mem_escapeLine_iff (by decide)).mp hmem)
  exact hlines.paired_linesHtml

theorem backtick_not_mem_shown {code : FencedCode} (hinfo : '\x60' ∉ code.info)
    (hbody : ∀ line ∈ code.body, '\x60' ∉ line) : '\x60' ∉ code.shown options := by
  have hlines : PairedLines [] (code.body.map (renderedLine options)) :=
    (PairedLines.of_forall hbody).map fun line hline codes hpaired ↦
      hpaired.renderedLine fun hmem ↦ absurd hmem (hbody line hline)
  have hnot : '\x60' ∉ linesHtml options code.body := hlines.paired_linesHtml.not_mem
  rw [FencedCode.shown, List.mem_append, List.mem_append]
  rintro ((hmem | hmem) | hmem)
  · exact hinfo hmem
  · exact hnot hmem
  · exact absurd hmem (by decide)

/-- Lines around a fence are shown around its marks. -/
theorem linesHtml_fence {code : FencedCode} {opening closing : Text}
    (hopening : Text.strip opening = Fence.mark ++ code.info)
    (hclosing : Text.strip closing = Fence.mark) (ls rest : List Text) :
    linesHtml options (ls ++ opening :: (code.body ++ closing :: rest)) =
      linesHtml options ls ++ ('\n' :: (Fence.mark ++ (code.shown options ++
        (Fence.mark ++ linesHtml options rest)))) := by
  have hfirst : renderedLine options opening = Fence.mark ++ code.info :=
    (renderedLine_of_backtick options hopening).trans hopening
  have hlast : renderedLine options closing = Fence.mark :=
    (renderedLine_of_backtick options hclosing).trans hclosing
  have hfirstAlone : StandsAlone (Fence.mark ++ code.info) := standsAlone_of_backtick _
  have hlastAlone : StandsAlone Fence.mark := standsAlone_of_backtick _
  simp only [linesHtml, FencedCode.shown, List.map_append, List.map_cons, hfirst, hlast,
    grouped_append_cons hfirstAlone, grouped_append_cons hlastAlone, List.flatMap_append,
    List.flatMap_cons, List.append_assoc, List.cons_append, List.nil_append]

/-- In front of a fence lines are escaped, and between two fences they stay. -/
theorem escapeLinesFrom_fence {code : FencedCode} {opening closing : Text} (hrun : IsRun spans ls)
    (hopening : Text.strip opening = Fence.mark ++ code.info)
    (hbody : ∀ line ∈ code.body, '\x60' ∉ line) (hclosing : Text.strip closing = Fence.mark) :
    escapeLinesFrom false (ls ++ opening :: (code.body ++ closing :: rest)) =
      ls.map escapeLine ++ opening :: (code.body ++ closing :: escapeLinesFrom false rest) := by
  have hclosed : Text.strip closing = Fence.mark ++ [] := by rw [hclosing, List.append_nil]
  calc
    escapeLinesFrom false (ls ++ opening :: (code.body ++ closing :: rest)) =
        ls.map escapeLine ++ escapeLinesFrom false (opening :: (code.body ++ closing :: rest)) :=
      escapeLinesFrom_append hrun.paired.isFence_eq_false _ _
    _ = ls.map escapeLine ++ opening :: (code.body ++ closing :: escapeLinesFrom false rest) := by
      rw [escapeLinesFrom_block (isFence_of_strip hopening)
        (fun line hline ↦ isFence_of_not_mem (hbody line hline)) (isFence_of_strip hclosed)]

/-- After paired backticks and a line feed, the next block is read where its fence is. -/
theorem pieces_codeBlock_fence {front shown : Text} (hfront : Paired spans front)
    (hshown : '\x60' ∉ shown) (rest : Text) :
    Scan.pieces codeBlock (front ++ ('\n' :: (Fence.mark ++ (shown ++ (Fence.mark ++ rest))))) =
      (front ++ ['\n']).map Piece.plain ++ .mark shown :: Scan.pieces codeBlock rest := by
  have hblock : Fence.mark ++ (shown ++ (Fence.mark ++ rest)) =
      Fence.mark ++ (shown ++ Fence.mark) ++ rest := by simp only [List.append_assoc]
  have hread : codeBlock none (Fence.mark ++ (shown ++ Fence.mark) ++ rest) =
      some (shown, shown.length + 5) :=
    hblock ▸ codeBlock_append hshown rest
  calc
    Scan.pieces codeBlock (front ++ ('\n' :: (Fence.mark ++ (shown ++ (Fence.mark ++ rest))))) =
        front.map Piece.plain ++
          Scan.pieces codeBlock ('\n' :: (Fence.mark ++ (shown ++ (Fence.mark ++ rest)))) :=
      hfront.pieces_codeBlock_append (by simp)
    _ = front.map Piece.plain ++ .plain '\n' ::
          Scan.pieces codeBlock (Fence.mark ++ (shown ++ Fence.mark) ++ rest) := by
      rw [Scan.pieces_cons_of_none looksAhead_codeBlock (codeBlock_cons_of_ne (by decide) _),
        hblock]
    _ = front.map Piece.plain ++ .plain '\n' :: .mark shown :: Scan.pieces codeBlock rest := by
      rw [Scan.pieces_append_of_mark looksAhead_codeBlock hread (by simp [Fence.mark])]
    _ = (front ++ ['\n']).map Piece.plain ++ .mark shown :: Scan.pieces codeBlock rest := by
      simp

/-- Blocks are read where the fences are, and the spans are left to be read after them. -/
theorem Closed.paired_codeBlocks {blocks : List FencedCode} (h : Closed blocks spans ls) :
    Scan.marks codeBlock (linesHtml options (escapeLinesFrom false ls)) =
        blocks.map (FencedCode.shown options) ∧
      Paired spans (codeBlocks (linesHtml options (escapeLinesFrom false ls))) := by
  induction h with
  | @run spans ls hrun =>
    have hescaped := escapeLinesFrom_append hrun.paired.isFence_eq_false false []
    rw [List.append_nil] at hescaped
    have hpaired : Paired spans (linesHtml options (escapeLinesFrom false ls)) := by
      rw [hescaped, show escapeLinesFrom false [] = [] from rfl, List.append_nil]
      exact hrun.paired_linesHtml
    rw [hpaired.codeBlocks_eq]
    exact ⟨hpaired.marks_codeBlock, hpaired⟩
  | @fence code blocks spans more ls rest opening closing hrun hopening hinfo hbody hclosing _ ih =>
    obtain ⟨hmarks, hrest⟩ := ih
    have hshown : '\x60' ∉ code.shown options := backtick_not_mem_shown hinfo hbody
    have hhtml : '\x60' ∉ codeBlockHtml (code.shown options) := by
      rwa [← List.count_eq_zero, count_codeBlockHtml (by decide) (by decide), List.count_eq_zero]
    have hfront : Paired spans (linesHtml options (ls.map escapeLine)) := hrun.paired_linesHtml
    have hpieces := pieces_codeBlock_fence hfront hshown
      (linesHtml options (escapeLinesFrom false rest))
    rw [escapeLinesFrom_fence hrun hopening hbody hclosing, linesHtml_fence hopening hclosing]
    refine ⟨by rw [Scan.marks_of_pieces hpieces, hmarks, List.map_cons], ?_⟩
    rw [codeBlocks, Scan.substitute_of_pieces hpieces]
    exact (hfront.append_right (by decide)).append (hrest.append_left hhtml)

/-! ## The whole text -/

/-- Every line is escaped as a whole or stays. -/
theorem mem_escapeLinesFrom {line : Text} {fenced : Bool} (h : line ∈ escapeLinesFrom fenced ls) :
    ∃ raw ∈ ls, line = raw ∨ line = escapeLine raw := by
  induction ls generalizing fenced with
  | nil => exact absurd h List.not_mem_nil
  | cons first ls ih =>
    have hfirst : line = first ∨ line = escapeLine first ∨
        ∃ fenced, line ∈ escapeLinesFrom fenced ls := by
      rw [escapeLinesFrom] at h
      split_ifs at h <;> rcases List.mem_cons.mp h with h | h
      · exact .inl h
      · exact .inr (.inr ⟨_, h⟩)
      · exact .inl h
      · exact .inr (.inr ⟨_, h⟩)
      · exact .inr (.inl h)
      · exact .inr (.inr ⟨_, h⟩)
    rcases hfirst with hline | hline | ⟨fenced, hline⟩
    · exact ⟨first, List.mem_cons_self, .inl hline⟩
    · exact ⟨first, List.mem_cons_self, .inr hline⟩
    · obtain ⟨raw, hraw, heq⟩ := ih hline
      exact ⟨raw, List.mem_cons_of_mem first hraw, heq⟩

/-- Escaping writes no character into a line that no entity is written with. -/
theorem not_mem_of_mem_escapeLinesFrom {c : Char} {line : Text} {fenced : Bool}
    (hc : c ∉ entityChars) (hls : ∀ raw ∈ ls, c ∉ raw) (h : line ∈ escapeLinesFrom fenced ls) :
    c ∉ line := by
  obtain ⟨raw, hraw, rfl | rfl⟩ := mem_escapeLinesFrom h
  · exact hls line hraw
  · exact fun hmem ↦ hls raw hraw ((mem_escapeLine_iff hc).mp hmem)

theorem escapeLinesFrom_ne_nil (fenced : Bool) (h : ls ≠ []) : escapeLinesFrom fenced ls ≠ [] := by
  obtain ⟨line, ls, rfl⟩ := List.exists_cons_of_ne_nil h
  rw [escapeLinesFrom]
  split_ifs <;> exact List.cons_ne_nil _ _

/-- The escaped text has the escaped lines. -/
theorem splitOn_escapeRawTags (t : Text) :
    Text.splitOn '\n' (escapeRawTags t) = escapeLinesFrom false (Text.lines t) :=
  Text.splitOn_join (escapeLinesFrom_ne_nil false (Text.lines_ne_nil t)) fun _ hline ↦
    not_mem_of_mem_escapeLinesFrom (by decide) (fun _ ↦ Text.feed_not_mem_of_mem_lines) hline

/-- The passes over lines write each line behind a line feed. -/
theorem feed_cons_renderLines (options : Options) (t : Text) :
    '\n' :: renderLines options (escapeRawTags t) =
      linesHtml options (escapeLinesFrom false (Text.lines t)) := by
  have hne : (escapeLinesFrom false (Text.lines t)).map (renderedLine options) ≠ [] := by
    simpa using escapeLinesFrom_ne_nil false (Text.lines_ne_nil t)
  rw [renderLines_eq_join, splitOn_escapeRawTags, Text.feed_cons_join (grouped_ne_nil hne)]
  rfl

theorem not_mem_escapeRawTags {c : Char} (hc : c ∉ entityChars) (hfeed : "\n".toList.count c = 0)
    (h : c ∉ t) : c ∉ escapeRawTags t := by
  rw [← List.count_eq_zero, escapeRawTags, count_join hfeed, List.count_eq_zero, List.mem_flatten]
  rintro ⟨line, hline, hmem⟩
  exact not_mem_of_mem_escapeLinesFrom hc
    (fun raw hraw hmem ↦ h (Text.mem_of_mem_lines hraw hmem)) hline hmem

/-- No bracket is written by the passes before links are read. -/
theorem bracket_not_mem_codeBlocks (options : Options) (h : '[' ∉ t) :
    '[' ∉ codeBlocks (renderLines options (escapeRawTags t)) := by
  have hescaped : '[' ∉ escapeRawTags t := not_mem_escapeRawTags (by decide) (by decide) h
  have hlines : '[' ∉ renderLines options (escapeRawTags t) :=
    not_mem_of_count_le (count_renderLines_le (by decide) (by decide) options _) hescaped
  refine not_mem_of_count_le (Nat.le_of_eq ?_) hlines
  rw [count_codeBlocks (by decide) (by decide) (by decide)]

/-- Without brackets and definitions, rendering is made of the passes over lines, code and emphasis.
-/
theorem render_of_bracket_not_mem [LinkDefinition.Collector] (hhtml : options.allowHtml = false)
    (hdefinitions : definitionsOf options t = .ok []) (h : '[' ∉ t) :
    render options t = .ok (emphasis (codeBlocks (renderLines options (escapeRawTags t)))) := by
  have hprepare : prepare options [] t = escapeRawTags t := by
    rw [prepare, hhtml]
    rfl
  have hfree := isFree_link_of_not_mem (bracket_not_mem_codeBlocks options h)
  have hlinks : links options.base? [] (codeBlocks (renderLines options (escapeRawTags t))) =
      .ok (codeBlocks (renderLines options (escapeRawTags t))) := by
    rw [links, Scan.substituteE_of_isFree hfree]
    rfl
  rw [render, hdefinitions]
  simp only [Except.mapError, bind, Except.bind, hprepare, hlinks]
  rfl

/-- Where code is closed, blocks are read from the fences of the text and from nowhere else. -/
theorem Closed.paired_text {blocks : List FencedCode} (h : Closed blocks spans (Text.lines t)) :
    Scan.marks codeBlock (renderLines options (escapeRawTags t)) =
        blocks.map (FencedCode.shown options) ∧
      Paired spans (codeBlocks (renderLines options (escapeRawTags t))) := by
  have hfeed : '\x60' ∉ ['\n'] := by decide
  have hpieces : Scan.pieces codeBlock ('\n' :: renderLines options (escapeRawTags t)) =
      .plain '\n' :: Scan.pieces codeBlock (renderLines options (escapeRawTags t)) :=
    Scan.pieces_cons_of_none looksAhead_codeBlock (codeBlock_cons_of_ne (by decide) _)
  have hwritten : codeBlocks ('\n' :: renderLines options (escapeRawTags t)) =
      ['\n'] ++ codeBlocks (renderLines options (escapeRawTags t)) := by
    rw [codeBlocks, Scan.substitute_eq_flatMap, hpieces]
    rfl
  obtain ⟨hmarks, hpaired⟩ : Scan.marks codeBlock (linesHtml options _) = _ ∧
    Paired spans (codeBlocks (linesHtml options _)) := h.paired_codeBlocks
  rw [← feed_cons_renderLines] at hmarks hpaired
  rw [Scan.marks, hpieces] at hmarks
  exact ⟨hmarks, (hwritten ▸ hpaired).of_append_left hfeed⟩

/-- Where code is closed, everything that is left as it is for code is read as code: the lines in
fences stand in the blocks, and the spans are the code spans that become elements. -/
theorem render_of_closed [LinkDefinition.Collector] {blocks : List FencedCode}
    (hhtml : options.allowHtml = false) (hdefinitions : definitionsOf options t = .ok [])
    (hlink : '[' ∉ t) (h : Closed blocks spans (Text.lines t)) :
    exemptLines (Text.lines t) = blocks.flatMap FencedCode.body ∧
      exemptSpans (Text.lines t) = spans.map spanned ∧
      Scan.marks codeBlock (renderLines options (escapeRawTags t)) =
        blocks.map (FencedCode.shown options) ∧
      Scan.marks (enclosedBy '\x60' 1) (codeBlocks (renderLines options (escapeRawTags t))) =
        spans ∧
      render options t = .ok (emphasis (codeBlocks (renderLines options (escapeRawTags t)))) :=
  ⟨h.exempt.1, h.exempt.2, h.paired_text.1, h.paired_text.2.marks_enclosedBy,
    render_of_bracket_not_mem hhtml hdefinitions hlink⟩

theorem closed_tags : Closed [⟨"html", ["<i>"]⟩] ["<b>"]
    (Text.lines "see \x60<b>\x60\n\x60\x60\x60html\n<i>\n\x60\x60\x60") := by
  have hspan : Paired ["<b>"] (("see " : Text) ++ (spanned "<b>" ++ [])) :=
    .span (by decide) (by decide) (by decide) (.plain (by decide))
  have hrun : IsRun ["<b>"] ["see \x60<b>\x60"] :=
    ⟨.singleton hspan, List.forall_mem_singleton.mpr fun _ ↦ by decide +kernel⟩
  have hend : Closed [] [] [] := .run ⟨.nil, List.forall_mem_nil _⟩
  have hclosed : Closed [⟨"html", ["<i>"]⟩] ["<b>"]
      ["see \x60<b>\x60", "\x60\x60\x60html", "<i>", "\x60\x60\x60"] :=
    .fence hrun (by decide) (by decide) (List.forall_mem_singleton.mpr (by decide)) (by decide) hend
  exact hclosed

/-- A tag between backticks and one in a fence are read as code. -/
theorem render_of_closed_tags :
    Scan.marks codeBlock (renderLines {}
        (escapeRawTags "see \x60<b>\x60\n\x60\x60\x60html\n<i>\n\x60\x60\x60")) =
      [FencedCode.shown {} ⟨"html", ["<i>"]⟩] ∧
    Scan.marks (enclosedBy '\x60' 1) (codeBlocks (renderLines {}
        (escapeRawTags "see \x60<b>\x60\n\x60\x60\x60html\n<i>\n\x60\x60\x60"))) = ["<b>"] := by
  have hoptions : Options.allowHtml {} = false := rfl
  obtain ⟨-, -, hblocks, hspans, -⟩ :=
    render_of_closed hoptions (by decide +kernel) (by decide) closed_tags
  exact ⟨hblocks, hspans⟩

/-- A backtick that is left over on a line pairs up with the first one of the next line, so that the
code span there is turned inside out and its tag is not escaped by anyone. -/
theorem exempt_tag_not_escaped :
    exemptSpans (Text.lines "a \x60 b\n\x60<b>x</b>\x60") = [spanned "<b>x</b>"] ∧
      render {} "a \x60 b\n\x60<b>x</b>\x60" = .ok "a <code> b\n</code><b>x</b>\x60".toList := by
  constructor <;> decide +kernel

end PluginReadme.Markup
