import PluginReadme.Proofs.Block.Collector
import PluginReadme.Proofs.Check.Marks
import PluginReadme.Proofs.Markup.Enclosed
import PluginReadme.Proofs.Markup.Lines
import PluginReadme.Proofs.Markup.Link
import PluginReadme.Proofs.Markup.Paragraphs

/-!
# Code in a fence

What stands in a fence is trimmed line by line and read for headings, videos, quotes and lists
before the fence is recognised, and then read for links, for emphasis and for blank lines
(`renderSection_fenced`). None of this happens unseen: a pass over lines puts an element in the
place of a line, a link costs a bracket, emphasis costs asterisks, and a blank line leaves a
paragraph at the end. So the code is shown as it was written exactly if no pass finds anything in it
(`renderSection_fenced_iff`).
-/

namespace PluginReadme.Markup

variable {options : Options} {code t : Text}

/-- A content without definitions and without headings of items goes through the passes as it is. -/
theorem renderSection_of_definitions [LinkDefinition.Collector]
    (hdefinitions : LinkDefinition.Collector.definitions (withItemHeadings t) = .ok []) :
    renderSection {} t = .ok (wrap (emphasis (Scan.substitute link Link.element
      (codeBlocks (renderLines {} (escapeRawTags (withItemHeadings t))))))) := by
  have hrender : render {} (withItemHeadings t) = .ok (emphasis (Scan.substitute link Link.element
      (codeBlocks (renderLines {} (escapeRawTags (withItemHeadings t)))))) := by
    have hof : definitionsOf {} (withItemHeadings t) = .ok [] := hdefinitions
    have hlinks (s : Text) : links (Options.base? {}) [] s =
        .ok (Scan.substitute link Link.element s) := links_none_nil s
    rw [render, hof]
    simp only [Except.mapError, bind, Except.bind, hlinks]
    rfl
  rw [renderSection, hrender]
  rfl

/-- The passes after the lines and the code blocks lower the number of brackets or of asterisks,
unless there is neither a link nor emphasis and only the code spans and the paragraphs are made. -/
theorem wrap_emphasis_links_eq_iff {html : Text} (hbracket : t.count '[' ≤ html.count '[')
    (hstar : t.count '*' ≤ html.count '*') :
    wrap (emphasis (Scan.substitute link Link.element t)) = html ↔
      Scan.IsFree link t ∧ IsUnstressed (codeSpans t) ∧ wrap (codeSpans t) = html := by
  constructor
  · rintro rfl
    have hlinks : Scan.IsFree link t := by
      rcases Scan.isFree_or_count_lt looksAhead_link rfl spends_link t with hfree | hlt
      · exact hfree
      · rw [count_wrap (by decide) (by decide),
          count_emphasis (by decide) (by decide) (by decide)] at hbracket
        omega
    rw [Scan.substitute_of_isFree hlinks] at hstar ⊢
    rcases isUnstressed_or_count_lt t with ⟨hfree, heq⟩ | hlt
    · exact ⟨hlinks, hfree, by rw [heq]⟩
    · rw [count_wrap (by decide) (by decide)] at hstar
      rw [count_codeSpans (by decide) (by decide)] at hlt
      omega
  · rintro ⟨hlinks, hstress, rfl⟩
    rw [Scan.substitute_of_isFree hlinks, emphasis_of_isUnstressed hstress]

/-! ## Code in a fence -/

/-- Code between two lines of three backticks. -/
def fenced (code : Text) : Text := Fence.mark ++ '\n' :: (code ++ '\n' :: Fence.mark)

theorem feed_not_mem_mark : '\n' ∉ Fence.mark := by decide

/-- Fenced code stands on lines between two fences. -/
theorem splitOn_fenced (code : Text) : Text.splitOn '\n' (fenced code) =
    Fence.mark :: (Text.splitOn '\n' code ++ [Fence.mark]) := by
  rw [fenced, Text.splitOn_append_mark, Text.splitOn_append_mark,
    Text.splitOn_of_not_mem feed_not_mem_mark]
  rfl

theorem join_fenced {ls : List Text} (h : ls ≠ []) :
    Text.join ['\n'] (Fence.mark :: (ls ++ [Fence.mark])) = fenced (Text.join ['\n'] ls) := by
  have hback : Text.join ['\n'] (ls ++ [Fence.mark]) =
      Text.join ['\n'] ls ++ '\n' :: Fence.mark := by
    induction ls with
    | nil => exact absurd rfl h
    | cons line ls ih =>
      by_cases hnil : ls = []
      · rw [hnil, Text.join_singleton]
        rfl
      · calc
          Text.join ['\n'] (line :: (ls ++ [Fence.mark])) =
              line ++ ['\n'] ++ (Text.join ['\n'] ls ++ '\n' :: Fence.mark) := by
            rw [Text.join_cons (by simp), ih hnil]
          _ = Text.join ['\n'] (line :: ls) ++ '\n' :: Fence.mark := by
            rw [Text.join_cons hnil, List.append_assoc, List.append_assoc, List.append_assoc]
  rw [Text.join_cons (by simp), hback, List.append_assoc]
  rfl

/-- Headings of items are looked for in the code and not in the fences. -/
theorem withItemHeadings_fenced (code : Text) :
    withItemHeadings (fenced code) = fenced (withItemHeadings code) := by
  have hmark : titledLine Fence.mark = Fence.mark := by decide
  have hne : (Text.splitOn '\n' code).map titledLine ≠ [] := by
    simpa using Text.splitOn_ne_nil '\n' code
  calc
    withItemHeadings (fenced code) =
        Text.join ['\n']
          ((Fence.mark :: (Text.splitOn '\n' code ++ [Fence.mark])).map titledLine) := by
      rw [withItemHeadings_eq_join, splitOn_fenced]
    _ = Text.join ['\n']
          (Fence.mark :: ((Text.splitOn '\n' code).map titledLine ++ [Fence.mark])) := by
      rw [List.map_cons, List.map_append, List.map_singleton, hmark]
    _ = fenced (withItemHeadings code) := by
      rw [join_fenced hne, withItemHeadings_eq_join]

theorem exists_lines_append_mark (code : Text) : ∃ ls : List Text,
    Text.lines (code ++ '\n' :: Fence.mark) = ls ++ [Fence.mark] ∧
      ls.map Text.strip = (Text.splitOn '\n' code).map Text.strip ∧
      ∀ line ∈ ls, ∀ c ∈ line, c ∈ code := by
  induction code using Text.lines_induction with
  | last line hline =>
    refine ⟨[Text.dropFinalReturn line], ?_, ?_, List.forall_mem_singleton.mpr fun c hc ↦
      Text.mem_of_mem_dropFinalReturn hc⟩
    · rw [Text.lines_append_feed hline, Text.lines_of_not_mem feed_not_mem_mark]
      rfl
    · rw [Text.splitOn_of_not_mem hline, List.map_singleton, Text.strip_dropFinalReturn]
      rfl
  | feed line rest hline ih =>
    obtain ⟨ls, hlines, hstrip, hls⟩ := ih
    refine ⟨Text.dropFinalReturn line :: ls, ?_, ?_, List.forall_mem_cons.mpr ⟨?_, ?_⟩⟩
    · rw [List.append_assoc, List.cons_append, Text.lines_append_feed hline, hlines]
      rfl
    · rw [Text.splitOn_append_mark, Text.splitOn_of_not_mem hline, List.map_cons, hstrip,
        Text.strip_dropFinalReturn]
      rfl
    · exact fun c hc ↦ List.mem_append_left _ (Text.mem_of_mem_dropFinalReturn hc)
    · exact fun other hother c hc ↦ by simp [hls other hother c hc]

/-- The lines of the code stand between the fences; a carriage return at the end of the last one is
not part of it. -/
theorem exists_lines_fenced (h : '\x60' ∉ code) : ∃ ls : List Text,
    Text.lines (fenced code) = Fence.mark :: (ls ++ [Fence.mark]) ∧
      ls.map Text.strip = (Text.splitOn '\n' code).map Text.strip ∧
      ∀ line ∈ ls, Fence.isFence line = false := by
  obtain ⟨ls, hlines, hstrip, hls⟩ := exists_lines_append_mark code
  refine ⟨ls, ?_, hstrip, fun line hline ↦ ?_⟩
  · rw [fenced, Text.lines_append_feed feed_not_mem_mark, hlines]
    rfl
  · apply Check.isFence_of_head_strip_ne_backtick
    exact fun hhead ↦ h (hls line hline _ (Text.mem_of_mem_trim (List.mem_of_mem_head? hhead)))

theorem escapeLinesFrom_append {ls : List Text} (h : ∀ line ∈ ls, Fence.isFence line = false)
    (inside : Bool) (rest : List Text) : escapeLinesFrom inside (ls ++ rest) =
      ls.map (fun line ↦ if inside then line else escapeLine line) ++
        escapeLinesFrom inside rest := by
  induction ls with
  | nil => rfl
  | cons line ls ih =>
    obtain ⟨hline, hrest⟩ := List.forall_mem_cons.mp h
    rw [List.cons_append, escapeLinesFrom, hline, ih hrest]
    rfl

/-- Between two fences every line stays as it is. -/
theorem escapeLinesFrom_block {opening closing : Text} {ls : List Text}
    (hopening : Fence.isFence opening = true) (hls : ∀ line ∈ ls, Fence.isFence line = false)
    (hclosing : Fence.isFence closing = true) (rest : List Text) :
    escapeLinesFrom false (opening :: (ls ++ closing :: rest)) =
      opening :: (ls ++ closing :: escapeLinesFrom false rest) := by
  calc
    escapeLinesFrom false (opening :: (ls ++ closing :: rest)) =
        opening :: escapeLinesFrom true (ls ++ closing :: rest) := by
      rw [escapeLinesFrom, if_pos hopening, Bool.not_false]
    _ = opening :: (ls ++ closing :: escapeLinesFrom false rest) := by
      rw [escapeLinesFrom_append hls, escapeLinesFrom, if_pos hclosing]
      simp

/-- The passes over lines see the code as if it stood alone. -/
theorem renderLines_fenced (h : '\x60' ∉ code) : renderLines options (escapeRawTags (fenced code)) =
    fenced (renderLines options code) := by
  have hfenceMark : Fence.isFence Fence.mark = true := by decide
  have hstripMark : Text.strip Fence.mark = '\x60' :: ['\x60', '\x60'] := by decide
  have hmark : renderedLine options Fence.mark = Fence.mark :=
    renderedLine_of_backtick options hstripMark
  have halone : StandsAlone Fence.mark := standsAlone_of_backtick _
  obtain ⟨ls, hlines, hstrip, hfence⟩ := exists_lines_fenced h
  have hsplit : Text.splitOn '\n' (escapeRawTags (fenced code)) =
      Fence.mark :: (ls ++ [Fence.mark]) := by
    rw [escapeRawTags, hlines, escapeLinesFrom_block hfenceMark hfence hfenceMark,
      show escapeLinesFrom false [] = [] from rfl, ← hlines]
    exact Text.splitOn_join (Text.lines_ne_nil _) fun line ↦ Text.feed_not_mem_of_mem_lines
  let body := (Text.splitOn '\n' code).map (renderedLine options)
  have hbody : ls.map (renderedLine options) = body := by
    rw [map_renderedLine_eq, hstrip, ← map_renderedLine_eq]
  have hne : body ≠ [] := by
    simpa [body] using Text.splitOn_ne_nil '\n' code
  calc
    renderLines options (escapeRawTags (fenced code)) =
        Text.join ['\n']
          (grouped ((Fence.mark :: (ls ++ [Fence.mark])).map (renderedLine options))) := by
      rw [renderLines_eq_join, hsplit]
    _ = Text.join ['\n'] (grouped (Fence.mark :: (body ++ [Fence.mark]))) := by
      rw [List.map_cons, List.map_append, List.map_singleton, hmark, hbody]
    _ = Text.join ['\n'] (Fence.mark :: (grouped body ++ [Fence.mark])) := by
      rw [grouped_cons halone, grouped_append_cons halone, grouped_nil]
    _ = fenced (Text.join ['\n'] (grouped body)) := join_fenced (grouped_ne_nil hne)
    _ = fenced (renderLines options code) := by
      rw [← renderLines_eq_join]

/-- The line feeds at the fences are trimmed with the code, and no language stands before them. -/
theorem codeBlockHtml_of_feeds (code : Text) :
    codeBlockHtml ('\n' :: code ++ ['\n']) =
      element "pre" (element "code" (escape (Text.strip code))) := by
  have hlanguage : cutLanguage? ('\n' :: code ++ ['\n']) = none := rfl
  rw [codeBlockHtml, hlanguage, List.cons_append, Text.strip_cons_of_isBlank (by decide),
    Text.strip_append_of_isBlank (List.forall_mem_singleton.mpr (by decide))]

/-- Fenced code is read as one block. -/
theorem codeBlocks_fenced (h : '\x60' ∉ code) :
    codeBlocks (fenced code) = element "pre" (element "code" (escape (Text.strip code))) := by
  have hread : codeBlock none (fenced code) =
      some ('\n' :: code ++ ['\n'], ('\n' :: code ++ ['\n']).length + 5) := by
    have hwhole : fenced code = Fence.mark ++ ('\n' :: code ++ ['\n'] ++ (Fence.mark ++ [])) := by
      simp [fenced]
    rw [hwhole]
    exact codeBlock_append (by simpa using h) []
  rw [codeBlocks, Scan.substitute_of_whole hread _ (List.cons_ne_nil _ _), codeBlockHtml_of_feeds]
  simp [fenced, Fence.mark]

/-- What becomes of code in a fence: it is read line by line, shown as a block, and read again for
links, for emphasis and for paragraphs. -/
theorem renderSection_fenced [LinkDefinition.Collector] [LinkDefinition.LawfulCollector]
    (h : '\x60' ∉ code) : renderSection {} (fenced code) =
    .ok (wrap (emphasis (Scan.substitute link Link.element
      (element "pre" (element "code"
        (escape (Text.strip (renderLines {} (withItemHeadings code))))))))) := by
  have hitems : '\x60' ∉ withItemHeadings code :=
    not_mem_of_count_le (count_withItemHeadings_le (by decide) (by decide) code) h
  have hlines : '\x60' ∉ renderLines {} (withItemHeadings code) :=
    not_mem_of_count_le (count_renderLines_le (by decide) (by decide) {} _) hitems
  have hdefinitions :
      LinkDefinition.Collector.definitions (withItemHeadings (fenced code)) = .ok [] := by
    rw [withItemHeadings_fenced]
    exact LinkDefinition.LawfulCollector.fenced hitems
  rw [renderSection_of_definitions hdefinitions, withItemHeadings_fenced, renderLines_fenced hitems,
    codeBlocks_fenced hlines]

/-! ## Signs in blocks of code -/

/-- Between the language and the code there are blanks, with a line feed. -/
theorem cutLanguage?_eq_some {language body : Text}
    (h : cutLanguage? code = some (language, body)) :
    ∃ blanks, (∀ c ∈ blanks, isBlank c = true) ∧ code = language ++ (blanks ++ body) := by
  unfold cutLanguage? at h
  dsimp only at h
  rw [Text.drop_length_takeWhile] at h
  have hcode := List.takeWhile_append_dropWhile (p := isLanguageChar) (l := code)
  generalize code.takeWhile isLanguageChar = run at h hcode
  generalize code.dropWhile isLanguageChar = tail at h hcode
  have htail := List.takeWhile_append_dropWhile (p := isGap) (l := tail)
  split at h
  · next rest hrest =>
    split_ifs at h
    obtain ⟨rfl, rfl⟩ := Prod.mk.inj (Option.some.inj h)
    rw [show tail.dropWhile isGap = '\n' :: rest from hrest] at htail
    refine ⟨tail.takeWhile isGap ++ ['\n'], fun c hc ↦ ?_, ?_⟩
    · rcases List.mem_append.mp hc with hc | hc
      · exact isBlank_of_isGap (Text.forall_mem_takeWhile isGap tail c hc)
      · exact List.mem_singleton.mp hc ▸ by decide
    · rw [← hcode, List.append_assoc, List.singleton_append, htail]
  · exact absurd h (by simp)

theorem count_codeBlockHtml {c : Char} (hc : c ∈ keptSigns) (hink : isBlank c = false)
    (code : Text) : (codeBlockHtml code).count c = code.count c := by
  have hentity : c ∉ entityChars := not_mem_of_isSignless hc (by decide)
  unfold codeBlockHtml
  split
  · next language body hcut =>
    have hopen : ("<pre><code class=\"language-" : Text).count c = 0 :=
      count_of_isSignless hc (by decide)
    have hend : ("\">" : Text).count c = 0 := count_of_isSignless hc (by decide)
    have hclose : ("</code></pre>" : Text).count c = 0 := count_of_isSignless hc (by decide)
    obtain ⟨blanks, hblanks, rfl⟩ := cutLanguage?_eq_some hcut
    have hblank : blanks.count c = 0 := List.count_eq_zero.mpr fun hmem ↦
      Bool.noConfusion ((hblanks c hmem).symm.trans hink)
    simp only [List.count_append, count_escape hentity, count_strip hink, hopen, hend, hclose,
      hblank, Nat.zero_add, Nat.add_zero]
  · rw [count_element hc (by decide), count_element hc (by decide), count_escape hentity,
      count_strip hink]

/-- Reading blocks keeps the signs that are read across lines, but for backticks. -/
theorem count_codeBlocks {c : Char} (hc : c ∈ keptSigns) (hink : isBlank c = false)
    (hcode : c ≠ '\x60') (t : Text) : (codeBlocks t).count c = t.count c := by
  have hmark : Fence.mark.count c = 0 :=
    List.count_eq_zero.mpr fun hmem ↦ hcode (List.eq_of_mem_replicate hmem)
  apply Scan.count_substitute
  intro before t code extra h
  obtain ⟨rfl, rest, rfl⟩ := codeBlock_eq_some h
  have hlength : (Fence.mark ++ (code ++ Fence.mark)).length = code.length + 5 + 1 := by
    simp [Fence.mark]
  have hsplit : Fence.mark ++ (code ++ (Fence.mark ++ rest)) =
      Fence.mark ++ (code ++ Fence.mark) ++ rest := by simp
  calc
    (codeBlockHtml code).count c = code.count c := count_codeBlockHtml hc hink code
    _ = (Fence.mark ++ (code ++ Fence.mark)).count c := by
      rw [List.count_append, List.count_append, hmark, Nat.zero_add, Nat.add_zero]
    _ = ((Fence.mark ++ (code ++ (Fence.mark ++ rest))).take (code.length + 5 + 1)).count c := by
      rw [hsplit, ← hlength, List.take_left]

/-! ## Blocks in paragraphs -/

def blockHtml (code : Text) : Text := element "pre" (element "code" (escape code))

theorem blockHtml_eq (code : Text) :
    blockHtml code = "<pre><code>" ++ (escape code ++ "</code></pre>") := by
  simp [blockHtml, element]

theorem isElement_blockHtml (code : Text) : IsElement (blockHtml code) := isElement_element _ _

/-- Different codes are shown differently. -/
theorem blockHtml_injective : Function.Injective blockHtml := by
  intro s t h
  rw [blockHtml_eq, blockHtml_eq] at h
  exact escape_injective (List.append_cancel_right (List.append_cancel_left h))

theorem splitOn_escape (t : Text) :
    Text.splitOn '\n' (escape t) = (Text.splitOn '\n' t).map escape := by
  conv_lhs => rw [← Text.join_splitOn '\n' t, escape_join]
  apply Text.splitOn_join
  · simpa using Text.splitOn_ne_nil '\n' t
  · intro line hline
    obtain ⟨raw, hraw, rfl⟩ := List.mem_map.mp hline
    rw [mem_escape_iff (by decide)]
    exact Text.not_mem_of_mem_splitOn hraw

theorem endsWithInk_escape (h : Text.IsTrimmed isBlank t) : EndsWithInk [] (escape t) :=
  ⟨fun _ ↦ rfl, (isTrimmed_escape h).last⟩

/-- The tags of a block join the first and the last part of the code. -/
theorem exists_partsFrom_blockHtml (h : Text.IsTrimmed isBlank code) :
    ∃ (init : List Text) (last : Text), partsFrom [] (escape code) = init ++ [last] ∧
      last.getLast? = (escape code).getLast? ∧
      ∃ first others, init ++ [last ++ "</code></pre>"] = first :: others ∧
        partsFrom [] (blockHtml code) = ("<pre><code>" ++ first) :: others := by
  have hink {tag : Text} (h : tag.all (fun c ↦ !isBlank c) = true) : ∀ c ∈ tag, isBlank c = false :=
    fun c hc ↦ by simpa using List.all_eq_true.mp h c hc
  have hfront : ∀ c ∈ ("<pre><code>" : Text), isBlank c = false := hink (by decide)
  have hback : ∀ c ∈ ("</code></pre>" : Text), isBlank c = false := hink (by decide)
  obtain ⟨init, last, hinit, happend, hlast⟩ :=
    exists_partsFrom_append_right hback (endsWithInk_escape h)
  obtain ⟨first, others, hparts⟩ :=
    List.exists_cons_of_ne_nil (List.append_ne_nil_of_right_ne_nil init
      (List.cons_ne_nil (last ++ ("</code></pre>" : Text)) []))
  refine ⟨init, last, hinit, hlast, first, others, hparts, ?_⟩
  rw [blockHtml_eq, partsFrom_append_left hfront (happend.trans hparts)]

/-- A block that is one part stands on its own. -/
theorem wrap_of_partsFrom_blockHtml (h : partsFrom [] (blockHtml code) = [blockHtml code]) :
    wrap (blockHtml code) = blockHtml code := by
  rw [wrap_of_partsFrom h (isElement_blockHtml code).isTrimmed (isElement_blockHtml code).ne_nil,
    blockHtml_eq]
  exact paragraph_of_pre _

/-- A block of trimmed lines without a blank one stays in one piece. -/
theorem wrap_blockHtml (hcode : Text.IsTrimmed isBlank code)
    (hlines : ∀ line ∈ Text.splitOn '\n' code, line ≠ [] ∧ Text.strip line = line) :
    wrap (blockHtml code) = blockHtml code := by
  have hparts : partsFrom [] (escape code) = [escape code] := by
    have hjoin : partsFrom [] (Text.join ['\n'] ((Text.splitOn '\n' code).map escape)) =
        [[] ++ Text.join ['\n'] ((Text.splitOn '\n' code).map escape)] := by
      refine partsFrom_join (by simpa using Text.splitOn_ne_nil '\n' code) (by decide) ?_
      intro line hline
      obtain ⟨raw, hraw, rfl⟩ := List.mem_map.mp hline
      obtain ⟨hne, htrimmed⟩ := hlines raw hraw
      refine ⟨?_, mt escape_eq_nil_iff.mp hne,
        isTrimmed_escape (htrimmed ▸ Text.isTrimmed_trim isBlank raw)⟩
      rw [mem_escape_iff (by decide)]
      exact Text.not_mem_of_mem_splitOn hraw
    rwa [← splitOn_escape, Text.join_splitOn, List.nil_append] at hjoin
  obtain ⟨init, last, hinit, -, first, others, hfirst, hblock⟩ := exists_partsFrom_blockHtml hcode
  rw [hparts] at hinit
  obtain ⟨rfl, rfl⟩ : init = [] ∧ last = escape code := by
    cases init with
    | nil => exact ⟨rfl, (List.singleton_inj.mp hinit).symm⟩
    | cons one more => exact absurd (congrArg List.length hinit) (by simp)
  obtain ⟨rfl, rfl⟩ := List.cons.inj hfirst
  exact wrap_of_partsFrom_blockHtml (hblock.trans (by rw [blockHtml_eq]))

/-- Code in one piece has no blank line. -/
theorem ne_nil_of_partsFrom_escape (hcode : Text.IsTrimmed isBlank code) (hne : code ≠ [])
    (h : partsFrom [] (escape code) = [escape code]) :
    ∀ line ∈ Text.splitOn '\n' code, line ≠ [] := by
  obtain ⟨c, rest, rfl⟩ := List.exists_cons_of_ne_nil hne
  have hfeed : c ≠ '\n' := by
    rintro rfl
    exact absurd (hcode.head '\n' rfl) (by decide)
  obtain ⟨line, ls, hrest⟩ := List.exists_cons_of_ne_nil (Text.splitOn_ne_nil '\n' rest)
  have hlines : Text.splitOn '\n' (c :: rest) = (c :: line) :: ls := by
    rw [Text.splitOn, if_neg hfeed, hrest]
    rfl
  have hescaped := splitOn_escape (c :: rest)
  rw [hlines, List.map_cons] at hescaped
  obtain ⟨hothers, -⟩ := exists_not_isBlank_of_partsFrom (endsWithInk_escape hcode) h hescaped
  rw [hlines]
  refine List.forall_mem_cons.mpr ⟨List.cons_ne_nil c line, ?_⟩
  rintro _ hother rfl
  obtain ⟨d, hd, -⟩ := hothers [] (List.mem_map.mpr ⟨[], hother, rfl⟩)
  exact List.not_mem_nil hd

/-- Code in several pieces ends with a paragraph: its last piece does not begin with a tag. -/
theorem suffix_wrap_blockHtml {one first last : Text} {more : List Text}
    (hcode : Text.IsTrimmed isBlank code)
    (hinit : partsFrom [] (escape code) = one :: more ++ [last])
    (hlast : last.getLast? = (escape code).getLast?)
    (hparts : partsFrom [] (blockHtml code) = first :: more ++ [last ++ "</code></pre>"]) :
    ("</p>" : Text) <:+ wrap (blockHtml code) := by
  have hmem : ∃ d ∈ last, isBlank d = false := by
    have hescape : escape code ≠ [] := by
      intro hnil
      rw [hnil] at hinit
      exact absurd (congrArg List.length hinit) (by simp [partsFrom])
    have hsome := List.getLast?_eq_some_getLast hescape
    exact ⟨_, List.mem_of_getLast? (hlast.trans hsome), (isTrimmed_escape hcode).last _ hsome⟩
  obtain ⟨c, rest, hcut, hc⟩ := Text.exists_cons_of_takeWhile hmem
  have hhead : (Text.strip (last ++ ("</code></pre>" : Text))).head? = some c := by
    rw [hcut, List.append_assoc, List.cons_append]
    exact Text.head_strip_append (Text.forall_mem_takeWhile isBlank last) hc _
  have hnot : c ≠ '<' := by
    rintro rfl
    have hcount := count_partsFrom hc (List.forall_mem_nil _) (escape code)
    rw [hinit, List.count_eq_zero.mpr ((brackets_not_mem_escape code).1),
      List.count_eq_zero] at hcount
    exact hcount (List.mem_flatten.mpr ⟨last, by simp, by rw [hcut]; simp⟩)
  refine suffix_wrap hparts (fun hnil ↦ ?_) fun hless ↦ ?_
  · rw [hnil] at hhead
    exact absurd hhead (by simp)
  · exact hnot (Option.some.inj (hhead.symm.trans hless))

/-- If paragraphs leave a block of code, then it is the one that was there, and no line of it is
blank: a block in several parts would end with a paragraph. -/
theorem eq_of_wrap_blockHtml {shown : Text} (hcode : Text.IsTrimmed isBlank code)
    (hne : shown ≠ []) (h : wrap (blockHtml code) = blockHtml shown) :
    code = shown ∧ ∀ line ∈ Text.splitOn '\n' code, line ≠ [] := by
  obtain ⟨init, last, hinit, hlast, first, others, hfirst, hblock⟩ :=
    exists_partsFrom_blockHtml hcode
  cases init with
  | nil =>
    have hwhole : last = escape code := eq_of_partsFrom (endsWithInk_escape hcode) hinit
    obtain ⟨rfl, rfl⟩ := List.cons.inj hfirst
    have hone : wrap (blockHtml code) = blockHtml code :=
      wrap_of_partsFrom_blockHtml (hblock.trans (by rw [blockHtml_eq, hwhole]))
    obtain rfl := blockHtml_injective (hone.symm.trans h)
    exact ⟨rfl, ne_nil_of_partsFrom_escape hcode hne (hwhole ▸ hinit)⟩
  | cons one more =>
    obtain ⟨rfl, rfl⟩ := List.cons.inj hfirst
    have hsuffix : ("</p>" : Text) <:+ blockHtml shown :=
      h ▸ suffix_wrap_blockHtml hcode hinit hlast hblock
    have hend : ("</pre>" : Text) <:+ blockHtml shown := by
      rw [blockHtml_eq]
      exact ⟨"<pre><code>" ++ (escape shown ++ "</code>"), by simp⟩
    exact absurd (List.suffix_of_suffix_length_le hsuffix hend (by decide)) (by decide)

/-! ## Code that no pass changes -/

/-- Neither a pass over lines nor a pass over the whole text finds anything in the code. -/
structure IsUndisturbed (code : Text) : Prop where
  noTitle : ∀ line ∈ Text.splitOn '\n' code, itemTitle? line = none
  inert : ∀ line ∈ Text.splitOn '\n' (Text.strip code), line ≠ [] ∧ IsInert line
  noLink : Scan.IsFree link (escape (Text.strip code))
  unstressed : IsUnstressed (Text.strip code)

theorem count_blockHtml {c : Char} (hc : c ∈ keptSigns) (code : Text) :
    (blockHtml code).count c = code.count c := by
  have hentity : c ∉ entityChars := not_mem_of_isSignless hc (by decide)
  rw [blockHtml, count_element hc (by decide), count_element hc (by decide), count_escape hentity]

theorem isFree_link_blockHtml_iff :
    Scan.IsFree link (blockHtml t) ↔ Scan.IsFree link (escape t) := by
  have hfront : '[' ∉ ("<pre><code>" : Text) := by decide
  have hback : '[' ∉ ("</code></pre>" : Text) := by decide
  rw [blockHtml_eq, ← List.append_assoc]
  exact isFree_link_append_iff hfront hback (by decide)

theorem isUnstressed_blockHtml_iff : IsUnstressed (blockHtml t) ↔ IsUnstressed t := by
  have hfront : '*' ∉ ("<pre><code>" : Text) := by decide
  have hback : '*' ∉ ("</code></pre>" : Text) := by decide
  have hentity : '*' ∉ entityChars := by decide
  rw [blockHtml_eq, IsUnstressed, isFree_enclosedBy_append_left_iff Nat.one_pos hfront,
    isFree_enclosedBy_append_right_iff hback, isFree_enclosedBy_escape_iff hentity]
  rfl

/-- Code in a fence is shown as it is, exactly if no pass finds anything in it. -/
theorem renderSection_fenced_iff [LinkDefinition.Collector] [LinkDefinition.LawfulCollector]
    (h : '\x60' ∉ code) (hne : Text.strip code ≠ []) :
    renderSection {} (fenced code) = .ok (blockHtml (Text.strip code)) ↔ IsUndisturbed code := by
  have hle {c : Char} (hc : c ∈ keptSigns) (hfeed : c ≠ '\n') :
      (renderLines {} (withItemHeadings code)).count c ≤ code.count c :=
    (count_renderLines_le hc hfeed {} _).trans (count_withItemHeadings_le hc hfeed code)
  have hcount {c : Char} (hc : c ∈ keptSigns) (hink : isBlank c = false) :
      (blockHtml (Text.strip (renderLines {} (withItemHeadings code)))).count c ≤
        (blockHtml (Text.strip code)).count c := by
    have hfeed : c ≠ '\n' := by rintro rfl; exact absurd hink (by decide)
    rw [count_blockHtml hc, count_blockHtml hc, count_strip hink, count_strip hink]
    exact hle hc hfeed
  have hbacktick : '\x60' ∉ blockHtml (Text.strip (renderLines {} (withItemHeadings code))) := by
    have hle := hcount (c := '\x60') (by decide) (by decide)
    rw [count_blockHtml (by decide) (Text.strip code), count_strip (by decide)] at hle
    exact not_mem_of_count_le hle h
  rw [renderSection_fenced h, Except.ok.injEq]
  change wrap (emphasis (Scan.substitute link Link.element
    (blockHtml (Text.strip (renderLines {} (withItemHeadings code)))))) = _ ↔ _
  rw [wrap_emphasis_links_eq_iff (hcount (by decide) (by decide)) (hcount (by decide) (by decide)),
    codeSpans_of_not_mem hbacktick, isFree_link_blockHtml_iff, isUnstressed_blockHtml_iff]
  constructor
  · rintro ⟨hlink, hstress, hwrap⟩
    obtain ⟨hsame, hlines⟩ := eq_of_wrap_blockHtml (Text.isTrimmed_strip _) hne hwrap
    obtain ⟨htitles, hinert⟩ := (strip_renderLines_eq_iff code).mp hsame
    rw [hsame] at hlink hstress
    exact ⟨htitles, fun line hline ↦ ⟨hlines line (hsame ▸ hline), hinert line hline⟩, hlink,
      hstress⟩
  · intro hcode
    have hsame := (strip_renderLines_eq_iff code).mpr
      ⟨hcode.noTitle, fun line hline ↦ (hcode.inert line hline).2⟩
    rw [hsame]
    exact ⟨hcode.noLink, hcode.unstressed, wrap_blockHtml (Text.isTrimmed_strip code)
      fun line hline ↦ ⟨(hcode.inert line hline).1, (hcode.inert line hline).2.trimmed⟩⟩

end PluginReadme.Markup
