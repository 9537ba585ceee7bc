import PluginReadme.Proofs.Markup.Fenced
import PluginReadme.Proofs.Markup.Paired

/-!
# Code as it is shown

Between two backticks on a line of its own, code is out of reach for every pass over lines, but it
is read for links before and for emphasis after it becomes an element (`renderSection_spanned_iff`).
Together with code in a fence this settles when code is shown as it was written
(`renderSection_code_iff`).
-/

namespace PluginReadme.Markup

variable {options : Options} {code : Text}

/-! ## Code between backticks -/

/-- Code that can stand between backticks on one line: it is not empty, has no backtick and no blank
at either end. -/
structure IsSpanCode (code : Text) : Prop where
  ne_nil : code ≠ []
  backtick : '\x60' ∉ code
  feed : '\n' ∉ code
  ret : '\r' ∉ code
  trimmed : Text.IsTrimmed isBlank code

theorem isTrimmed_spanned (code : Text) : Text.IsTrimmed isBlank (spanned code) where
  head := fun _ hc ↦ Option.some.inj hc ▸ by decide
  last := fun c hc ↦ by
    rw [spanned, List.getLast?_append] at hc
    exact Option.some.inj hc ▸ by decide

theorem strip_spanned (code : Text) : Text.strip (spanned code) = spanned code :=
  Text.trim_eq_self (isTrimmed_spanned code)

theorem renderedLine_spanned (options : Options) (code : Text) :
    renderedLine options (spanned code) = spanned code :=
  (renderedLine_of_backtick options (strip_spanned code)).trans (strip_spanned code)

theorem standsAlone_spanned (code : Text) : StandsAlone (spanned code) := standsAlone_of_backtick _

theorem itemTitle?_spanned (code : Text) : itemTitle? (spanned code) = none := by
  rw [Option.eq_none_iff_forall_ne_some]
  intro title htitle
  have hhead := (itemTitle?_eq_some htitle).1
  rw [strip_spanned] at hhead
  exact absurd (Option.some.inj hhead) (by decide)

namespace IsSpanCode

variable (h : IsSpanCode code)

include h

theorem feed_not_mem_spanned : '\n' ∉ spanned code := by
  simpa [spanned] using h.feed

theorem splitOn_spanned : Text.splitOn '\n' (spanned code) = [spanned code] :=
  Text.splitOn_of_not_mem h.feed_not_mem_spanned

theorem withItemHeadings_spanned : withItemHeadings (spanned code) = spanned code := by
  apply withItemHeadings_of_forall
  rw [h.splitOn_spanned]
  exact List.forall_mem_singleton.mpr (itemTitle?_spanned code)

theorem paired : Paired [code] (spanned code) := paired_spanned h.ne_nil h.backtick

theorem escapeLine_spanned : escapeLine (spanned code) = spanned code := by
  have hread := codeSpan_spanned_append h.backtick []
  rw [List.append_nil] at hread
  rw [escapeLine, Scan.pieces_of_whole hread (by simp [spanned]) (List.cons_ne_nil _ _)]
  simp [Scan.stretches]

/-- No pass over lines finds anything in a span. -/
theorem renderLines_spanned :
    renderLines options (escapeRawTags (spanned code)) = spanned code := by
  have hescape : escapeRawTags (spanned code) = spanned code := by
    rw [escapeRawTags, Text.lines_of_not_mem h.feed_not_mem_spanned, escapeLinesFrom,
      if_neg (by simp [h.paired.isFence_eq_false]), if_neg Bool.false_ne_true, h.escapeLine_spanned]
    exact Text.join_singleton _ _
  calc
    renderLines options (escapeRawTags (spanned code)) =
        Text.join ['\n'] (grouped [renderedLine options (spanned code)]) := by
      rw [hescape, renderLines_eq_join, h.splitOn_spanned, List.map_singleton]
    _ = Text.join ['\n'] [spanned code] := by
      rw [renderedLine_spanned, grouped_cons (standsAlone_spanned code), grouped_nil]
    _ = spanned code := Text.join_singleton _ _

/-- A span becomes one element. -/
theorem codeSpans_spanned : codeSpans (spanned code) = element "code" (escape code) := by
  have hread := enclosedBy_spanned_append h.ne_nil h.backtick []
  rw [List.append_nil] at hread
  exact Scan.substitute_of_whole hread (by simp [spanned]) (List.cons_ne_nil _ _)

/-- A span alone becomes one paragraph. -/
theorem wrap_code : wrap (element "code" (escape code)) =
    element "p" (element "code" (escape code)) := by
  have hfeed : '\n' ∉ escape code := by
    rw [mem_escape_iff (by decide)]
    exact h.feed
  have helement : element "code" (escape code) = "<code>" ++ (escape code ++ "</code>") := by
    simp [element]
  have hline : '\n' ∉ element "code" (escape code) := by
    simpa [element] using hfeed
  have hparts : partsFrom [] (element "code" (escape code)) = [element "code" (escape code)] := by
    have hjoin : partsFrom [] (Text.join ['\n'] [element "code" (escape code)]) =
        [[] ++ Text.join ['\n'] [element "code" (escape code)]] :=
      partsFrom_join (List.cons_ne_nil _ _) (by decide) fun other hother ↦ by
        rw [List.mem_singleton.mp hother]
        exact ⟨hline, List.cons_ne_nil _ _, (isElement_element _ _).isTrimmed⟩
    rwa [Text.join_singleton, List.nil_append] at hjoin
  rw [wrap_of_partsFrom hparts (isElement_element _ _).isTrimmed (List.cons_ne_nil _ _), helement]
  refine paragraph_of_code fun hmem ↦ ?_
  rcases List.mem_append.mp hmem with hmem | hmem
  · exact hfeed hmem
  · exact absurd hmem (by decide)

/-- Code between backticks is shown as it is, exactly if it holds no link and no emphasis. -/
theorem renderSection_spanned_iff [LinkDefinition.Collector] [LinkDefinition.LawfulCollector] :
    renderSection {} (spanned code) = .ok (element "p" (element "code" (escape code))) ↔
      Scan.IsFree link code ∧ IsUnstressed code := by
  have hcount {c : Char} (hc : c ∈ keptSigns) (hne : c ≠ '\x60') : (spanned code).count c ≤
      (element "p" (element "code" (escape code))).count c := by
    have hentity : c ∉ entityChars := not_mem_of_isSignless hc (by decide)
    have hmark : ['\x60'].count c = 0 := List.count_eq_zero.mpr (by simpa using hne)
    calc
      (spanned code).count c = code.count c + ['\x60'].count c := by
        rw [spanned, List.count_append, List.count_cons_of_ne (Ne.symm hne)]
      _ = (escape code).count c := by rw [hmark, Nat.add_zero, count_escape hentity]
      _ = (element "code" (escape code)).count c := (count_element hc (by decide) _).symm
      _ ≤ (element "p" (element "code" (escape code))).count c :=
        Nat.le_of_eq (count_element hc (by decide) _).symm
  have hlink : Scan.IsFree link (spanned code) ↔ Scan.IsFree link code :=
    isFree_link_append_iff (show '[' ∉ ['\x60'] by decide) (by decide) (by decide)
  have hstress : IsUnstressed (element "code" (escape code)) ↔ IsUnstressed code := by
    have hfront : '*' ∉ ("<code>" : Text) := by decide
    have hback : '*' ∉ ("</code>" : Text) := by decide
    have hentity : '*' ∉ entityChars := by decide
    rw [show element "code" (escape code) = "<code>" ++ (escape code ++ "</code>") by
      simp [element], IsUnstressed, isFree_enclosedBy_append_left_iff Nat.one_pos hfront,
      isFree_enclosedBy_append_right_iff hback, isFree_enclosedBy_escape_iff hentity]
    rfl
  have hdefinitions :
      LinkDefinition.Collector.definitions (withItemHeadings (spanned code)) = .ok [] := by
    rw [h.withItemHeadings_spanned]
    exact LinkDefinition.LawfulCollector.codeSpan h.ne_nil h.backtick h.feed h.ret
  have hrender : renderSection {} (spanned code) =
      .ok (wrap (emphasis (Scan.substitute link Link.element (spanned code)))) := by
    rw [renderSection_of_definitions hdefinitions, h.withItemHeadings_spanned,
      h.renderLines_spanned, h.paired.codeBlocks_eq]
  rw [hrender, Except.ok.injEq]
  calc
    wrap (emphasis (Scan.substitute link Link.element (spanned code))) =
        element "p" (element "code" (escape code)) ↔
        Scan.IsFree link (spanned code) ∧ IsUnstressed (codeSpans (spanned code)) ∧
          wrap (codeSpans (spanned code)) = element "p" (element "code" (escape code)) :=
      wrap_emphasis_links_eq_iff (hcount (by decide) (by decide)) (hcount (by decide) (by decide))
    _ ↔ Scan.IsFree link code ∧ IsUnstressed code ∧
          wrap (element "code" (escape code)) = element "p" (element "code" (escape code)) := by
      rw [hlink, h.codeSpans_spanned, hstress]
    _ ↔ Scan.IsFree link code ∧ IsUnstressed code := by
      rw [h.wrap_code]
      exact and_congr_right fun _ ↦ and_iff_left rfl

end IsSpanCode

/-! ## Both kinds of code -/

/-- Code is shown as it is, in a fence or between backticks, exactly if no pass finds anything in
it: the passes before code is recognised read lines, and those after it read links and emphasis. -/
theorem renderSection_code_iff [LinkDefinition.Collector] [LinkDefinition.LawfulCollector] :
    (∀ code, '\x60' ∉ code → Text.strip code ≠ [] →
      (renderSection {} (fenced code) = .ok (blockHtml (Text.strip code)) ↔ IsUndisturbed code)) ∧
    ∀ code, IsSpanCode code →
      (renderSection {} (spanned code) = .ok (element "p" (element "code" (escape code))) ↔
        Scan.IsFree link code ∧ IsUnstressed code) :=
  ⟨fun _ ↦ renderSection_fenced_iff, fun _ h ↦ h.renderSection_spanned_iff⟩

theorem isSpanCode_product : IsSpanCode "a[0] < b * c" where
  ne_nil := by decide
  backtick := by decide
  feed := by decide
  ret := by decide
  trimmed := ⟨fun _ hc ↦ Option.some.inj hc ▸ by decide, fun _ hc ↦ Option.some.inj hc ▸ by decide⟩

/-- Indexing, comparison and one asterisk are no marks. -/
theorem renderSection_code_iff_product :
    ('\x60' ∉ ("if a[0] < 2:\nreturn b * c" : Text) ∧
      Text.strip "if a[0] < 2:\nreturn b * c" ≠ [] ∧
      IsUndisturbed "if a[0] < 2:\nreturn b * c") ∧
    IsSpanCode "a[0] < b * c" ∧ Scan.IsFree link "a[0] < b * c" ∧ IsUnstressed "a[0] < b * c" :=
  ⟨⟨by decide, by decide,
      (renderSection_code_iff.1 _ (by decide) (by decide)).mp (by decide +kernel)⟩,
    isSpanCode_product, (renderSection_code_iff.2 _ isSpanCode_product).mp (by decide +kernel)⟩

/-- Two asterisks are emphasis inside of code as well. -/
theorem not_renderSection_code_emphasis :
    (¬ ∀ code, '\x60' ∉ code → Text.strip code ≠ [] →
      renderSection {} (fenced code) = .ok (blockHtml (Text.strip code))) ∧
    ¬ ∀ code, IsSpanCode code →
      renderSection {} (spanned code) = .ok (element "p" (element "code" (escape code))) := by
  have hspan : IsSpanCode "*x*" :=
    ⟨by decide, by decide, by decide, by decide,
      ⟨fun _ hc ↦ Option.some.inj hc ▸ by decide, fun _ hc ↦ Option.some.inj hc ▸ by decide⟩⟩
  have hfenced : renderSection {} (fenced "*x*") =
      .ok ("<pre><code><em>x</em></code></pre>" : Text) := by decide +kernel
  have hspanned : renderSection {} (spanned "*x*") =
      .ok ("<p><code><em>x</em></code></p>" : Text) := by decide +kernel
  constructor
  · intro h
    exact absurd (hfenced.symm.trans (h "*x*" (by decide) (by decide))) (by decide)
  · intro h
    exact absurd (hspanned.symm.trans (h "*x*" hspan)) (by decide)

end PluginReadme.Markup
