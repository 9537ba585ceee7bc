import PluginReadme.Proofs.Repair.Settled
import PluginReadme.Proofs.Text.Lines

/-!
# Repairing twice

A repaired line is a line of the text, a heading or code made from one, or a fence
(`RepairedLine`). So repaired lines hold no line feed, and a carriage return ends one of them only
where it ended a line before. In the indented style this is the last line at most, so the repaired
lines are found again in the repaired text. In the fenced style a block that nothing closes gets a
line after its last one, which is why a carriage return may not end the text there. Since the lines
are settled, repair changes nothing the second time.
-/

namespace PluginReadme.Repair

variable {style : Style} {ls : List Text}

/-! ## Where repaired lines come from -/

/-- A line becomes itself or a heading with a title from that line. -/
theorem lines_line (number : Nat) (content : Text) :
    (line number content).lines = [content] ∨
      ∃ n title, (n = 1 ∨ n = 2) ∧ (line number content).lines = [Heading.write n title] ∧
        ∀ c ∈ title, c ∈ content ∨ c = ' ' := by
  unfold line
  cases hheading : heading? number content with
  | some found =>
    obtain ⟨n, title, hn, -, hwrite, hmem⟩ := heading?_eq_some hheading
    exact Or.inr ⟨n, title, hn, congrArg (fun heading ↦ [heading]) hwrite,
      fun c hc ↦ Or.inl (hmem c hc)⟩
  | none =>
    cases hhashes : hashHeading? number content with
    | some found =>
      obtain ⟨n, title, hn, -, hwrite, hmem⟩ := hashHeading?_eq_some hhashes
      exact Or.inr ⟨n, title, hn, congrArg (fun heading ↦ [heading]) hwrite, hmem⟩
    | none => exact Or.inl rfl

/-- Where a line of a repaired chunk comes from. -/
inductive RepairedLine (content : List Text) : Text → Prop where
  | same {source : Text} (mem : source ∈ content) : RepairedLine content source
  | heading {source title : Text} {n : Nat} (mem : source ∈ content) (hn : n = 1 ∨ n = 2)
      (title_mem : ∀ c ∈ title, c ∈ source ∨ c = ' ') :
      RepairedLine content (Heading.write n title)
  | inlineCode {source : Text} (mem : source ∈ content) :
      RepairedLine content (inlineCode source)
  | unified {source : Text} (mem : source ∈ content) : RepairedLine content (tabsToSpaces source)
  | indented {source : Text} (mem : source ∈ content) :
      RepairedLine content ("    " ++ Text.stripLeft (tabsToSpaces source))
  | fence {language : Text} (word : ∀ c ∈ language, isWordChar c = true) :
      RepairedLine content (Fence.mark ++ language)

/-- Every line of a repaired chunk comes from its content, or stands for a fence. -/
theorem repairedLine_of_mem_chunk {c : Chunk} (hcut : c.IsCut) {line : Text}
    (h : line ∈ (chunk style c).lines) : RepairedLine c.content line := by
  cases c with
  | line number content =>
    have hcontent : content ∈ [content] := List.mem_cons_self
    change line ∈ (Repair.line number content).lines at h
    rcases lines_line number content with heq | ⟨n, title, hn, heq, hmem⟩
    · rw [heq, List.mem_singleton] at h
      rw [h]
      exact .same hcontent
    · rw [heq, List.mem_singleton] at h
      rw [h]
      exact .heading hcontent hn hmem
  | block current =>
    obtain ⟨number, language, code, closed⟩ := current
    match code with
    | [] => exact absurd h List.not_mem_nil
    | [source] =>
      rw [List.mem_singleton.mp h]
      exact .inlineCode List.mem_cons_self
    | first :: second :: more =>
      cases style with
      | indented =>
        obtain ⟨unified, hmem, rfl⟩ := List.mem_map.mp h
        obtain ⟨source, hsource, rfl⟩ := List.mem_map.mp hmem
        exact .indented hsource
      | fenced =>
        rcases List.mem_append.mp h with h | h
        · rcases List.mem_cons.mp h with rfl | h
          · exact .fence (opening?_eq_some hcut.1).2
          · obtain ⟨source, hsource, rfl⟩ := List.mem_map.mp h
            exact .unified hsource
        · rw [List.mem_singleton.mp h, ← List.append_nil Fence.mark]
          exact .fence fun _ hc ↦ absurd hc List.not_mem_nil

theorem RepairedLine.mono {content : List Text} {line : Text} (h : RepairedLine content line)
    (hsubset : content ⊆ ls) : RepairedLine ls line := by
  cases h with
  | same hmem => exact .same (hsubset hmem)
  | heading hmem hn htitle => exact .heading (hsubset hmem) hn htitle
  | inlineCode hmem => exact .inlineCode (hsubset hmem)
  | unified hmem => exact .unified (hsubset hmem)
  | indented hmem => exact .indented (hsubset hmem)
  | fence hword => exact .fence hword

/-- A repaired line is empty or comes from a line of the text or from a fence. -/
theorem repairedLine_of_mem_lines {line : Text} (h : line ∈ (lines style ls).lines) :
    line = [] ∨ RepairedLine ls line := by
  rcases mem_of_mem_cutBlanksFrom h with rfl | h
  · exact Or.inl rfl
  · obtain ⟨outcome, houtcome, hline⟩ := List.mem_flatMap.mp h
    obtain ⟨c, hc, rfl⟩ := List.mem_map.mp houtcome
    refine Or.inr ((repairedLine_of_mem_chunk (isCut_of_mem_chunks hc) hline).mono ?_)
    intro source hsource
    exact (content_chunks_sublist ls).subset (List.mem_flatMap.mpr ⟨c, hc, hsource⟩)

/-! ## Line feeds -/

theorem mem_replaceFrom {old new t : Text} {skip : Nat} {c : Char}
    (h : c ∈ Text.replaceFrom old new skip t) : c ∈ new ∨ c ∈ t := by
  induction t generalizing skip with
  | nil => cases skip <;> exact absurd h List.not_mem_nil
  | cons d rest ih =>
    cases skip with
    | succ skip => exact (ih h).imp_right (List.mem_cons_of_mem d)
    | zero =>
      rw [Text.replaceFrom] at h
      split_ifs at h
      · rcases List.mem_append.mp h with h | h
        · exact Or.inl h
        · exact (ih h).imp_right (List.mem_cons_of_mem d)
      · rcases List.mem_cons.mp h with rfl | h
        · exact Or.inr List.mem_cons_self
        · exact (ih h).imp_right (List.mem_cons_of_mem d)

theorem feed_not_mem_inlineCode {code : Text} (h : '\n' ∉ code) : '\n' ∉ inlineCode code := by
  intro hmem
  rw [inlineCode, List.mem_append, List.mem_cons] at hmem
  rcases hmem with (heq | hmem) | hmem
  · exact absurd heq (by decide)
  · rcases mem_replaceFrom hmem with hmem | hmem
    · exact absurd hmem (by decide)
    · exact h (Text.mem_of_mem_trim hmem)
  · exact absurd hmem (by decide)

/-- Putting spaces in place of tabs changes the front of a line only. -/
theorem tabsToSpaces_eq_append (line : Text) :
    ∃ front tail : Text, tabsToSpaces line = front ++ tail ∧ (∀ c ∈ front, c = ' ') ∧
      tail <:+ line :=
  ⟨_, _, rfl, fun _ ↦ List.eq_of_mem_replicate, List.drop_suffix _ line⟩

theorem feed_not_mem_tabsToSpaces {line : Text} (h : '\n' ∉ line) : '\n' ∉ tabsToSpaces line := by
  obtain ⟨front, tail, heq, hfront, htail⟩ := tabsToSpaces_eq_append line
  rw [heq, List.mem_append, not_or]
  exact ⟨fun hmem ↦ absurd (hfront _ hmem) (by decide), fun hmem ↦ h (htail.subset hmem)⟩

theorem RepairedLine.feed_not_mem {content : List Text} {line : Text}
    (h : RepairedLine content line) (hcontent : ∀ source ∈ content, '\n' ∉ source) :
    '\n' ∉ line := by
  cases h with
  | same hmem => exact hcontent _ hmem
  | heading hmem _ htitle =>
    apply Heading.feed_not_mem_write
    intro hfeed
    rcases htitle _ hfeed with hfeed | hfeed
    · exact hcontent _ hmem hfeed
    · exact absurd hfeed (by decide)
  | inlineCode hmem => exact feed_not_mem_inlineCode (hcontent _ hmem)
  | unified hmem => exact feed_not_mem_tabsToSpaces (hcontent _ hmem)
  | indented hmem =>
    rw [List.mem_append, not_or]
    refine ⟨by decide, fun hfeed ↦ ?_⟩
    exact feed_not_mem_tabsToSpaces (hcontent _ hmem) ((List.dropWhile_suffix isBlank).subset hfeed)
  | fence hword =>
    rw [List.mem_append, not_or]
    refine ⟨by decide, fun hfeed ↦ ?_⟩
    exact absurd (hword _ hfeed) (by decide)

/-- No line feed gets into a line. -/
theorem feed_not_mem_lines (h : ∀ line ∈ ls, '\n' ∉ line) :
    ∀ line ∈ (lines style ls).lines, '\n' ∉ line := by
  intro line hline
  rcases repairedLine_of_mem_lines hline with rfl | hrepaired
  · exact List.not_mem_nil
  · exact hrepaired.feed_not_mem h

/-! ## Carriage returns -/

theorem getLast_append_ne_return {front tail line : Text} (hfront : '\r' ∉ front)
    (htail : tail <:+ line) (h : line.getLast? ≠ some '\r') :
    (front ++ tail).getLast? ≠ some '\r' := by
  obtain ⟨start, rfl⟩ := htail
  rw [List.getLast?_append] at h ⊢
  cases hlast : tail.getLast? with
  | none =>
    rw [Option.none_or]
    exact fun hreturn ↦ hfront (List.mem_of_getLast? hreturn)
  | some c =>
    rw [hlast] at h
    exact h

theorem getLast_tabsToSpaces_ne_return {line : Text} (h : line.getLast? ≠ some '\r') :
    (tabsToSpaces line).getLast? ≠ some '\r' := by
  obtain ⟨front, tail, heq, hfront, htail⟩ := tabsToSpaces_eq_append line
  rw [heq]
  exact getLast_append_ne_return (fun hmem ↦ absurd (hfront _ hmem) (by decide)) htail h

theorem getLast_indented_ne_return {line : Text} (h : line.getLast? ≠ some '\r') :
    ("    " ++ Text.stripLeft (tabsToSpaces line) : Text).getLast? ≠ some '\r' :=
  getLast_append_ne_return (by decide) (List.dropWhile_suffix isBlank)
    (getLast_tabsToSpaces_ne_return h)

theorem getLast_inlineCode_ne_return (code : Text) :
    (inlineCode code).getLast? ≠ some '\r' := by
  rw [inlineCode, List.getLast?_append]
  exact fun heq ↦ absurd (Option.some.inj heq) (by decide)

/-- Where no line of a chunk ends with a carriage return, none of its repaired lines does. -/
theorem RepairedLine.getLast_ne_return {content : List Text} {line : Text}
    (h : RepairedLine content line) (hcontent : ∀ source ∈ content, source.getLast? ≠ some '\r') :
    line.getLast? ≠ some '\r' := by
  cases h with
  | same hmem => exact hcontent _ hmem
  | heading _ hn _ =>
    rw [Heading.getLast_write (by omega)]
    decide
  | @inlineCode source _ => exact getLast_inlineCode_ne_return source
  | unified hmem => exact getLast_tabsToSpaces_ne_return (hcontent _ hmem)
  | indented hmem => exact getLast_indented_ne_return (hcontent _ hmem)
  | fence hword =>
    intro hreturn
    rcases List.mem_append.mp (List.mem_of_getLast? hreturn) with hmem | hmem
    · exact absurd hmem (by decide)
    · exact absurd (hword _ hmem) (by decide)

/-- Indented code has its lines where they were, so only the last may end with a carriage return. -/
theorem feedSafe_chunk_indented {c : Chunk} (h : Text.FeedSafe c.content) :
    Text.FeedSafe (chunk .indented c).lines := by
  cases c with
  | line number content =>
    change Text.FeedSafe (line number content).lines
    rcases lines_line number content with heq | ⟨n, title, -, heq, -⟩
    · rw [heq]
      exact List.pairwise_singleton _ _
    · rw [heq]
      exact List.pairwise_singleton _ _
  | block current =>
    obtain ⟨number, language, code, closed⟩ := current
    match code with
    | [] => exact List.Pairwise.nil
    | [source] => exact List.pairwise_singleton _ _
    | first :: second :: more =>
      change List.Pairwise (fun line _ ↦ line.getLast? ≠ some '\r')
        (((first :: second :: more).map tabsToSpaces).map fun code ↦ "    " ++ Text.stripLeft code)
      rw [List.map_map, List.pairwise_map]
      exact List.Pairwise.imp (fun hreturn ↦ getLast_indented_ne_return hreturn) h

theorem content_ne_nil_of_lines_ne_nil {c : Chunk} (h : (chunk style c).lines ≠ []) :
    c.content ≠ [] := by
  cases c with
  | line number content => exact List.cons_ne_nil _ _
  | block current =>
    intro hnil
    obtain ⟨number, language, code, closed⟩ := current
    obtain rfl : code = [] := hnil
    exact h rfl

/-- Cutting blank lines brings no carriage return before a line feed. -/
theorem feedSafe_cutBlanksFrom (run : Nat) (h : Text.FeedSafe ls) :
    Text.FeedSafe (cutBlanksFrom run ls) := by
  induction ls generalizing run with
  | nil => exact List.Pairwise.nil
  | cons line ls ih =>
    obtain ⟨hline, hrest⟩ := List.pairwise_cons.mp h
    rw [cutBlanksFrom]
    split_ifs
    · exact List.Pairwise.cons (fun _ _ ↦ by decide) (ih _ hrest)
    · exact ih _ hrest
    · refine List.Pairwise.cons (fun other hother ↦ ?_) (ih _ hrest)
      cases ls with
      | nil => exact absurd hother List.not_mem_nil
      | cons second ls => exact hline second List.mem_cons_self

theorem feedSafe_lines_indented (h : Text.FeedSafe ls) :
    Text.FeedSafe (lines .indented ls).lines := by
  apply feedSafe_cutBlanksFrom
  obtain ⟨hinside, hbetween⟩ := List.pairwise_flatMap.mp (h.sublist (content_chunks_sublist ls))
  rw [Text.FeedSafe, List.flatMap_map, List.pairwise_flatMap]
  refine ⟨fun c hc ↦ feedSafe_chunk_indented (hinside c hc), hbetween.imp_of_mem ?_⟩
  intro c next hc _ hends line hline other hother
  obtain ⟨source, hsource⟩ :=
    List.exists_mem_of_ne_nil _ (content_ne_nil_of_lines_ne_nil (List.ne_nil_of_mem hother))
  exact (repairedLine_of_mem_chunk (isCut_of_mem_chunks hc) hline).getLast_ne_return
    fun own hown ↦ hends own hown source hsource

/-- A repaired line ends with a carriage return only if a line of the text did. -/
theorem getLast_lines_ne_return (h : ∀ line ∈ ls, line.getLast? ≠ some '\r') :
    ∀ line ∈ (lines style ls).lines, line.getLast? ≠ some '\r' := by
  intro line hline
  rcases repairedLine_of_mem_lines hline with rfl | hrepaired
  · decide
  · exact hrepaired.getLast_ne_return h

end PluginReadme.Repair

namespace PluginReadme

open Repair

/-! ## Texts -/

/-- The repaired lines can be joined with line feeds. -/
theorem feedSafe_repaired {style : Style} {t : Text}
    (h : style = .fenced → t.getLast? ≠ some '\r') (hreturn : Text.hasCarriageReturn t = false) :
    Text.FeedSafe (Repair.lines style (Text.lines t)).lines := by
  cases style with
  | indented => exact feedSafe_lines_indented (Text.feedSafe_lines hreturn)
  | fenced =>
    apply Text.feedSafe_of_forall
    exact getLast_lines_ne_return (Text.forall_lines_getLast_ne_return hreturn (h rfl))

/-- The lines of a repaired text are the repaired lines, unless there are none. -/
theorem lines_repair {style : Style} {t : Text} (h : style = .fenced → t.getLast? ≠ some '\r')
    (hne : (Repair.lines style (Text.lines t)).lines ≠ []) :
    Text.lines (repair style t).text = (Repair.lines style (Text.lines t)).lines :=
  Text.lines_join_lineEnd hne (feed_not_mem_lines fun _ ↦ Text.feed_not_mem_of_mem_lines)
    (feedSafe_repaired h)

/-- Repairing a repaired text gives the same text and an empty log. A carriage return may end the
text in the indented style only. -/
theorem repair_repair (style : Style) (t : Text)
    (h : style = .fenced → t.getLast? ≠ some '\r') :
    repair style (repair style t).text = ⟨(repair style t).text, []⟩ := by
  by_cases hnil : (Repair.lines style (Text.lines t)).lines = []
  · have htext : (repair style t).text = [] := by
      change Text.join _ (Repair.lines style (Text.lines t)).lines = []
      rw [hnil]
      rfl
    rw [htext]
    cases style <;> rfl
  · have hagain := lines_lines style (Text.lines t)
    have hjoin : Text.join (Text.lineEnd (repair style t).text)
        (Repair.lines style (Text.lines t)).lines = (repair style t).text :=
      Text.join_lineEnd_join (feed_not_mem_lines fun _ ↦ Text.feed_not_mem_of_mem_lines)
        (feedSafe_repaired h)
    calc
      repair style (repair style t).text =
          ⟨Text.join (Text.lineEnd (repair style t).text)
              (Repair.lines style (Text.lines (repair style t).text)).lines,
            (Repair.lines style (Text.lines (repair style t).text)).changes⟩ := rfl
      _ = ⟨(repair style t).text, []⟩ := by rw [lines_repair h hnil, hagain, hjoin]

/-- A block that nothing closes. -/
theorem repair_repair_unclosed :
    "```php\n\tx\n y\n#B".toList.getLast? ≠ some '\r' ∧
      repair .fenced (repair .fenced "```php\n\tx\n y\n#B".toList).text =
        ⟨"```php\n    x\n y\n#B\n```".toList, []⟩ :=
  ⟨by decide, (repair_repair .fenced _ fun _ ↦ by decide).trans (by decide)⟩

end PluginReadme
