import PluginReadme.Proofs.Text.Lines
import PluginReadme.Proofs.Text.Trim
import PluginReadme.Repair.Basic

/-!
# Ink

The ink of a text is what is left when blanks and the signs of markup are deleted. Trimming,
joining, collapsing blanks, writing a heading and quoting code only touch what is deleted, so none
of them changes the ink. A repaired line has the ink of the line (`ink_line`), and a repaired block
has the ink of the lines inside and sometimes of its word (`ink_block`).
-/

namespace PluginReadme.Repair

variable {t : Text}

/-- A blank or a sign that markup is made of. -/
def isMarkup (c : Char) : Bool :=
  isBlank c || c == '=' || c == '#' || c == '\x60' || c == '\\'

/-- The text without blanks and signs of markup. -/
def ink (t : Text) : Text := t.filter fun c ↦ !isMarkup c

/-! ## Texts -/

@[simp]
theorem ink_append (front tail : Text) : ink (front ++ tail) = ink front ++ ink tail :=
  List.filter_append front tail

theorem ink_eq_nil (h : ∀ c ∈ t, isMarkup c = true) : ink t = [] := by
  rw [ink, List.filter_eq_nil_iff]
  intro c hc
  simp [h c hc]

theorem isMarkup_of_isBlank {c : Char} (h : isBlank c = true) : isMarkup c = true := by
  simp [isMarkup, h]

theorem ink_of_blank (h : ∀ c ∈ t, isBlank c = true) : ink t = [] :=
  ink_eq_nil fun c hc ↦ isMarkup_of_isBlank (h c hc)

theorem ink_replicate {c : Char} (h : isMarkup c = true) (n : Nat) :
    ink (List.replicate n c) = [] :=
  ink_eq_nil fun _ hd ↦ List.eq_of_mem_replicate hd ▸ h

theorem ink_cons {c : Char} (h : isMarkup c = true) (t : Text) : ink (c :: t) = ink t :=
  List.filter_cons_of_neg (by simp [h])

section Dropping

variable {p : Char → Bool} (hp : ∀ c, p c = true → isMarkup c = true)

include hp

theorem ink_dropWhile (t : Text) : ink (t.dropWhile p) = ink t := by
  have hdropped : ink (t.takeWhile p) = [] :=
    ink_eq_nil fun c hc ↦ hp c (Text.forall_mem_takeWhile p t c hc)
  conv_rhs => rw [← List.takeWhile_append_dropWhile (p := p) (l := t), ink_append, hdropped]
  rfl

theorem ink_dropEndWhile (t : Text) : ink (Text.dropEndWhile p t) = ink t := by
  have hdropped : ink (Text.takeEndWhile p t) = [] :=
    ink_eq_nil fun c hc ↦ hp c (Text.forall_mem_takeEndWhile p t c hc)
  conv_rhs => rw [← Text.dropEndWhile_append_takeEndWhile p t, ink_append, hdropped]
  rw [List.append_nil]

/-- Dropping signs from a run at the front leaves the ink. -/
theorem ink_drop {n : Nat} (t : Text) (hn : n ≤ (t.takeWhile p).length) :
    ink (t.drop n) = ink t := by
  have hdropped : ink (t.take n) = [] := by
    refine ink_eq_nil fun c hc ↦ hp c (Text.forall_mem_takeWhile p t c ?_)
    rw [← List.takeWhile_append_dropWhile (p := p) (l := t),
      List.take_append_of_le_length hn] at hc
    exact List.mem_of_mem_take hc
  conv_rhs => rw [← List.take_append_drop n t, ink_append, hdropped]
  rfl

end Dropping

theorem ink_strip (t : Text) : ink (Text.strip t) = ink t := by
  rw [Text.strip, Text.trim, ink_dropEndWhile fun _ ↦ isMarkup_of_isBlank,
    ink_dropWhile fun _ ↦ isMarkup_of_isBlank]

theorem ink_stripLeft (t : Text) : ink (Text.stripLeft t) = ink t :=
  ink_dropWhile (fun _ ↦ isMarkup_of_isBlank) t

theorem ink_collapseFrom (least : Nat) {run : Text} (hrun : ∀ c ∈ run, isBlank c = true)
    (t : Text) : ink (Text.collapseFrom least run t) = ink t := by
  have hspace : isMarkup ' ' = true := rfl
  have hreverse {run : Text} (hrun : ∀ c ∈ run, isBlank c = true) : ink run.reverse = [] :=
    ink_of_blank fun c hc ↦ hrun c (List.mem_reverse.mp hc)
  induction t generalizing run with
  | nil =>
    rw [Text.collapseFrom]
    split
    · rfl
    · exact hreverse hrun
  | cons c rest ih =>
    have hrest : ink (Text.collapseFrom least [] rest) = ink rest := ih (by simp)
    have hcons : ink (c :: Text.collapseFrom least [] rest) = ink (c :: rest) := by
      rw [← List.singleton_append, ink_append, hrest, ← ink_append, List.singleton_append]
    rw [Text.collapseFrom]
    split_ifs with hblank
    · rw [ih (List.forall_mem_cons.mpr ⟨hblank, hrun⟩), ink_cons (isMarkup_of_isBlank hblank)]
    · exact hcons
    · rw [ink_cons hspace, hcons]
    · rw [ink_append, hreverse hrun, hcons, List.nil_append]

theorem ink_collapseRuns (t : Text) : ink (Text.collapseRuns t) = ink t :=
  ink_collapseFrom 2 (by simp) t

/-! ## Lines -/

/-- Between lines no ink is added. -/
theorem ink_join {glue : Text} (hglue : ink glue = []) (ls : List Text) :
    ink (Text.join glue ls) = ls.flatMap ink := by
  induction ls with
  | nil => rfl
  | cons line ls ih =>
    by_cases hnil : ls = []
    · rw [hnil, Text.join_singleton]
      simp
    · calc
        ink (Text.join glue (line :: ls)) = ink line ++ ink glue ++ ink (Text.join glue ls) := by
          rw [Text.join_cons hnil, ink_append, ink_append]
        _ = ink line ++ ls.flatMap ink := by rw [hglue, List.append_nil, ih]
        _ = (line :: ls).flatMap ink := by rw [List.flatMap_cons]

/-- Line ends have no ink. -/
theorem flatMap_ink_lines (t : Text) : (Text.lines t).flatMap ink = ink t := by
  induction t using Text.lines_induction with
  | last line hline =>
    rw [Text.lines_of_not_mem hline]
    simp
  | feed line rest hline ih =>
    have hreturn : ink (Text.dropFinalReturn line) = ink line := by
      rcases Text.dropFinalReturn_cases line with heq | heq
      · rw [heq]
      · conv_rhs => rw [heq, ink_append, show ink ['\r'] = [] from rfl, List.append_nil]
    calc
      (Text.lines (line ++ '\n' :: rest)).flatMap ink =
          ink (Text.dropFinalReturn line) ++ (Text.lines rest).flatMap ink := by
        rw [Text.lines_append_feed hline, List.flatMap_cons]
      _ = ink line ++ ink rest := by rw [hreturn, ih]
      _ = ink (line ++ '\n' :: rest) := by rw [ink_append, ink_cons (by rfl)]

theorem ink_lineEnd (t : Text) : ink (Text.lineEnd t) = [] := by
  rw [Text.lineEnd]
  split <;> rfl

/-- Blank lines have no ink. -/
theorem flatMap_ink_cutBlanksFrom (run : Nat) (ls : List Text) :
    (cutBlanksFrom run ls).flatMap ink = ls.flatMap ink := by
  induction ls generalizing run with
  | nil => rfl
  | cons line ls ih =>
    rw [cutBlanksFrom, List.flatMap_cons]
    split_ifs with hblank hrun
    · rw [List.flatMap_cons, ih, ink_of_blank (List.all_eq_true.mp hblank)]
      rfl
    · rw [ih, ink_of_blank (List.all_eq_true.mp hblank), List.nil_append]
    · rw [List.flatMap_cons, ih]

/-! ## Headings -/

theorem isMarkup_of_isMark {c : Char} (h : Heading.isMark c = true) : isMarkup c = true := by
  rw [Heading.isMark, beq_iff_eq] at h
  exact h ▸ rfl

theorem isMarkup_of_isHash {c : Char} (h : Heading.isHash c = true) : isMarkup c = true := by
  rw [Heading.isHash, beq_iff_eq] at h
  exact h ▸ rfl

theorem ink_write (n : Nat) (title : Text) : ink (Heading.write n title) = ink title := by
  have hmarks : ink (List.replicate n '=') = [] := ink_replicate rfl n
  calc
    ink (Heading.write n title) =
        ink (List.replicate n '=') ++ ink (' ' :: title) ++
          ink (' ' :: List.replicate n '=') := by
      rw [Heading.write, ink_append, ink_append]
    _ = ink title := by
      rw [ink_cons (by rfl), ink_cons (by rfl), hmarks, List.nil_append, List.append_nil]

theorem ink_enclosed (line : Text) : ink (enclosed line).2.1 = ink line := by
  unfold enclosed
  dsimp only
  split_ifs with hempty hlength
  · rw [List.isEmpty_iff, List.dropWhile_eq_nil_iff] at hempty
    exact (ink_eq_nil fun c hc ↦ isMarkup_of_isMark (hempty c hc)).symm
  · rw [List.isEmpty_iff, List.dropWhile_eq_nil_iff] at hempty
    exact (ink_eq_nil fun c hc ↦ isMarkup_of_isMark (hempty c hc)).symm
  · rw [ink_dropEndWhile fun _ ↦ isMarkup_of_isMark, ink_dropWhile fun _ ↦ isMarkup_of_isMark]

/-- A heading written anew keeps its ink. -/
theorem ink_of_heading? {number : Nat} {line heading : Text} {change : Change}
    (h : heading? number line = some (heading, change)) : ink heading = ink line := by
  have hwrite (isSection : Bool) :
      ink (headingOf isSection (Text.strip (enclosed (Text.strip line)).2.1)) = ink line := by
    rw [headingOf, ink_write, ink_strip, ink_enclosed, ink_strip]
  unfold heading? at h
  dsimp only at h
  split_ifs at h
  all_goals
    rw [← (Prod.mk.inj (Option.some.inj h)).1]
    exact hwrite _

theorem ink_withoutClosingHashes (title : Text) :
    ink (Heading.withoutClosingHashes title) = ink title := by
  unfold Heading.withoutClosingHashes
  dsimp only
  split
  · rw [ink_strip, ink_dropEndWhile fun _ ↦ isMarkup_of_isHash]
  · exact ink_strip title

/-- A heading in place of number signs keeps its ink. -/
theorem ink_of_ofHashes? {line heading : Text} (h : Heading.ofHashes? line = some heading) :
    ink heading = ink line := by
  unfold Heading.ofHashes? at h
  dsimp only at h
  split_ifs at h
  all_goals
    rw [← Option.some.inj h, ink_write, ink_collapseRuns, ink_withoutClosingHashes, ink_stripLeft,
      ink_drop (fun _ ↦ isMarkup_of_isHash) (Text.strip line) (Nat.min_le_right 6 _), ink_strip]

/-- A repaired line has the ink of the line. -/
theorem ink_line (number : Nat) (content : Text) :
    (line number content).lines.flatMap ink = ink content := by
  unfold line
  cases hheading : heading? number content with
  | some found =>
    change ink found.1 ++ [] = ink content
    rw [ink_of_heading? hheading, List.append_nil]
  | none =>
    cases hhashes : hashHeading? number content with
    | some found =>
      have hfound : ink found.1 = ink content := by
        unfold hashHeading? at hhashes
        split_ifs at hhashes
        obtain ⟨heading, hheading, heq⟩ := Option.map_eq_some_iff.mp hhashes
        rw [← heq]
        exact ink_of_ofHashes? hheading
      change ink found.1 ++ [] = ink content
      rw [hfound, List.append_nil]
    | none => exact List.append_nil _

/-! ## Blocks -/

theorem ink_quoteBackticks (t : Text) :
    ink (Text.replaceAll ['\x60'] ['\\', '\x60'] t) = ink t := by
  change ink (Text.replaceFrom ['\x60'] ['\\', '\x60'] 0 t) = ink t
  induction t with
  | nil => rfl
  | cons c rest ih =>
    rw [Text.replaceFrom]
    split_ifs with h
    · change ('\x60' == c && true) = true at h
      rw [Bool.and_true, beq_iff_eq] at h
      subst h
      rw [ink_append, ink_cons (by rfl : isMarkup '\x60' = true)]
      exact ih
    · calc
        ink (c :: Text.replaceFrom _ _ 0 rest) = ink [c] ++ ink rest := by
          rw [← List.singleton_append, ink_append, ih]
        _ = ink (c :: rest) := by rw [← ink_append, List.singleton_append]

/-- Code in one line keeps its ink. -/
theorem ink_inlineCode (code : Text) : ink (inlineCode code) = ink code := by
  rw [inlineCode, ink_append, ink_cons (by rfl), ink_quoteBackticks, ink_strip]
  exact List.append_nil _

theorem ink_tabsToSpaces (line : Text) : ink (tabsToSpaces line) = ink line := by
  have htab (c : Char) (h : (c == '\t') = true) : isMarkup c = true := by
    rw [beq_iff_eq] at h
    exact h ▸ rfl
  unfold tabsToSpaces
  dsimp only
  rw [ink_append, ink_replicate (by rfl), ink_drop htab line (Nat.le_refl _)]
  rfl

theorem ink_mark : ink Fence.mark = [] := rfl

/-- The word after its fence that a repaired block keeps. -/
def keptWord (style : Style) (current : Block) : Text :=
  if style = .fenced ∧ 2 ≤ current.lines.length then current.language else []

/-- A repaired block has the ink of its lines and of the word that it keeps. -/
theorem ink_block (style : Style) (current : Block) :
    (block style current).lines.flatMap ink =
      ink (keptWord style current) ++ current.lines.flatMap ink := by
  obtain ⟨number, language, code, closed⟩ := current
  match code with
  | [] =>
    rw [keptWord, if_neg (by simp)]
    rfl
  | [source] =>
    rw [keptWord, if_neg (by simp)]
    change ink (inlineCode source) ++ [] = [] ++ (ink source ++ [])
    rw [ink_inlineCode, List.nil_append]
  | first :: second :: more =>
    have hunified : ((first :: second :: more).map tabsToSpaces).flatMap ink =
        (first :: second :: more).flatMap ink := by
      rw [List.flatMap_map]
      exact List.flatMap_congr fun line _ ↦ ink_tabsToSpaces line
    cases style with
    | fenced =>
      rw [keptWord, if_pos (by simp), ← hunified]
      change (((Fence.mark ++ language) :: (first :: second :: more).map tabsToSpaces) ++
        [Fence.mark]).flatMap ink = _
      rw [List.flatMap_append, List.flatMap_cons, ink_append, ink_mark]
      exact List.append_nil _
    | indented =>
      rw [keptWord, if_neg (by simp), ← hunified]
      change (((first :: second :: more).map tabsToSpaces).map fun code ↦
        "    " ++ Text.stripLeft code).flatMap ink = _
      rw [List.flatMap_map]
      refine List.flatMap_congr fun line _ ↦ ?_
      rw [ink_append, ink_stripLeft]
      rfl

end PluginReadme.Repair
