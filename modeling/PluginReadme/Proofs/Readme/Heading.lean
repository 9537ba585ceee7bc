import PluginReadme.Proofs.Text.Trim
import PluginReadme.Readme.Heading

/-!
# Written headings

A heading that is written with one, two or three marks has one of the three shapes and gives its
title back (`title?_write`), and a line that is read as a heading is its marks around what they
enclose (`eq_of_between?`). The headings proposed for lines with number signs (`ofHashes?_eq_some`)
and for lines with wrong marks (`suggested?_eq_some`) are written in this way, and their titles are
taken from the line.
-/

namespace PluginReadme.Heading

variable {n : Nat} {title line heading : Text}

/-- What can stand as the title of a heading: something, with no blank at either end. -/
structure IsTitle (title : Text) : Prop where
  trimmed : Text.IsTrimmed isBlank title
  ne_nil : title ≠ []

theorem isTitle_strip {t : Text} (h : Text.strip t ≠ []) : IsTitle (Text.strip t) :=
  ⟨Text.isTrimmed_trim isBlank t, h⟩

theorem isBlank_space : isBlank ' ' = true := by decide

theorem isBlank_mark : isBlank '=' = false := by decide

/-- Blanks around a title are dropped. -/
theorem strip_padded (h : IsTitle title) : Text.strip (' ' :: title ++ [' ']) = title := by
  have hblank : ∀ c ∈ [' '], isBlank c = true := List.forall_mem_singleton.mpr isBlank_space
  exact Text.trim_append hblank hblank h.trimmed

/-! ## Shapes -/

theorem head_write (hn : n ≠ 0) : (write n title).head? = some '=' := by
  obtain ⟨m, rfl⟩ := Nat.exists_eq_succ_of_ne_zero hn
  rfl

theorem getLast_write (hn : n ≠ 0) : (write n title).getLast? = some '=' := by
  have hmarks : (List.replicate n '=').getLast? = some '=' := by
    rw [List.getLast?_replicate, if_neg hn]
  rw [write, List.getLast?_append, List.getLast?_append, List.getLast?_cons, hmarks]
  rfl

theorem isTrimmed_write (hn : n ≠ 0) : Text.IsTrimmed isBlank (write n title) where
  head := by
    intro c hc
    rw [head_write hn] at hc
    exact Option.some.inj hc ▸ isBlank_mark
  last := by
    intro c hc
    rw [getLast_write hn] at hc
    exact Option.some.inj hc ▸ isBlank_mark

/-- A heading has no blank at either end. -/
theorem strip_write (hn : n ≠ 0) : Text.strip (write n title) = write n title :=
  Text.trim_eq_self (isTrimmed_write hn)

theorem startsWith_mark_iff {t : Text} : Text.startsWith "=" t = true ↔ t.head? = some '=' := by
  cases t with
  | nil => decide
  | cons c rest =>
    change ('=' == c && true) = true ↔ some c = some '='
    rw [Bool.and_true, beq_iff_eq, Option.some.injEq]
    exact eq_comm

/-- Between the marks of a heading its title stands, with a space at either side. -/
theorem between?_write (n : Nat) (title : Text) :
    between? n (write n title) = some (' ' :: title ++ [' ']) := by
  have hlength : (write n title).length = 2 * n + (title.length + 2) := by
    simp [write]
    omega
  have hfront : Text.startsWith (List.replicate n '=') (write n title) = true := by
    rw [Text.startsWith, List.isPrefixOf_iff_prefix, write, List.append_assoc]
    exact List.prefix_append _ _
  have hback : Text.endsWith (List.replicate n '=') (write n title) = true := by
    rw [Text.endsWith, List.isSuffixOf_iff_suffix, write, List.append_cons]
    exact List.suffix_append _ _
  have hinside : ((write n title).drop n).take (title.length + 2) = ' ' :: title ++ [' '] := by
    calc
      ((write n title).drop n).take (title.length + 2) =
          (' ' :: title ++ [' '] ++ List.replicate n '=').take (title.length + 2) := by
        rw [write, List.append_assoc, List.drop_left' (List.length_replicate),
          List.append_cons (' ' :: title)]
      _ = ' ' :: title ++ [' '] := List.take_left' (by simp)
  have hrest : 2 * n + (title.length + 2) - 2 * n = title.length + 2 := by omega
  unfold between?
  dsimp only
  rw [hfront, hback, hlength, hrest, hinside, if_pos (by simp)]

/-- The title of a heading that was written is read again. -/
theorem title?_write (n : Nat) (h : IsTitle title) : title? n (write n title) = some title := by
  have hlength : title.length ≠ 0 := fun hzero ↦ h.ne_nil (List.length_eq_zero_iff.mp hzero)
  have hpadded : isPadded (' ' :: title ++ [' ']) = true := by
    rw [isPadded, List.getLast?_append, List.length_append, List.length_cons]
    simp [isBlank_space]
    omega
  rw [title?, between?_write, Option.filter_some, if_pos hpadded, Option.map_some, strip_padded h]

/-- Every written heading has one of the three shapes. -/
theorem isCanonical_write (hn : n = 1 ∨ n = 2 ∨ n = 3) (h : IsTitle title) :
    isCanonical (write n title) = true := by
  rw [isCanonical, List.any_eq_true]
  refine ⟨n, by simp only [List.mem_cons]; omega, ?_⟩
  rw [title?_write n h]
  rfl

theorem mem_write {c : Char} (h : c ∈ write n title) : c = '=' ∨ c = ' ' ∨ c ∈ title := by
  simp only [write, List.mem_append, List.mem_cons, List.mem_replicate] at h
  tauto

/-- A heading of one of the three shapes, as it is written for a title. -/
def IsWritten (heading : Text) : Prop :=
  ∃ n title, (n = 1 ∨ n = 2 ∨ n = 3) ∧ IsTitle title ∧ heading = write n title

theorem IsWritten.isTrimmed (h : IsWritten heading) : Text.IsTrimmed isBlank heading := by
  obtain ⟨n, title, hn, -, rfl⟩ := h
  exact isTrimmed_write (by omega)

theorem IsWritten.head_eq (h : IsWritten heading) : heading.head? = some '=' := by
  obtain ⟨n, title, hn, -, rfl⟩ := h
  exact head_write (by omega)

theorem IsWritten.getLast_eq (h : IsWritten heading) : heading.getLast? = some '=' := by
  obtain ⟨n, title, hn, -, rfl⟩ := h
  exact getLast_write (by omega)

theorem IsWritten.ne_nil (h : IsWritten heading) : heading ≠ [] := by
  rintro rfl
  exact absurd h.head_eq (by decide)

/-- A heading that was written has one of the three shapes. -/
theorem IsWritten.isCanonical (h : IsWritten heading) : isCanonical heading = true := by
  obtain ⟨n, title, hn, htitle, rfl⟩ := h
  exact isCanonical_write hn htitle

theorem feed_not_mem_write (h : '\n' ∉ title) : '\n' ∉ write n title := by
  intro hmem
  rcases mem_write hmem with heq | heq | hmem
  · exact absurd heq (by decide)
  · exact absurd heq (by decide)
  · exact h hmem

/-! ## Read headings -/

/-- What stands between marks is the line without them. -/
theorem eq_of_between? {inside : Text} (h : between? n line = some inside) :
    line = List.replicate n '=' ++ inside ++ List.replicate n '=' := by
  unfold between? at h
  dsimp only at h
  split_ifs at h with hshape
  rw [Bool.and_eq_true, Bool.and_eq_true, decide_eq_true_eq, Text.startsWith, Text.endsWith,
    List.isPrefixOf_iff_prefix, List.isSuffixOf_iff_suffix] at hshape
  obtain ⟨⟨hlength, rest, rfl⟩, hback⟩ := hshape
  rw [List.drop_left' List.length_replicate] at h
  obtain rfl := Option.some.inj h
  rw [List.length_append, List.length_replicate] at hlength ⊢
  have htail : rest.drop (n + rest.length - 2 * n) = List.replicate n '=' := by
    have hdrop := List.suffix_iff_eq_drop.mp hback
    rw [List.length_append, List.length_replicate, Nat.add_sub_cancel_left, List.drop_append,
      List.drop_eq_nil_of_le (by rw [List.length_replicate]; omega), List.nil_append,
      List.length_replicate] at hdrop
    rw [hdrop, show n + rest.length - 2 * n = rest.length - n by omega]
  rw [List.append_assoc, ← htail, List.take_append_drop]

theorem head_of_between? (hn : n ≠ 0) {inside : Text} (h : between? n line = some inside) :
    line.head? = some '=' := by
  obtain ⟨m, rfl⟩ := Nat.exists_eq_succ_of_ne_zero hn
  rw [eq_of_between? h]
  rfl

/-- A title is what blanks part from the marks around it. -/
theorem title?_eq_some (h : title? n line = some title) :
    ∃ inside, between? n line = some inside ∧ isPadded inside = true ∧
      title = Text.strip inside := by
  obtain ⟨inside, hinside, htitle⟩ := Option.map_eq_some_iff.mp h
  obtain ⟨hbetween, hpadded⟩ := Option.filter_eq_some_iff.mp hinside
  exact ⟨inside, hbetween, hpadded, htitle.symm⟩

theorem section?_of_head_ne_mark (h : line.head? ≠ some '=') : section? line = none := by
  cases htitle : section? line with
  | none => rfl
  | some title =>
    obtain ⟨inside, hbetween, -, -⟩ := title?_eq_some htitle
    exact absurd (head_of_between? (by decide) hbetween) h

theorem isTrimmed_of_isPadded {inside : Text} (h : isPadded inside = true) :
    Text.IsTrimmed isMark inside := by
  have hmark (c : Char) (hblank : isBlank c = true) : isMark c = false := by
    rw [isMark, beq_eq_false_iff_ne]
    rintro rfl
    exact absurd hblank (by decide)
  rw [isPadded, Bool.and_eq_true, Bool.and_eq_true] at h
  constructor
  · intro c hc
    have hblank := h.1.2
    rw [Option.mem_def.mp hc] at hblank
    exact hmark c hblank
  · intro c hc
    have hblank := h.2
    rw [Option.mem_def.mp hc] at hblank
    exact hmark c hblank

theorem ne_nil_of_isPadded {inside : Text} (h : isPadded inside = true) : inside ≠ [] := by
  rintro rfl
  exact absurd h (by decide)

/-- The name of the plugin stands between three marks and starts and ends with none. -/
theorem pluginName?_eq_some {name : Text} (h : pluginName? line = some name) :
    ∃ inside, between? 3 (Text.dropFinalFeed line) = some inside ∧ inside ≠ [] ∧
      Text.IsTrimmed isMark inside ∧ name = Text.strip inside := by
  unfold pluginName? at h
  split at h
  · next inside hinside =>
    split_ifs at h with hguard
    rw [Bool.and_eq_true, Bool.and_eq_true, Bool.not_eq_true', Bool.not_eq_true'] at hguard
    obtain ⟨⟨hname, hfirst⟩, hlast⟩ := hguard
    refine ⟨inside, hinside, ?_, ⟨?_, ?_⟩, (Option.some.inj h).symm⟩
    · rintro rfl
      exact absurd hname (by decide)
    · intro c hc
      rw [Option.mem_def.mp hc] at hfirst
      exact hfirst
    · intro c hc
      rw [Option.mem_def.mp hc] at hlast
      exact hlast
  · exact absurd h (by simp)

/-- A heading that is written with one mark or two does not name the plugin. -/
theorem pluginName?_write (hn : n = 1 ∨ n = 2) (title : Text) :
    pluginName? (write n title) = none := by
  have hfeed : Text.dropFinalFeed (write n title) = write n title := by
    refine if_neg ?_
    rw [getLast_write (by omega)]
    decide
  have hmarks : between? 3 (write n title) = none := by
    refine if_neg ?_
    rcases hn with rfl | rfl <;> simp [Text.startsWith, write, List.replicate_succ]
  rw [pluginName?, hfeed, hmarks]

/-- Three marks name the plugin. -/
theorem pluginName?_write_three (h : IsTitle title) (hfeed : '\n' ∉ title) :
    pluginName? (write 3 title) = some title := by
  have hline : Text.dropFinalFeed (write 3 title) = write 3 title := by
    refine if_neg ?_
    rw [getLast_write (by decide)]
    decide
  have hname : isOneLine (' ' :: title ++ [' ']) = true := by
    unfold isOneLine
    dsimp only
    rw [strip_padded h, if_neg (by simpa using h.ne_nil), Bool.not_eq_true', List.contains_eq_mem,
      decide_eq_false hfeed]
  have hlast : (' ' :: title ++ [' ']).getLast? = some ' ' := List.getLast?_concat
  unfold pluginName?
  rw [hline, between?_write]
  dsimp only
  rw [hname, hlast, strip_padded h]
  rfl

/-! ## Number signs -/

theorem head_stripLeft_of_isHashed (h : isHashed line = true) :
    (Text.stripLeft line).head? = some '#' := by
  unfold isHashed at h
  split at h
  · next rest heq => rw [heq, List.head?_cons]
  · exact absurd h Bool.false_ne_true

theorem strip_withoutClosingHashes (title : Text) :
    ∃ t : Text, withoutClosingHashes title = Text.strip t ∧ ∀ c ∈ t, c ∈ title := by
  unfold withoutClosingHashes
  dsimp only
  split
  · refine ⟨_, rfl, fun c hc ↦ ?_⟩
    rw [← Text.dropEndWhile_append_takeEndWhile isHash title]
    exact List.mem_append_left _ hc
  · exact ⟨title, rfl, fun _ ↦ id⟩

/-- The heading for a line with number signs has a title from that line. -/
theorem ofHashes?_eq_some (h : ofHashes? line = some heading) :
    ∃ n title, (n = 1 ∨ n = 2) ∧ IsTitle title ∧ heading = write n title ∧
      ∀ c ∈ title, c ∈ line ∨ c = ' ' := by
  unfold ofHashes? at h
  dsimp only at h
  generalize min 6 _ = level at h
  obtain ⟨t, ht, hmem⟩ :=
    strip_withoutClosingHashes (Text.stripLeft ((Text.strip line).drop level))
  rw [ht] at h
  by_cases hguard : (decide (level = 0) || ((Text.strip line).drop level).contains '\n' ||
      (Text.collapseRuns (Text.strip t)).isEmpty) = true
  · rw [if_pos hguard] at h
    exact absurd h (by simp)
  rw [if_neg hguard] at h
  rw [Bool.or_eq_true, not_or, List.isEmpty_iff] at hguard
  have hne : Text.strip t ≠ [] := by
    intro hnil
    rw [hnil] at hguard
    exact hguard.2 (by decide)
  obtain ⟨htrimmed, hcollapsed⟩ := (isTitle_strip hne).trimmed.collapseRuns hne
  refine ⟨_, _, ?_, ⟨htrimmed, hcollapsed⟩, (Option.some.inj h).symm, ?_⟩
  · split <;> simp
  · intro c hc
    rcases Text.mem_of_mem_collapseFrom hc with hrun | hstrip | hspace
    · exact absurd hrun List.not_mem_nil
    · left
      have hdrop := (List.dropWhile_suffix isBlank).subset (hmem c (Text.mem_of_mem_trim hstrip))
      exact Text.mem_of_mem_trim (List.mem_of_mem_drop hdrop)
    · exact Or.inr hspace

/-! ## Wrong marks -/

theorem dropFinalFeed_eq_self {t : Text} (h : '\n' ∉ t) : Text.dropFinalFeed t = t :=
  if_neg fun hlast ↦ h (List.mem_of_getLast? hlast)

/-- What may stand around the title of a heading. -/
def IsPadding (t : Text) : Prop := ∀ c ∈ t, c = '=' ∨ isBlank c = true

theorem isPadding_of_blank {t : Text} (h : ∀ c ∈ t, isBlank c = true) : IsPadding t :=
  fun c hc ↦ Or.inr (h c hc)

theorem isPadding_of_isMark {t : Text} (h : ∀ c ∈ t, isMark c = true) : IsPadding t := by
  intro c hc
  left
  simpa [isMark] using h c hc

theorem IsPadding.append {front tail : Text} (hfront : IsPadding front) (htail : IsPadding tail) :
    IsPadding (front ++ tail) := by
  intro c hc
  rcases List.mem_append.mp hc with hc | hc
  · exact hfront c hc
  · exact htail c hc

theorem IsPadding.not_mem {t : Text} (h : IsPadding t) {c : Char} (hmark : c ≠ '=')
    (hblank : isBlank c = false) : c ∉ t := by
  intro hmem
  rcases h c hmem with heq | htrue
  · exact hmark heq
  · rw [hblank] at htrue
    exact Bool.noConfusion htrue

/-- The heading for a line with marks has a title from that line, which only padding surrounds
there. -/
theorem suggested?_eq_some (hmark : line.head? = some '=') (hfeed : '\n' ∉ line)
    (h : suggested? line = some heading) :
    ∃ n title front tail, (n = 1 ∨ n = 2 ∨ n = 3) ∧ IsTitle title ∧ heading = write n title ∧
      line = front ++ title ++ tail ∧ IsPadding front ∧ IsPadding tail := by
  let body := line.dropWhile isMark
  have hbody : '\n' ∉ body := fun hmem ↦ hfeed ((List.dropWhile_suffix isMark).subset hmem)
  obtain ⟨left, right, hinside, hleft, hright⟩ :=
    Text.exists_trim isBlank (Text.dropEndWhile isMark body)
  have hline : line = line.takeWhile isMark ++
      (left ++ Text.strip (Text.dropEndWhile isMark body) ++ right) ++
        Text.takeEndWhile isMark body := by
    rw [Text.strip, ← hinside, List.append_assoc, Text.dropEndWhile_append_takeEndWhile,
      List.takeWhile_append_dropWhile]
  have hpositive : 0 < (line.takeWhile isMark).length := by
    obtain ⟨rest, rfl⟩ := List.head?_eq_some_iff.mp hmark
    rw [List.takeWhile_cons_of_pos (by decide)]
    exact Nat.succ_pos _
  unfold suggested? at h
  dsimp only at h
  rw [dropFinalFeed_eq_self hbody] at h
  split_ifs at h with hempty
  have hne : Text.strip (Text.dropEndWhile isMark body) ≠ [] := by
    simpa using hempty
  have hfront : IsPadding (line.takeWhile isMark ++ left) :=
    (isPadding_of_isMark (Text.forall_mem_takeWhile isMark line)).append (isPadding_of_blank hleft)
  have htail : IsPadding (right ++ Text.takeEndWhile isMark body) :=
    (isPadding_of_blank hright).append
      (isPadding_of_isMark (Text.forall_mem_takeEndWhile isMark body))
  refine ⟨_, _, _, _, ?_, isTitle_strip hne, (Option.some.inj h).symm, ?_, hfront, htail⟩
  · omega
  · simpa using hline

end PluginReadme.Heading
