import PluginReadme.Proofs.Readme.Heading
import PluginReadme.Repair.Basic

/-!
# Lines that repair leaves as they are

A settled line is no heading that repair would rewrite and opens no block. Every line that repair
writes outside of fences is settled: a heading, inline code, indented code, or an empty line. A line
that it rewrites becomes a heading whose title is taken from that line (`heading?_eq_some`,
`hashHeading?_eq_some`).
-/

namespace PluginReadme.Repair

variable {number : Nat} {line : Text}

/-- A line that repair leaves as it is, whatever its number. -/
structure IsSettledLine (line : Text) : Prop where
  heading (number : Nat) : heading? number line = none
  hashes (number : Nat) : hashHeading? number line = none
  fence : Fence.opening? line = none

/-! ## Lines by their first character -/

theorem heading?_of_head_ne_mark (h : (Text.strip line).head? ≠ some '=') :
    heading? number line = none := by
  have hmark : Text.startsWith "=" (Text.strip line) = false := by
    rw [Bool.eq_false_iff, Ne, Heading.startsWith_mark_iff]
    exact h
  unfold heading?
  dsimp only
  rw [hmark, if_pos (by simp)]

theorem hashHeading?_of_head_ne_hash (h : line.head? ≠ some '#') :
    hashHeading? number line = none := by
  refine if_neg ?_
  cases line with
  | nil => decide
  | cons c rest =>
    change ¬('#' == c && true) = true
    rw [Bool.and_true, beq_iff_eq]
    exact fun heq ↦ h (heq ▸ rfl)

theorem after?_mark_of_head_ne_backtick (h : line.head? ≠ some '\x60') :
    Text.after? Fence.mark line = none := by
  cases line with
  | nil => rfl
  | cons c rest =>
    have hc : ('\x60' == c) = false := beq_false_of_ne fun heq ↦ h (heq ▸ rfl)
    simp [Text.after?, Fence.mark, List.replicate_succ, List.isPrefixOf?, hc]

theorem opening?_of_head_ne_backtick (h : line.head? ≠ some '\x60') :
    Fence.opening? line = none := by
  rw [Fence.opening?, after?_mark_of_head_ne_backtick h]

/-- Only what is logged of a heading depends on the number of its line. -/
theorem heading?_eq_none_of_eq_none (h : heading? number line = none) (other : Nat) :
    heading? other line = none := by
  unfold heading? at h ⊢
  dsimp only at h ⊢
  split_ifs at h ⊢
  all_goals rfl

theorem hashHeading?_eq_none_of_eq_none (h : hashHeading? number line = none) (other : Nat) :
    hashHeading? other line = none := by
  unfold hashHeading? at h ⊢
  split_ifs at h ⊢
  · rw [Option.map_eq_none_iff] at h ⊢
    exact h
  · rfl

/-! ## Headings -/

/-- Marks around something that starts and ends with none are the two runs of the line. -/
theorem enclosed_marks {inside : Text} (n : Nat) (h : Text.IsTrimmed Heading.isMark inside)
    (hne : inside ≠ []) :
    enclosed (List.replicate n '=' ++ inside ++ List.replicate n '=') = (n, inside, n) := by
  have hmarks : ∀ c ∈ List.replicate n '=', Heading.isMark c = true := by
    intro c hc
    rw [List.eq_of_mem_replicate hc]
    rfl
  have hbody : (List.replicate n '=' ++ inside ++ List.replicate n '=').dropWhile Heading.isMark =
      inside ++ List.replicate n '=' := by
    rw [List.append_assoc, List.dropWhile_append_of_pos hmarks, Text.dropWhile_eq_self]
    intro c hc
    rw [List.head?_append_of_ne_nil inside hne] at hc
    exact h.head c hc
  have hinside : Text.dropEndWhile Heading.isMark (inside ++ List.replicate n '=') = inside := by
    rw [Text.dropEndWhile_append_of_all hmarks, Text.dropEndWhile_eq_self h.last]
  unfold enclosed
  dsimp only
  rw [hbody, hinside, if_neg (by simp [hne])]
  simp

/-- Between the marks of a heading that was written its title is found. -/
theorem enclosed_write (n : Nat) (title : Text) :
    enclosed (Heading.write n title) = (n, ' ' :: title ++ [' '], n) := by
  have hpadded : Text.IsTrimmed Heading.isMark (' ' :: title ++ [' ']) := by
    constructor
    · intro c hc
      exact Option.some.inj hc ▸ rfl
    · intro c hc
      rw [List.getLast?_append] at hc
      exact Option.some.inj hc ▸ rfl
  rw [← enclosed_marks n hpadded (by simp), Heading.write]
  simp

/-- What marks enclose is taken from the line. -/
theorem mem_of_mem_enclosed {c : Char} (h : c ∈ (enclosed line).2.1) : c ∈ line := by
  unfold enclosed at h
  dsimp only at h
  split_ifs at h with hempty hlength
  · exact absurd h List.not_mem_nil
  · rw [List.isEmpty_iff, List.dropWhile_eq_nil_iff] at hempty
    have hc : c = '=' := List.mem_singleton.mp h
    obtain ⟨d, rest, rfl⟩ := List.exists_cons_of_ne_nil (l := line) fun hnil ↦
      hlength (by rw [hnil]; exact Nat.zero_le 2)
    have hd : d = '=' := by simpa [Heading.isMark] using hempty d List.mem_cons_self
    rw [hc, hd]
    exact List.mem_cons_self
  · have hbody := List.mem_append_left
      (Text.takeEndWhile Heading.isMark (line.dropWhile Heading.isMark)) h
    rw [Text.dropEndWhile_append_takeEndWhile] at hbody
    exact (List.dropWhile_suffix _).subset hbody

/-- A line is rewritten as a heading whose title is taken from it. -/
theorem heading?_eq_some {heading : Text} {change : Change}
    (h : heading? number line = some (heading, change)) :
    ∃ n title, (n = 1 ∨ n = 2) ∧ Heading.IsTitle title ∧ heading = Heading.write n title ∧
      ∀ c ∈ title, c ∈ line := by
  unfold heading? at h
  dsimp only at h
  have hmem : ∀ c ∈ Text.strip (enclosed (Text.strip line)).2.1, c ∈ line := fun c hc ↦
    Text.mem_of_mem_trim (mem_of_mem_enclosed (Text.mem_of_mem_trim hc))
  have hwrite (isSection : Bool)
      (hne : Text.strip (enclosed (Text.strip line)).2.1 ≠ [])
      (heq : headingOf isSection (Text.strip (enclosed (Text.strip line)).2.1) = heading) :
      ∃ n title, (n = 1 ∨ n = 2) ∧ Heading.IsTitle title ∧ heading = Heading.write n title ∧
        ∀ c ∈ title, c ∈ line :=
    ⟨_, _, by cases isSection <;> simp, Heading.isTitle_strip hne, heq.symm, hmem⟩
  split_ifs at h with hskip hnone hback hblank hsame
  all_goals
    rw [Bool.or_eq_true, not_or, List.isEmpty_iff] at hnone
    exact hwrite _ hnone.1 (Prod.mk.inj (Option.some.inj h)).1

/-- A line with number signs becomes the heading of a section or of an item. -/
theorem hashHeading?_eq_some {heading : Text} {change : Change}
    (h : hashHeading? number line = some (heading, change)) :
    ∃ n title, (n = 1 ∨ n = 2) ∧ Heading.IsTitle title ∧ heading = Heading.write n title ∧
      ∀ c ∈ title, c ∈ line ∨ c = ' ' := by
  unfold hashHeading? at h
  split_ifs at h
  obtain ⟨written, hwritten, heq⟩ := Option.map_eq_some_iff.mp h
  obtain rfl := (Prod.mk.inj heq).1
  exact Heading.ofHashes?_eq_some hwritten

/-! ## Lines that repair writes -/

theorem isSettledLine_nil : IsSettledLine [] where
  heading _ := heading?_of_head_ne_mark (by decide)
  hashes _ := hashHeading?_of_head_ne_hash (by decide)
  fence := opening?_of_head_ne_backtick (by decide)

/-- A heading that is written with one mark or two is what repair would write for it. -/
theorem isSettledLine_write {n : Nat} {title : Text} (hn : n = 1 ∨ n = 2)
    (h : Heading.IsTitle title) : IsSettledLine (Heading.write n title) where
  heading number := by
    have hpositive : n ≠ 0 := by omega
    have hsame : headingOf (decide (2 ≤ n) || decide (2 ≤ n)) title = Heading.write n title := by
      rcases hn with rfl | rfl <;> rfl
    have htitle : (Text.strip (' ' :: title ++ [' '])).isEmpty = false := by
      rw [Heading.strip_padded h, Bool.eq_false_iff, Ne, List.isEmpty_iff]
      exact h.ne_nil
    unfold heading?
    dsimp only
    rw [Heading.strip_write hpositive, enclosed_write]
    dsimp only
    rw [htitle, Heading.strip_padded h, if_neg hpositive, if_pos hsame]
    split_ifs <;> rfl
  hashes _ := by
    apply hashHeading?_of_head_ne_hash
    rw [Heading.head_write (by omega)]
    decide
  fence := by
    apply opening?_of_head_ne_backtick
    rw [Heading.head_write (by omega)]
    decide

/-- What stands between three marks and three is the name of the plugin, which repair leaves. -/
theorem isSettledLine_write_three (title : Text) : IsSettledLine (Heading.write 3 title) where
  heading number := by
    unfold heading?
    dsimp only
    rw [Heading.strip_write (by decide), enclosed_write]
    simp
  hashes _ := by
    apply hashHeading?_of_head_ne_hash
    rw [Heading.head_write (by decide)]
    decide
  fence := by
    apply opening?_of_head_ne_backtick
    rw [Heading.head_write (by decide)]
    decide

/-- Indented code is settled. -/
theorem isSettledLine_indented (code : Text) : IsSettledLine ("    " ++ code) where
  heading _ := by
    have hspaces : Text.startsWith "    " ("    " ++ code) = true :=
      List.isPrefixOf_iff_prefix.mpr (List.prefix_append _ _)
    unfold heading?
    dsimp only
    rw [hspaces]
    rfl
  hashes _ := by
    apply hashHeading?_of_head_ne_hash
    change some ' ' ≠ some '#'
    decide
  fence := by
    apply opening?_of_head_ne_backtick
    change some ' ' ≠ some '\x60'
    decide

/-- No backtick inside the code follows another one. -/
theorem head_replaceAll_backtick (t : Text) :
    (Text.replaceAll ['\x60'] ['\\', '\x60'] t ++ ['\x60']).head? ≠ some '\x60' ∨
      Text.replaceAll ['\x60'] ['\\', '\x60'] t = [] := by
  cases t with
  | nil => exact Or.inr rfl
  | cons c rest =>
    left
    change (Text.replaceFrom ['\x60'] ['\\', '\x60'] 0 (c :: rest) ++ ['\x60']).head? ≠ _
    rw [Text.replaceFrom]
    split_ifs with h
    · simp
    · have hc : c ≠ '\x60' := by
        rintro rfl
        exact h rfl
      simpa using hc

/-- Code in one line is settled. -/
theorem isSettledLine_inlineCode (code : Text) : IsSettledLine (inlineCode code) where
  heading _ := by
    have hfirst : (inlineCode code).head? = some '\x60' := rfl
    have hlast : (inlineCode code).getLast? = some '\x60' := by
      rw [inlineCode, List.getLast?_append]
      rfl
    have htrimmed : Text.IsTrimmed isBlank (inlineCode code) := by
      constructor
      · intro c hc
        rw [hfirst] at hc
        exact Option.some.inj hc ▸ rfl
      · intro c hc
        rw [hlast] at hc
        exact Option.some.inj hc ▸ rfl
    apply heading?_of_head_ne_mark
    rw [Text.strip, Text.trim_eq_self htrimmed]
    change some '\x60' ≠ some '='
    decide
  hashes _ := by
    apply hashHeading?_of_head_ne_hash
    change some '\x60' ≠ some '#'
    decide
  fence := by
    have hafter : Text.after? Fence.mark (inlineCode code) = none := by
      change Text.after? ('\x60' :: List.replicate 2 '\x60') ('\x60' :: (_ ++ ['\x60'])) = none
      rcases head_replaceAll_backtick (Text.strip code) with h | h
      · obtain ⟨c, rest, hcons⟩ := List.exists_cons_of_ne_nil
          (List.append_ne_nil_of_right_ne_nil
            (Text.replaceAll ['\x60'] ['\\', '\x60'] (Text.strip code))
            (List.cons_ne_nil '\x60' []))
        rw [hcons] at h ⊢
        have hc : ('\x60' == c) = false := beq_false_of_ne fun heq ↦ h (heq ▸ rfl)
        simp [Text.after?, List.replicate_succ, List.isPrefixOf?, hc]
      · rw [h]
        rfl
    rw [Fence.opening?, hafter]

end PluginReadme.Repair
