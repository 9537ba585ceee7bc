import Mathlib.Data.Prod.Lex
import Mathlib.Order.OrderIsoNat
import PluginReadme.Proofs.QuickFix.Resolution

/-!
# Quick fixes come to an end

A mark that closes emphasis or a link makes a malformed heading of a heading, and an asterisk can
turn others into pairs, so fixes make work for each other. They do so in one direction only: fences,
headings of number signs, italics, bold, links, malformed headings. No fix adds to what stands in
front of its own kind in this list, and of its own kind it takes something away
(`burden_lt_of_step`). Hence no run of fixes goes on for ever.
-/

namespace PluginReadme.QuickFix

variable {t fixed : Text} {issue : Issue} {front back : List Text} {line new mark : Text}

/-- A text becomes another one by the fix for one of its issues that is mended on a line. -/
def Step (before after : Text) : Prop :=
  ∃ issue ∈ (Verdict.of (Readme.ofText before) []).issues,
    issue.code ∈ Check.mendableCodes ∧ apply before issue = some after

/-- What is left to fix, the kinds that make work for others first. -/
def burden (t : Text) : ℕ ×ₗ ℕ ×ₗ ℕ ×ₗ ℕ ×ₗ ℕ ×ₗ ℕ :=
  let ls := Text.lines t
  toLex (ls.countP Fence.isFence % 2, toLex (ls.countP Heading.isHashed,
    toLex (Check.italicCount t % 2, toLex (Check.boldCount t % 2,
      toLex (ls.countP Check.hasOpenLink, ls.countP Check.isMalformed)))))

/-! ## Lexicographic order -/

section Lex

variable {β : Type} [Preorder β] {a a' : ℕ} {b b' : β}

theorem toLex_lt_of_lt (h : a' < a) : toLex (a', b') < toLex (a, b) :=
  Prod.Lex.toLex_lt_toLex.mpr (Or.inl h)

theorem toLex_lt_of_snd_lt (hrest : b' < b) : toLex (a, b') < toLex (a, b) :=
  Prod.Lex.toLex_lt_toLex.mpr (Or.inr ⟨rfl, hrest⟩)

theorem toLex_lt_of_le_of_lt (h : a' ≤ a) (hrest : b' < b) : toLex (a', b') < toLex (a, b) := by
  rcases Nat.lt_or_eq_of_le h with hlt | rfl
  · exact toLex_lt_of_lt hlt
  · exact toLex_lt_of_snd_lt hrest

end Lex

/-! ## Counting lines -/

section Counting

variable {p : Text → Bool}

theorem countP_replace_eq (h : p new = p line) :
    (front ++ new :: back).countP p = (front ++ line :: back).countP p := by
  rw [List.countP_append, List.countP_append, List.countP_cons, List.countP_cons, h]

theorem countP_replace_le (h : p new = true → p line = true) :
    (front ++ new :: back).countP p ≤ (front ++ line :: back).countP p := by
  rw [List.countP_append, List.countP_append, List.countP_cons, List.countP_cons]
  split_ifs with hnew hline hline
  · omega
  · exact absurd (h hnew) hline
  · omega
  · omega

/-- Putting a line without a property in place of one with it leaves fewer of them. -/
theorem countP_replace_lt (hline : p line = true) (hnew : p new = false) :
    (front ++ new :: back).countP p < (front ++ line :: back).countP p := by
  rw [List.countP_append, List.countP_append, List.countP_cons_of_pos hline,
    List.countP_cons_of_neg (by simp [hnew])]
  omega

end Counting

/-! ## Marks after a line -/

theorem isClosingMark_boldMark : Check.IsClosingMark Check.boldMark where
  ne_nil := by decide
  eq_of_mem c hc := by
    change c ∈ List.replicate 2 '*' at hc
    exact Or.inl (List.eq_of_mem_replicate hc)

theorem isClosingMark_asterisk : Check.IsClosingMark ['*'] where
  ne_nil := List.cons_ne_nil _ _
  eq_of_mem _ hc := Or.inl (List.mem_singleton.mp hc)

theorem isClosingMark_parenthesis : Check.IsClosingMark [')'] where
  ne_nil := List.cons_ne_nil _ _
  eq_of_mem _ hc := Or.inr (List.mem_singleton.mp hc)

/-- A line with emphasis is not blank. -/
theorem strip_ne_nil_of_odd_count (h : line.count '*' % 2 = 1) : Text.strip line ≠ [] := by
  have hmem : '*' ∈ line := List.count_pos_iff.mp (by omega)
  exact Check.strip_ne_nil_of_mem hmem (by decide)

theorem strip_ne_nil_of_odd_bold (h : Check.boldCount line % 2 = 1) : Text.strip line ≠ [] := by
  have hmem : '*' ∈ line := by
    by_contra hmem
    rw [Check.boldCount_of_not_mem hmem] at h
    exact absurd h (by decide)
  exact Check.strip_ne_nil_of_mem hmem (by decide)

theorem strip_ne_nil_of_hasOpenLink (h : Check.hasOpenLink line = true) :
    Text.strip line ≠ [] := by
  have hmem : '[' ∈ line := by
    by_contra hmem
    have hnone := Check.hasOpenLink_append_left (t := []) hmem
    rw [List.append_nil, h] at hnone
    exact Bool.noConfusion hnone
  exact Check.strip_ne_nil_of_mem hmem (by decide)

/-! ## Each fix takes something away -/

theorem italicCount_mod_two_replace (ht : Text.lines t = front ++ line :: back)
    (hfixed : Text.lines fixed = front ++ new :: back)
    (h : new.count '*' % 2 = line.count '*' % 2) :
    Check.italicCount fixed % 2 = Check.italicCount t % 2 := by
  have hsum := Check.count_replace ht hfixed
  rw [Check.italicCount_mod_two, Check.italicCount_mod_two]
  omega

/-- A mark after a line opens no fence and makes no heading of number signs. -/
theorem lex_lt_of_append {β : Type} [Preorder β] {b b' : β} (hline : Text.strip line ≠ [])
    (hmark : Check.IsClosingMark mark) (hrest : b' < b) :
    toLex ((front ++ (Text.stripRight line ++ mark) :: back).countP Fence.isFence % 2,
        toLex ((front ++ (Text.stripRight line ++ mark) :: back).countP Heading.isHashed, b')) <
      toLex ((front ++ line :: back).countP Fence.isFence % 2,
        toLex ((front ++ line :: back).countP Heading.isHashed, b)) := by
  refine toLex_lt_of_le_of_lt ?_ (toLex_lt_of_le_of_lt ?_ hrest)
  · rw [countP_replace_eq (Check.isFence_stripRight_append hline hmark)]
  · exact countP_replace_le (Check.isHashed_of_stripRight_append hline hmark)

/-- A mended heading leaves less to fix. -/
theorem burden_lt_of_malformedHeading (hat : Located t issue front line back)
    (hfixed : Text.lines fixed = front ++ new :: back) (h : Check.isMalformed line = true)
    (hnew : Heading.suggested? (Text.strip line) = some new) : burden fixed < burden t := by
  have hinline := Check.sameInline_of_suggested? h hat.feed_not_mem hnew
  obtain ⟨hwritten, -, -⟩ := isWritten_of_suggested? h hat.feed_not_mem hnew
  have hfence : Fence.isFence new = Fence.isFence line := by
    rw [Check.isFence_of_isWritten hwritten, Check.isFence_of_isMalformed h]
  have hhashed : Heading.isHashed new = Heading.isHashed line := by
    rw [Check.isHashed_of_isWritten hwritten, Check.isHashed_of_isMalformed h]
  have hitalic := italicCount_mod_two_replace hat.lines_eq hfixed (by rw [hinline.count_eq])
  have hbold := Check.boldCount_replace hat.lines_eq hfixed
  rw [hinline.boldCount_eq] at hbold
  unfold burden
  dsimp only
  rw [hfixed, hat.lines_eq, countP_replace_eq hfence, countP_replace_eq hhashed, hitalic,
    Nat.add_right_cancel hbold, countP_replace_eq hinline.hasOpenLink_eq]
  have hmalformed : (front ++ new :: back).countP Check.isMalformed <
      (front ++ line :: back).countP Check.isMalformed :=
    countP_replace_lt h (Check.isMalformed_of_isWritten hwritten)
  exact toLex_lt_of_snd_lt (toLex_lt_of_snd_lt (toLex_lt_of_snd_lt (toLex_lt_of_snd_lt
    (toLex_lt_of_snd_lt hmalformed))))

/-- A heading in place of number signs leaves less to fix, whatever stands in its title. -/
theorem burden_lt_of_hashHeading (hat : Located t issue front line back)
    (hfixed : Text.lines fixed = front ++ new :: back) (h : Heading.isHashed line = true)
    (hnew : Heading.ofHashes? line = some new) : burden fixed < burden t := by
  obtain ⟨hwritten, -, -⟩ := isWritten_of_ofHashes? h hat.feed_not_mem hnew
  have hfence : Fence.isFence new = Fence.isFence line := by
    rw [Check.isFence_of_isWritten hwritten, Check.isFence_of_isHashed h]
  unfold burden
  dsimp only
  rw [hfixed, hat.lines_eq, countP_replace_eq hfence]
  exact toLex_lt_of_snd_lt
    (toLex_lt_of_lt (countP_replace_lt h (Check.isHashed_of_isWritten hwritten)))

/-- Closed italic text leaves less to fix. -/
theorem burden_lt_of_unbalancedItalic (hat : Located t issue front line back)
    (hfixed : Text.lines fixed = front ++ (Text.stripRight line ++ ['*']) :: back)
    (hodd : Check.italicCount t % 2 = 1) (hline : Check.italicCount line % 2 = 1) :
    burden fixed < burden t := by
  rw [Check.italicCount_mod_two] at hline
  have heven := italicCount_even_of_fixed hat.lines_eq hfixed hodd
  unfold burden
  dsimp only
  rw [hfixed, hat.lines_eq, heven, hodd]
  exact lex_lt_of_append (strip_ne_nil_of_odd_count hline) isClosingMark_asterisk
    (toLex_lt_of_lt Nat.zero_lt_one)

/-- Closed bold text leaves less to fix. -/
theorem burden_lt_of_unbalancedBold (hat : Located t issue front line back)
    (hfixed : Text.lines fixed = front ++ (Text.stripRight line ++ Check.boldMark) :: back)
    (hodd : Check.boldCount t % 2 = 1) (hline : Check.boldCount line % 2 = 1) :
    burden fixed < burden t := by
  have heven := boldCount_even_of_fixed hat.lines_eq hfixed hodd
  have hstars : Check.boldMark.count '*' = 2 := rfl
  have hitalic := italicCount_mod_two_replace hat.lines_eq hfixed
    (by rw [Check.count_stripRight_append, hstars]; omega)
  unfold burden
  dsimp only
  rw [hfixed, hat.lines_eq, hitalic, heven, hodd]
  exact lex_lt_of_append (strip_ne_nil_of_odd_bold hline) isClosingMark_boldMark
    (toLex_lt_of_snd_lt (toLex_lt_of_lt Nat.zero_lt_one))

/-- A closed link leaves less to fix. -/
theorem burden_lt_of_unclosedLink (hat : Located t issue front line back)
    (hfixed : Text.lines fixed = front ++ (Text.stripRight line ++ [')']) :: back)
    (h : Check.hasOpenLink line = true) : burden fixed < burden t := by
  have hclosed : Check.hasOpenLink (Text.stripRight line ++ [')']) = false :=
    Check.hasOpenLink_of_getLast List.getLast?_concat
  have hstars : [')'].count '*' = 0 := rfl
  have hitalic := italicCount_mod_two_replace hat.lines_eq hfixed
    (by rw [Check.count_stripRight_append, hstars, Nat.add_zero])
  have hbold := Check.boldCount_replace hat.lines_eq hfixed
  rw [Check.boldCount_append_of_not_mem (by decide),
    ← (Check.sameInline_stripRight line).boldCount_eq] at hbold
  unfold burden
  dsimp only
  rw [hfixed, hat.lines_eq, hitalic, Nat.add_right_cancel hbold]
  exact lex_lt_of_append (strip_ne_nil_of_hasOpenLink h) isClosingMark_parenthesis
    (toLex_lt_of_snd_lt (toLex_lt_of_snd_lt (toLex_lt_of_lt (countP_replace_lt h hclosed))))

/-- Every fix on a line leaves less to fix. -/
theorem Mended.burden_lt (h : Mended t issue fixed) : burden fixed < burden t := by
  cases h with
  | line hat hfixed hmended =>
    generalize issue.code = code at hmended
    cases hmended with
    | malformedHeading hmalformed hsuggested =>
      exact burden_lt_of_malformedHeading hat hfixed hmalformed hsuggested
    | hashHeading hhashed hsuggested =>
      exact burden_lt_of_hashHeading hat hfixed hhashed hsuggested
    | unbalancedBold hodd hline => exact burden_lt_of_unbalancedBold hat hfixed hodd hline
    | unbalancedItalic hodd hline => exact burden_lt_of_unbalancedItalic hat hfixed hodd hline
    | unclosedLink hlink => exact burden_lt_of_unclosedLink hat hfixed hlink
  | fence _ hsource hodd htidy hfixed =>
    apply toLex_lt_of_lt
    rw [countP_isFence_of_fixed hsource htidy hfixed]
    omega

/-- A step takes something away of the first kind that it changes. -/
theorem burden_lt_of_step (h : Step t fixed) : burden fixed < burden t := by
  obtain ⟨issue, hissue, hcode, hfix⟩ := h
  exact (mended_of_apply hissue hcode hfix).burden_lt

/-- Whatever issues are picked and in whatever order, a run of fixes comes to an end. -/
theorem exists_not_step (run : ℕ → Text) : ∃ n, ¬Step (run n) (run (n + 1)) := by
  by_contra hrun
  have hstep : ∀ n, Step (run n) (run (n + 1)) := by
    simpa using hrun
  have hanti : StrictAnti fun n ↦ burden (run n) :=
    strictAnti_nat_of_succ_lt fun n ↦ burden_lt_of_step (hstep n)
  exact not_strictAnti_of_wellFoundedLT _ hanti

end PluginReadme.QuickFix
