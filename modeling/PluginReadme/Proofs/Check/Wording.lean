import Mathlib.Data.Option.Basic
import PluginReadme.Check.Wording
import PluginReadme.Proofs.Text.Class
import PluginReadme.Proofs.Text.Cut
import PluginReadme.Proofs.Text.Scan

/-!
# What the checks of the wording find

Promotional words and mail addresses are found by scanning. Here the shapes that the scanners look
for are stated as properties of a part of a line between what stands before and after it
(`IsPromotion`, `IsMailAddress`), and every mark that is read has its shape
(`exists_promotion_of_mem`, `exists_mailAddress_of_mem`). The letters of the promotional words are
word characters in any case, also those beyond ASCII that count as ASCII letters, so a word starts
and ends at the edges of a word.
-/

namespace PluginReadme

variable {before marked after t rest word : Text}

namespace Check

/-! ## Edges of words -/

/-- Of the characters on both sides of a place, exactly one belongs to a word. -/
def IsWordEdge (before after : Text) : Prop :=
  before.getLast?.any isWordChar ≠ after.head?.any isWordChar

/-- A word character is at the edge of a word if none stands before it. -/
theorem isWordEdge_start (hbefore : before.getLast?.any isWordChar = false)
    (hhead : t.head?.any isWordChar = true) : IsWordEdge before t := by
  rw [IsWordEdge, hbefore, hhead]
  exact Bool.false_ne_true

/-- A word character is at the edge of a word if none stands after it. -/
theorem isWordEdge_stop (hlast : t.getLast?.any isWordChar = true)
    (hafter : after.head?.any isWordChar = false) : IsWordEdge t after := by
  rw [IsWordEdge, hlast, hafter]
  exact Bool.false_ne_true.symm

theorem head_append_any {p : Char → Bool} (hne : marked ≠ []) (h : ∀ c ∈ marked, p c = true) :
    (marked ++ after).head?.any p = true := by
  obtain ⟨c, rest, rfl⟩ := List.exists_cons_of_ne_nil hne
  exact h c List.mem_cons_self

theorem last_append_any {p : Char → Bool} (hne : marked ≠ []) (h : ∀ c ∈ marked, p c = true) :
    (before ++ marked).getLast?.any p = true := by
  rw [List.getLast?_append_of_ne_nil before hne, List.getLast?_eq_some_getLast hne]
  exact h _ (List.getLast_mem hne)

/-! ## Promotion -/

/-- The word in any case, that is, in letters that count as its letters. -/
def IsInAnyCase (word marked : Text) : Prop := marked.map foldCase = word

def IsPhrase (first second marked : Text) : Prop :=
  ∃ front gap back, marked = front ++ gap ++ back ∧ IsInAnyCase first front ∧ gap ≠ [] ∧
    (∀ c ∈ gap, isBlank c = true) ∧ IsInAnyCase second back

def loneWords : List Text :=
  ["best".toList, "ultimate".toList, "premium".toList, "advanced".toList, "professional".toList]

/-- A promotional word between what stands before and after it. The word `pro` may also be part of a
phrase, which does not have to end where a word ends. -/
inductive IsPromotion : (word before marked after : Text) → Prop where
  | lone {word before marked after : Text} (mem : word ∈ loneWords)
      (inAnyCase : IsInAnyCase word marked) (start : IsWordEdge before (marked ++ after))
      (stop : IsWordEdge (before ++ marked) after) : IsPromotion word before marked after
  | pro {before marked after : Text} (start : IsWordEdge before (marked ++ after))
      (phrase : IsPhrase "pro" "version" marked ∨ IsPhrase "pro" "edition" marked ∨
        IsPhrase "go" "pro" marked ∨
        IsInAnyCase "pro" marked ∧ after.head?.any isWordChar = false) :
      IsPromotion "pro" before marked after

theorem IsInAnyCase.isWordChar {c : Char} (h : IsInAnyCase word marked)
    (hword : ∀ d ∈ word, d.isLower = true) (hc : c ∈ marked) : isWordChar c = true := by
  apply isWordChar_of_foldCase
  apply hword
  rw [← h]
  exact List.mem_map_of_mem hc

theorem IsInAnyCase.ne_nil (h : IsInAnyCase word marked) (hword : word ≠ []) : marked ≠ [] := by
  rintro rfl
  exact hword h.symm

/-- What is marked before a rest has the length that the recogniser answers. -/
theorem length_of_rest (hne : marked ≠ []) :
    marked.length = (marked ++ after).length - after.length - 1 + 1 := by
  have hpositive := List.length_pos_iff.mpr hne
  rw [List.length_append]
  omega

/-- What is read as a lone word is a promotional word. -/
theorem exists_promotion_of_loneWord {extra : Nat} (hmem : word ∈ loneWords)
    (h : loneWord word before.getLast? t = some ((), extra)) :
    ∃ marked after, t = marked ++ after ∧ marked.length = extra + 1 ∧
      IsPromotion word before marked after := by
  have hletters : ∀ word ∈ loneWords, word ≠ [] ∧ word.all Char.isLower = true := by decide
  obtain ⟨hword, hlower⟩ := hletters word hmem
  rw [List.all_eq_true] at hlower
  unfold loneWord at h
  split at h
  · next after hafter =>
    obtain ⟨marked, rfl, hcase : IsInAnyCase word marked⟩ :=
      Text.exists_append_of_afterFolded? hafter
    split_ifs at h with hedge
    rw [Bool.not_eq_true, Bool.or_eq_false_iff] at hedge
    obtain rfl := (Prod.mk.inj (Option.some.inj h)).2
    have hne : marked ≠ [] := hcase.ne_nil hword
    have hchars : ∀ c ∈ marked, isWordChar c = true := fun c hc ↦ hcase.isWordChar hlower hc
    refine ⟨marked, after, rfl, length_of_rest hne, .lone hmem hcase ?_ ?_⟩
    · exact isWordEdge_start hedge.1 (head_append_any hne hchars)
    · exact isWordEdge_stop (last_append_any hne hchars) hedge.2
  · exact absurd h (by simp)

/-- What is read as two words is a phrase of them. -/
theorem exists_phrase_of_afterPhrase? {first second : Text}
    (h : afterPhrase? first second t = some rest) :
    ∃ marked, t = marked ++ rest ∧ IsPhrase first second marked := by
  unfold afterPhrase? at h
  split at h
  · next tail htail =>
    obtain ⟨front, rfl, hfront⟩ := Text.exists_append_of_afterFolded? htail
    split_ifs at h with hblank
    obtain ⟨back, hback, hcase⟩ := Text.exists_append_of_afterFolded? h
    refine ⟨front ++ tail.takeWhile isBlank ++ back, ?_,
      front, tail.takeWhile isBlank, back, rfl, hfront, ?_, ?_, hcase⟩
    · rw [List.append_assoc, List.append_assoc, ← hback, Text.stripLeft,
        List.takeWhile_append_dropWhile]
    · cases tail with
      | nil => exact absurd hblank (by simp)
      | cons c tail =>
        have hc : isBlank c = true := hblank
        rw [List.takeWhile_cons_of_pos hc]
        exact List.cons_ne_nil c _
    · exact List.all_eq_true.mp List.all_takeWhile
  · exact absurd h (by simp)

theorem IsPhrase.ne_nil {first second : Text} (h : IsPhrase first second marked)
    (hfirst : first ≠ []) : marked ≠ [] := by
  obtain ⟨front, gap, back, rfl, hfront, -⟩ := h
  rw [List.append_assoc]
  exact List.append_ne_nil_of_left_ne_nil (hfront.ne_nil hfirst) _

theorem IsPhrase.head_append {first second : Text} (h : IsPhrase first second marked)
    (hfirst : first ≠ []) (hlower : ∀ c ∈ first, c.isLower = true) (after : Text) :
    (marked ++ after).head?.any PluginReadme.isWordChar = true := by
  obtain ⟨front, gap, back, rfl, hfront, -⟩ := h
  rw [List.append_assoc, List.append_assoc]
  exact head_append_any (hfront.ne_nil hfirst) fun c hc ↦ hfront.isWordChar hlower hc

/-- What is read as `pro` is that word, alone or in a phrase. -/
theorem exists_promotion_of_proPhrase {extra : Nat}
    (h : proPhrase before.getLast? t = some ((), extra)) :
    ∃ marked after, t = marked ++ after ∧ marked.length = extra + 1 ∧
      IsPromotion "pro" before marked after := by
  unfold proPhrase at h
  dsimp only at h
  split at h
  · next after hafter =>
    split_ifs at h with hedge
    rw [Bool.not_eq_true] at hedge
    obtain rfl := (Prod.mk.inj (Option.some.inj h)).2
    have hfound {marked : Text} (hne : marked ≠ [])
        (hhead : (marked ++ after).head?.any PluginReadme.isWordChar = true)
        (hphrase : IsPhrase "pro" "version" marked ∨ IsPhrase "pro" "edition" marked ∨
          IsPhrase "go" "pro" marked ∨
          IsInAnyCase "pro" marked ∧ after.head?.any PluginReadme.isWordChar = false) :
        ∃ marked' after', marked ++ after = marked' ++ after' ∧
          marked'.length = (marked ++ after).length - after.length - 1 + 1 ∧
          IsPromotion "pro" before marked' after' :=
      ⟨marked, after, rfl, length_of_rest hne, .pro (isWordEdge_start hedge hhead) hphrase⟩
    have hlower : "pro".toList.all Char.isLower = true ∧ "go".toList.all Char.isLower = true := by
      decide
    rw [List.all_eq_true, List.all_eq_true] at hlower
    rw [Option.orElse_eq_some, Option.orElse_eq_some, Option.orElse_eq_some] at hafter
    rcases hafter with hversion | ⟨-, hedition | ⟨-, hgo | ⟨-, hpro⟩⟩⟩
    · obtain ⟨marked, rfl, hphrase⟩ := exists_phrase_of_afterPhrase? hversion
      exact hfound (hphrase.ne_nil (by decide)) (hphrase.head_append (by decide) hlower.1 after)
        (Or.inl hphrase)
    · obtain ⟨marked, rfl, hphrase⟩ := exists_phrase_of_afterPhrase? hedition
      exact hfound (hphrase.ne_nil (by decide)) (hphrase.head_append (by decide) hlower.1 after)
        (Or.inr (Or.inl hphrase))
    · obtain ⟨marked, rfl, hphrase⟩ := exists_phrase_of_afterPhrase? hgo
      exact hfound (hphrase.ne_nil (by decide)) (hphrase.head_append (by decide) hlower.2 after)
        (Or.inr (Or.inr (Or.inl hphrase)))
    · obtain ⟨hword, hend⟩ := Option.filter_eq_some_iff.mp hpro
      obtain ⟨marked, rfl, hcase : IsInAnyCase "pro" marked⟩ :=
        Text.exists_append_of_afterFolded? hword
      have hne : marked ≠ [] := hcase.ne_nil (by decide)
      have hhead : (marked ++ after).head?.any PluginReadme.isWordChar = true :=
        head_append_any hne fun c hc ↦ hcase.isWordChar hlower.1 hc
      exact hfound hne hhead (Or.inr (Or.inr (Or.inr ⟨hcase, by simpa using hend⟩)))
  · exact absurd h (by simp)

/-- What a promotional word is found at stands there as the pattern of the word asks. -/
theorem exists_promotion_of_hit {line : Text} {read : Recogniser Unit} {hit : Scan.Hit Unit}
    (hread : (word, read) ∈ promotions) (h : hit ∈ Scan.hits read line) :
    ∃ before marked after, line = before ++ marked ++ after ∧ hit.start = before.length ∧
      hit.stop = hit.start + marked.length ∧ marked ≠ [] ∧
        IsPromotion word before marked after := by
  obtain ⟨before, rest, extra, rfl, hstart, hstop, hfound⟩ := Scan.exists_of_mem_hits h
  have hmarked : ∃ marked after, rest = marked ++ after ∧ marked.length = extra + 1 ∧
      IsPromotion word before marked after := by
    rcases List.mem_append.mp hread with hlone | hpro
    · obtain ⟨own, hown, heq⟩ := List.mem_map.mp hlone
      obtain ⟨rfl, rfl⟩ := Prod.mk.inj heq
      exact exists_promotion_of_loneWord hown hfound
    · obtain ⟨rfl, rfl⟩ := Prod.mk.inj (List.mem_singleton.mp hpro)
      exact exists_promotion_of_proPhrase hfound
  obtain ⟨marked, after, rfl, hlength, hshape⟩ := hmarked
  refine ⟨before, marked, after, (List.append_assoc _ _ _).symm, hstart, ?_, ?_, hshape⟩
  · rw [hstop, hlength, Nat.add_assoc]
  · exact List.ne_nil_of_length_eq_add_one hlength

/-- The words on a line are the hits of all recognisers. -/
theorem mem_promotionsOn_iff {line : Text} {start stop : Nat} :
    (start, stop, word) ∈ promotionsOn line ↔ ∃ read, (word, read) ∈ promotions ∧
      ∃ hit ∈ Scan.hits read line, hit.start = start ∧ hit.stop = stop := by
  rw [promotionsOn, List.mem_mergeSort, List.mem_flatMap]
  constructor
  · rintro ⟨⟨found, read⟩, hread, hhit⟩
    obtain ⟨hit, hmem, heq⟩ := List.mem_map.mp hhit
    simp only [Prod.mk.injEq] at heq
    obtain ⟨hstart, hstop, rfl⟩ := heq
    exact ⟨read, hread, hit, hmem, hstart, hstop⟩
  · rintro ⟨read, hread, hit, hmem, rfl, rfl⟩
    exact ⟨(word, read), hread, List.mem_map.mpr ⟨hit, hmem, rfl⟩⟩

structure IsMailAddress (before marked after : Text) : Prop where
  parts : ∃ name host last, marked = name ++ '@' :: (host ++ '.' :: last) ∧
    name ≠ [] ∧ (∀ c ∈ name, isMailName c = true) ∧
    host ≠ [] ∧ (∀ c ∈ host, isMailHost c = true) ∧
    2 ≤ last.length ∧ ∀ c ∈ last, c.isAlpha = true
  start : IsWordEdge before (marked ++ after)
  stop : IsWordEdge (before ++ marked) after

end Check

end PluginReadme
