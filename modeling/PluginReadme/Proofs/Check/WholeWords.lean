import Mathlib.Data.List.Pairwise
import PluginReadme.Proofs.Check.Places

/-!
# Promotional words that are whole words

A promotion begins where a word begins (`IsPromotion.edges`), and a word of its own also ends where
one ends. A phrase does not have to: `go provided` holds `go pro`. What is found ends inside a
longer word exactly where such a phrase runs on (`after_free_of_hit`,
`exists_issue_of_isProPhrase`). Inside a promotion a word begins only where the second word of a
phrase does (`IsPromotion.eq_second`), so two promotions share characters only in `go professional`,
where the phrase runs on as well (`IsPromotion.runsOn_of_inner`). The two laws hold for the lines
without such a phrase, and for no others (`promotionalLanguage_whole_iff`).
-/

namespace PluginReadme.Check

variable {before marked after front back line word first second rest : Text}

/-! ## Phrases -/

def proPhrases : List (Text × Text) :=
  [("pro".toList, "version".toList), ("pro".toList, "edition".toList), ("go".toList, "pro".toList)]

def EndsWithGo (t : Text) : Prop :=
  ∃ before go gap, t = before ++ go ++ gap ∧ before.getLast?.any isWordChar = false ∧
    IsInAnyCase "go" go ∧ gap ≠ [] ∧ ∀ c ∈ gap, isBlank c = true

/-- A phrase behind a text, where its `pro` does not belong to a phrase already. -/
def IsProPhrase (before phrase : Text) : Prop :=
  ∃ first second, (first, second) ∈ proPhrases ∧ IsPhrase first second phrase ∧
    (first = "pro".toList → ¬ EndsWithGo before)

/-- A phrase begins where a word begins and ends inside a longer word. -/
def RunsOn (line : Text) : Prop :=
  ∃ before phrase after, line = before ++ phrase ++ after ∧
    before.getLast?.any isWordChar = false ∧ IsProPhrase before phrase ∧
    after.head?.any isWordChar = true

theorem isLower_of_mem_proPhrases (h : (first, second) ∈ proPhrases) :
    (∀ c ∈ first, c.isLower = true) ∧ (∀ c ∈ second, c.isLower = true) := by
  have hall : ∀ pair ∈ proPhrases,
      pair.1.all Char.isLower = true ∧ pair.2.all Char.isLower = true := by decide
  obtain ⟨hfirst, hsecond⟩ := hall (first, second) h
  exact ⟨List.all_eq_true.mp hfirst, List.all_eq_true.mp hsecond⟩

theorem ne_nil_of_mem_proPhrases (h : (first, second) ∈ proPhrases) : first ≠ [] ∧ second ≠ [] := by
  have hall : ∀ pair ∈ proPhrases, pair.1 ≠ [] ∧ pair.2 ≠ [] := by decide
  exact hall (first, second) h

theorem last_any_of_forall {p : Char → Bool} (hne : marked ≠ []) (h : ∀ c ∈ marked, p c = true) :
    marked.getLast?.any p = true := by
  rw [← List.nil_append marked]
  exact last_append_any hne h

/-- Inside a phrase a word begins only where the second word does. -/
theorem IsPhrase.eq_second (h : IsPhrase first second (front ++ back))
    (hpair : (first, second) ∈ proPhrases) (hfront : front ≠ [])
    (hbefore : front.getLast?.any isWordChar = false) (hback : back.head?.any isWordChar = true) :
    IsInAnyCase second back ∧ ∃ start gap, front = start ++ gap ∧ IsInAnyCase first start ∧
      gap ≠ [] ∧ ∀ c ∈ gap, isBlank c = true := by
  obtain ⟨start, gap, stop, hsplit, hstart, hgap, hblank, hstop⟩ := h
  obtain ⟨hfirst, hsecond⟩ := isLower_of_mem_proPhrases hpair
  have hstartChars : ∀ c ∈ start, PluginReadme.isWordChar c = true :=
    fun c hc ↦ hstart.isWordChar hfirst hc
  have hstopChars : ∀ c ∈ stop, PluginReadme.isWordChar c = true :=
    fun c hc ↦ hstop.isWordChar hsecond hc
  rw [List.append_assoc] at hsplit
  rcases List.append_eq_append_iff.mp hsplit with ⟨inner, rfl, -⟩ | ⟨tail, rfl, htail⟩
  · have hword := last_any_of_forall hfront
      fun c hc ↦ hstartChars c (List.mem_append_left inner hc)
    rw [hbefore] at hword
    exact absurd hword Bool.false_ne_true
  -- The place is neither among the blanks nor behind the first letter of the second word.
  · have hends : tail = gap := by
      rcases List.append_eq_append_iff.mp htail with ⟨inner, rfl, rfl⟩ | ⟨inner, rfl, rfl⟩
      · by_contra hne
        have hinner : inner ≠ [] := fun hnil ↦ hne (by rw [hnil, List.append_nil])
        have hword : (start ++ gap ++ inner).getLast?.any isWordChar = true :=
          last_append_any hinner fun c hc ↦ hstopChars c (List.mem_append_left back hc)
        rw [List.append_assoc, hbefore] at hword
        exact absurd hword Bool.false_ne_true
      · cases inner with
        | nil => exact (List.append_nil tail).symm
        | cons c inner =>
          have hc : isBlank c = true := hblank c (by simp)
          exact absurd hback (by simp [isWordChar_of_isBlank hc])
    subst hends
    rw [List.append_cancel_left_eq] at htail
    exact ⟨htail ▸ hstop, start, tail, rfl, hstart, hgap, hblank⟩

/-! ## Where a phrase is read -/

theorem IsInAnyCase.head_append (h : IsInAnyCase word marked) (hword : word ≠ []) (after : Text) :
    (marked ++ after).head?.map foldCase = word.head? := by
  rw [List.head?_append_of_ne_nil _ (h.ne_nil hword), ← h, List.head?_map]

theorem afterFolded?_of_head (hword : word ≠ []) (h : rest.head?.map foldCase ≠ word.head?) :
    Text.afterFolded? word rest = none := by
  obtain ⟨c, word, rfl⟩ := List.exists_cons_of_ne_nil hword
  cases rest with
  | nil => rfl
  | cons d rest => exact if_neg fun heq ↦ h (congrArg some heq)

theorem afterPhrase?_of_head (hfirst : first ≠ []) (h : rest.head?.map foldCase ≠ first.head?) :
    afterPhrase? first second rest = none := by
  rw [afterPhrase?, afterFolded?_of_head hfirst h]

/-- Behind the first word and the blanks only the second word is left to be read. -/
theorem afterPhrase?_append {start gap : Text} (hstart : IsInAnyCase first start) (hgap : gap ≠ [])
    (hblank : ∀ c ∈ gap, isBlank c = true) (hrest : ∀ c ∈ rest.head?, isBlank c = false) :
    afterPhrase? first second (start ++ gap ++ rest) = Text.afterFolded? second rest := by
  have hfirst : Text.afterFolded? first (start ++ (gap ++ rest)) = some (gap ++ rest) :=
    Text.afterFolded?_eq_some_iff.mpr ⟨start, rfl, hstart⟩
  have hhead : (gap ++ rest).head?.any isBlank = true := head_append_any hgap hblank
  have hstrip : Text.stripLeft (gap ++ rest) = rest := by
    rw [Text.stripLeft, List.dropWhile_append_of_pos hblank, Text.dropWhile_eq_self hrest]
  rw [List.append_assoc, afterPhrase?, hfirst]
  simp only [hhead, if_true, hstrip]

/-- Behind a character that belongs to no word, a phrase is read as it stands. -/
theorem proPhrase_append (hbefore : before.getLast?.any isWordChar = false)
    (hpair : (first, second) ∈ proPhrases) (h : IsPhrase first second marked) (after : Text) :
    proPhrase before.getLast? (marked ++ after) = some ((), marked.length - 1) := by
  obtain ⟨start, gap, stop, rfl, hstart, hgap, hblank, hstop⟩ := h
  obtain ⟨hfirst, hsecond⟩ := ne_nil_of_mem_proPhrases hpair
  have hstopHead : ∀ c ∈ (stop ++ after).head?, isBlank c = false := by
    rw [List.head?_append_of_ne_nil _ (hstop.ne_nil hsecond)]
    intro c hc
    exact isBlank_of_isWordChar
      (hstop.isWordChar (isLower_of_mem_proPhrases hpair).2 (List.mem_of_mem_head? hc))
  have hphrase (other : Text) : afterPhrase? first other (start ++ gap ++ (stop ++ after)) =
      Text.afterFolded? other (stop ++ after) := afterPhrase?_append hstart hgap hblank hstopHead
  have hfound : Text.afterFolded? second (stop ++ after) = some after :=
    Text.afterFolded?_eq_some_iff.mpr ⟨stop, rfl, hstop⟩
  have hstartHead := hstart.head_append hfirst (gap ++ (stop ++ after))
  have hstopFold := hstop.head_append hsecond after
  rw [← List.append_assoc start] at hstartHead
  rw [List.append_assoc (start ++ gap)]
  have hread : (afterPhrase? "pro" "version" (start ++ gap ++ (stop ++ after)) <|>
      afterPhrase? "pro" "edition" (start ++ gap ++ (stop ++ after)) <|>
      afterPhrase? "go" "pro" (start ++ gap ++ (stop ++ after)) <|>
      (Text.afterFolded? "pro" (start ++ gap ++ (stop ++ after))).filter
        fun rest ↦ !rest.head?.any isWordChar) = some after := by
    simp only [proPhrases, List.mem_cons, Prod.mk.injEq, List.not_mem_nil, or_false] at hpair
    rcases hpair with ⟨rfl, rfl⟩ | ⟨rfl, rfl⟩ | ⟨rfl, rfl⟩
    · rw [hphrase, hfound]
      rfl
    · have hversion : Text.afterFolded? "version" (stop ++ after) = none :=
        afterFolded?_of_head (by decide) (by rw [hstopFold]; decide)
      rw [hphrase, hversion, hphrase, hfound]
      rfl
    · have hpro (other : Text) :
          afterPhrase? "pro" other (start ++ gap ++ (stop ++ after)) = none :=
        afterPhrase?_of_head (by decide) (by rw [hstartHead]; decide)
      rw [hpro, hpro, hphrase, hfound]
      rfl
  unfold proPhrase
  dsimp only
  rw [hread]
  have hlength : (start ++ gap ++ (stop ++ after)).length - after.length - 1 =
      (start ++ gap ++ stop).length - 1 := by
    simp only [List.length_append]
    omega
  dsimp only
  rw [if_neg (Bool.eq_false_iff.mp hbefore), hlength]

/-! ## Where a word begins -/

theorem IsPromotion.start (h : IsPromotion word before marked after) :
    IsWordEdge before (marked ++ after) := by
  cases h with
  | lone _ _ hstart _ => exact hstart
  | pro hstart _ => exact hstart

/-- The word of a promotion, written in any case, is a word. -/
theorem forall_isWordChar_of_mem (hmem : word ∈ "pro".toList :: loneWords)
    (h : IsInAnyCase word marked) :
    marked ≠ [] ∧ ∀ c ∈ marked, PluginReadme.isWordChar c = true := by
  have hlower : ∀ word ∈ "pro".toList :: loneWords, word ≠ [] ∧ word.all Char.isLower = true := by
    decide
  obtain ⟨hne, hall⟩ := hlower word hmem
  exact ⟨h.ne_nil hne, fun c hc ↦ h.isWordChar (List.all_eq_true.mp hall) hc⟩

/-- A promotion is a word of its own, or a phrase. -/
theorem IsPromotion.cases (h : IsPromotion word before marked after) :
    word ∈ "pro".toList :: loneWords ∧ IsInAnyCase word marked ∧
      after.head?.any isWordChar = false ∨
    word = "pro".toList ∧
      ∃ first second, (first, second) ∈ proPhrases ∧ IsPhrase first second marked := by
  cases h with
  | lone hmem hcase _ hstop =>
    obtain ⟨hne, hchars⟩ := forall_isWordChar_of_mem (List.mem_cons_of_mem _ hmem) hcase
    rw [IsWordEdge, last_append_any hne hchars] at hstop
    exact .inl ⟨List.mem_cons_of_mem _ hmem, hcase, by simpa using hstop.symm⟩
  | pro _ hphrase =>
    rcases hphrase with h | h | h | ⟨h, hafter⟩
    · exact .inr ⟨rfl, _, _, by decide, h⟩
    · exact .inr ⟨rfl, _, _, by decide, h⟩
    · exact .inr ⟨rfl, _, _, by decide, h⟩
    · exact .inl ⟨List.mem_cons_self, h, hafter⟩

/-- A promotional word begins at the edge of a word. -/
theorem IsPromotion.edges (h : IsPromotion word before marked after) :
    before.getLast?.any isWordChar = false ∧ (marked ++ after).head?.any isWordChar = true := by
  have hhead : (marked ++ after).head?.any isWordChar = true := by
    rcases h.cases with ⟨hmem, hcase, -⟩ | ⟨-, first, second, hpair, hphrase⟩
    · obtain ⟨hne, hchars⟩ := forall_isWordChar_of_mem hmem hcase
      exact head_append_any hne hchars
    · exact hphrase.head_append (ne_nil_of_mem_proPhrases hpair).1
        (isLower_of_mem_proPhrases hpair).1 after
  have hstart := h.start
  rw [IsWordEdge, hhead] at hstart
  exact ⟨by simpa using hstart, hhead⟩

/-- Inside a promotion a word begins only where the second word of a phrase does. -/
theorem IsPromotion.eq_second (h : IsPromotion word before (front ++ back) after)
    (hfront : front ≠ []) (hbefore : front.getLast?.any isWordChar = false)
    (hback : back.head?.any isWordChar = true) : word = "pro".toList ∧
      ∃ first second, (first, second) ∈ proPhrases ∧ IsPhrase first second (front ++ back) ∧
        IsInAnyCase second back ∧ ∃ start gap, front = start ++ gap ∧ IsInAnyCase first start ∧
          gap ≠ [] ∧ ∀ c ∈ gap, isBlank c = true := by
  rcases h.cases with ⟨hmem, hcase, -⟩ | ⟨hword, first, second, hpair, hphrase⟩
  · obtain ⟨-, hchars⟩ := forall_isWordChar_of_mem hmem hcase
    have hlast := last_any_of_forall hfront fun c hc ↦ hchars c (List.mem_append_left back hc)
    rw [hbefore] at hlast
    exact absurd hlast Bool.false_ne_true
  · exact ⟨hword, first, second, hpair, hphrase, hphrase.eq_second hpair hfront hbefore hback⟩

/-! ## Phrases that are found -/

/-- A place inside a part of a text cuts the part in two. -/
theorem exists_inner_split {other : Text} (h : before ++ marked ++ after = other ++ rest)
    (hstart : before.length ≤ other.length) (hstop : other.length < before.length + marked.length) :
    ∃ front back, other = before ++ front ∧ marked = front ++ back ∧ back ≠ [] ∧
      rest = back ++ after := by
  rw [List.append_assoc] at h
  obtain ⟨front, rfl, hrest⟩ : ∃ front, other = before ++ front ∧
      marked ++ after = front ++ rest := by
    rcases List.append_eq_append_iff.mp h with hfound | ⟨front, rfl, hfront⟩
    · exact hfound
    · rw [List.length_append] at hstart
      obtain rfl : front = [] := List.eq_nil_of_length_eq_zero (by omega)
      exact ⟨[], by simp, hfront.symm⟩
  rw [List.length_append] at hstop
  rcases List.append_eq_append_iff.mp hrest with ⟨more, rfl, -⟩ | ⟨back, rfl, rfl⟩
  · rw [List.length_append] at hstop
    omega
  · refine ⟨front, back, rfl, rfl, ?_, rfl⟩
    rintro rfl
    simp at hstop

theorem IsPhrase.map_head_append (h : IsPhrase first second marked) (hfirst : first ≠ [])
    (after : Text) : (marked ++ after).head?.map foldCase = first.head? := by
  obtain ⟨start, gap, stop, rfl, hstart, -⟩ := h
  rw [List.append_assoc, List.append_assoc]
  exact hstart.head_append hfirst _

theorem mem_promotions_pro : ("pro".toList, proPhrase) ∈ promotions :=
  List.mem_append_right _ List.mem_cons_self

/-- Every phrase that does not belong to another one is found. -/
theorem exists_hit_of_isProPhrase (hbefore : before.getLast?.any isWordChar = false)
    (h : IsProPhrase before marked) (after : Text) :
    ∃ hit ∈ Scan.hits proPhrase (before ++ marked ++ after), hit.start = before.length ∧
      hit.stop = before.length + marked.length := by
  obtain ⟨first, second, hpair, hphrase, hgo⟩ := h
  have hfirst : first ≠ [] := (ne_nil_of_mem_proPhrases hpair).1
  have hhead : (marked ++ after).head?.any isWordChar = true :=
    hphrase.head_append hfirst (isLower_of_mem_proPhrases hpair).1 after
  have hne : marked ≠ [] := hphrase.ne_nil hfirst
  have hread := proPhrase_append hbefore hpair hphrase after
  rw [List.append_assoc]
  rcases Scan.exists_hit_of_read (List.append_ne_nil_of_left_ne_nil hne after) hread with
    ⟨hit, hhit, hstart, hstop⟩ | ⟨hit, hhit, hstart, hstop⟩
  · have hpositive := List.length_pos_iff.mpr hne
    exact ⟨hit, hhit, hstart, by omega⟩
  -- The place would be that of a second word, and so the `pro` of a `go pro`.
  · obtain ⟨other, found, behind, hsplit, hother, hfound, -, hpromotion⟩ :=
      exists_promotion_of_hit mem_promotions_pro hhit
    obtain ⟨front, back, rfl, rfl, hback, hrest⟩ :=
      exists_inner_split hsplit.symm (by omega) (by omega)
    have hfront : front ≠ [] := by
      rintro rfl
      rw [List.append_nil] at hstart
      omega
    rw [List.getLast?_append_of_ne_nil _ hfront] at hbefore
    have hbackHead : back.head?.any isWordChar = true := by
      rwa [hrest, List.head?_append_of_ne_nil _ hback] at hhead
    obtain ⟨-, first', second', hpair', -, hsecond, start, gap, rfl, hword, hgap, hblank⟩ :=
      hpromotion.eq_second hfront hbefore hbackHead
    have hsame : second'.head? = first.head? := by
      rw [← hphrase.map_head_append hfirst after, hrest,
        hsecond.head_append (ne_nil_of_mem_proPhrases hpair').2]
    have hclash : ∀ pair ∈ proPhrases, ∀ pair' ∈ proPhrases, pair'.2.head? = pair.1.head? →
        pair.1 = "pro".toList ∧ pair'.1 = "go".toList := by decide
    obtain ⟨hpro, rfl⟩ := hclash _ hpair _ hpair' hsame
    exact absurd ⟨other, start, gap, by simp, hpromotion.edges.1, hword, hgap, hblank⟩ (hgo hpro)

/-- What is found as a phrase does not belong to another one. -/
theorem isProPhrase_of_hit {hit : Scan.Hit Unit} (hpair : (first, second) ∈ proPhrases)
    (hphrase : IsPhrase first second marked)
    (hhit : hit ∈ Scan.hits proPhrase (before ++ marked ++ after))
    (hstart : hit.start = before.length) : IsProPhrase before marked := by
  refine ⟨first, second, hpair, hphrase, ?_⟩
  rintro rfl ⟨front, go, gap, rfl, hfront, hgo, hgap, hblank⟩
  obtain ⟨pro, rest, stop, rfl, hpro, -⟩ := hphrase
  have hother : IsProPhrase front (go ++ gap ++ pro) :=
    ⟨_, _, by decide, ⟨go, gap, pro, rfl, hgo, hgap, hblank, hpro⟩, fun h ↦ absurd h (by decide)⟩
  obtain ⟨found, hfound, hbegin, hend⟩ :=
    exists_hit_of_isProPhrase hfront hother (rest ++ stop ++ after)
  have hsame : front ++ (go ++ gap ++ pro) ++ (rest ++ stop ++ after) =
      front ++ go ++ gap ++ (pro ++ rest ++ stop) ++ after := by simp
  rw [hsame] at hfound
  have hgapLength := List.length_pos_iff.mpr hgap
  have hproLength := List.length_pos_iff.mpr (hpro.ne_nil (by decide))
  simp only [List.length_append] at hstart hend
  have hapart := Scan.stop_le_start_of_mem_hits hfound hhit (by omega)
  omega

/-! ## Whole words -/

/-- A part of a line with no word character directly before or after it, and with word edges at both
of its ends. -/
structure IsWhole (before marked after : Text) : Prop where
  start : IsWordEdge before (marked ++ after)
  stop : IsWordEdge (before ++ marked) after
  before_free : before.getLast?.any isWordChar = false
  after_free : after.head?.any isWordChar = false

theorem IsPhrase.last_append (h : IsPhrase first second marked)
    (hpair : (first, second) ∈ proPhrases) (before : Text) :
    (before ++ marked).getLast?.any PluginReadme.isWordChar = true := by
  obtain ⟨start, gap, stop, rfl, -, -, -, hstop⟩ := h
  rw [← List.append_assoc]
  exact last_append_any (hstop.ne_nil (ne_nil_of_mem_proPhrases hpair).2)
    fun c hc ↦ hstop.isWordChar (isLower_of_mem_proPhrases hpair).2 hc

/-- A promotional word that no word character follows is whole. -/
theorem IsPromotion.isWhole (h : IsPromotion word before marked after)
    (hafter : after.head?.any isWordChar = false) : IsWhole before marked after where
  start := h.start
  stop := by
    apply isWordEdge_stop ?_ hafter
    rcases h.cases with ⟨hmem, hcase, -⟩ | ⟨-, first, second, hpair, hphrase⟩
    · obtain ⟨hne, hchars⟩ := forall_isWordChar_of_mem hmem hcase
      exact last_append_any hne hchars
    · exact hphrase.last_append hpair before
  before_free := h.edges.1
  after_free := hafter

theorem eq_proPhrase_of_mem {read : Recogniser Unit} (h : ("pro".toList, read) ∈ promotions) :
    read = proPhrase := by
  rcases List.mem_append.mp h with hlone | hpro
  · obtain ⟨own, hown, heq⟩ := List.mem_map.mp hlone
    have hnone : "pro".toList ∉ loneWords := by decide
    exact absurd ((Prod.mk.inj heq).1 ▸ hown) hnone
  · exact (Prod.mk.inj (List.mem_singleton.mp hpro)).2

/-- Where no phrase runs on, what is found ends where a word ends. -/
theorem after_free_of_hit {read : Recogniser Unit} {hit : Scan.Hit Unit}
    (hread : (word, read) ∈ promotions)
    (hhit : hit ∈ Scan.hits read (before ++ marked ++ after)) (hstart : hit.start = before.length)
    (hpromotion : IsPromotion word before marked after)
    (hruns : ¬ RunsOn (before ++ marked ++ after)) : after.head?.any isWordChar = false := by
  rcases hpromotion.cases with ⟨-, -, hafter⟩ | ⟨rfl, first, second, hpair, hphrase⟩
  · exact hafter
  · rw [eq_proPhrase_of_mem hread] at hhit
    by_contra hafter
    exact hruns ⟨before, marked, after, rfl, hpromotion.edges.1,
      isProPhrase_of_hit hpair hphrase hhit hstart, by simpa using hafter⟩

/-! ## Words that share characters -/

theorem takeWhile_append_of_free (hchars : ∀ c ∈ marked, PluginReadme.isWordChar c = true)
    (hafter : after.head?.any isWordChar = false) :
    (marked ++ after).takeWhile isWordChar = marked := by
  rw [List.takeWhile_append_of_pos hchars]
  cases after with
  | nil => exact List.append_nil marked
  | cons c after =>
    have hc : isWordChar c = false := hafter
    rw [List.takeWhile_cons_of_neg (by simp [hc]), List.append_nil]

/-- The first word of a promotion is its own, or `go`. -/
theorem IsPromotion.firstWord (h : IsPromotion word before marked after) :
    IsInAnyCase word ((marked ++ after).takeWhile isWordChar) ∧ word ∈ "pro".toList :: loneWords ∨
      word = "pro".toList ∧ IsInAnyCase "go" ((marked ++ after).takeWhile isWordChar) := by
  rcases h.cases with ⟨hmem, hcase, hafter⟩ | ⟨rfl, first, second, hpair, hphrase⟩
  · rw [takeWhile_append_of_free (forall_isWordChar_of_mem hmem hcase).2 hafter]
    exact .inl ⟨hcase, hmem⟩
  · obtain ⟨start, gap, stop, rfl, hstart, hgap, hblank, -⟩ := hphrase
    obtain ⟨c, gap, rfl⟩ := List.exists_cons_of_ne_nil hgap
    have hc : isWordChar c = false := isWordChar_of_isBlank (hblank c List.mem_cons_self)
    have hfree : (c :: gap ++ stop ++ after).head?.any isWordChar = false := hc
    have hsplit : start ++ c :: gap ++ stop ++ after = start ++ (c :: gap ++ stop ++ after) := by
      simp
    rw [hsplit, takeWhile_append_of_free
      (fun c hc ↦ hstart.isWordChar (isLower_of_mem_proPhrases hpair).1 hc) hfree]
    have hnames : ∀ pair ∈ proPhrases, pair.1 = "pro".toList ∨ pair.1 = "go".toList := by decide
    rcases hnames _ hpair with rfl | rfl
    · exact .inl ⟨hstart, List.mem_cons_self⟩
    · exact .inr ⟨rfl, hstart⟩

/-- Two different promotions do not begin at one place. -/
theorem IsPromotion.eq_of_same_start {other otherMarked otherAfter : Text}
    (h : IsPromotion word before marked after)
    (hother : IsPromotion other before otherMarked otherAfter)
    (hsame : marked ++ after = otherMarked ++ otherAfter) : word = other := by
  have hfirst := h.firstWord
  rw [hsame] at hfirst
  have hgo : "go".toList ∉ "pro".toList :: loneWords := by decide
  rcases hfirst with ⟨hword, hmem⟩ | ⟨rfl, hword⟩
  · rcases hother.firstWord with ⟨hotherWord, -⟩ | ⟨-, hotherWord⟩
    · exact hword.symm.trans hotherWord
    · exact absurd (hword.symm.trans hotherWord ▸ hmem) hgo
  · rcases hother.firstWord with ⟨hotherWord, hmem⟩ | ⟨rfl, -⟩
    · exact absurd (hotherWord.symm.trans hword ▸ hmem) hgo
    · rfl

/-- A word of its own that begins inside a promotion is longer than the second word of a phrase. -/
theorem IsPromotion.runsOn_of_inner {other otherMarked otherAfter : Text} (hne : word ≠ other)
    (h : IsPromotion word before (front ++ back) after) (hfront : front ≠ [])
    (hother : IsPromotion other (before ++ front) otherMarked otherAfter)
    (hsame : otherMarked ++ otherAfter = back ++ after) (hback : back ≠ []) :
    RunsOn (before ++ (front ++ back) ++ after) := by
  obtain ⟨hbefore, hhead⟩ := hother.edges
  rw [List.getLast?_append_of_ne_nil _ hfront] at hbefore
  rw [hsame, List.head?_append_of_ne_nil _ hback] at hhead
  obtain ⟨rfl, first, second, hpair, hphrase, hsecond, -⟩ := h.eq_second hfront hbefore hhead
  refine ⟨before, front ++ back, after, rfl, h.edges.1, ?_⟩
  rcases hother.cases with ⟨hmem, hcase, hafter⟩ | ⟨rfl, -⟩
  · have hlone : other ∈ loneWords := (List.mem_cons.mp hmem).resolve_left hne.symm
    have hchars : ∀ c ∈ back, PluginReadme.isWordChar c = true :=
      fun c hc ↦ hsecond.isWordChar (isLower_of_mem_proPhrases hpair).2 hc
    have hwhole := takeWhile_append_of_free (forall_isWordChar_of_mem hmem hcase).2 hafter
    rw [hsame, List.takeWhile_append_of_pos hchars] at hwhole
    have hword : second ++ (after.takeWhile isWordChar).map foldCase = other := by
      rw [← hcase, ← hwhole, List.map_append, hsecond]
    have hlonger : ∀ pair ∈ proPhrases, ∀ lone ∈ loneWords, pair.2 <+: lone →
        pair.1 ≠ "pro".toList ∧ pair.2 ≠ lone := by decide
    obtain ⟨hpro, hshorter⟩ := hlonger _ hpair other hlone ⟨_, hword⟩
    refine ⟨⟨first, second, hpair, hphrase, fun h ↦ absurd h hpro⟩, ?_⟩
    cases after with
    | nil => exact absurd ((List.append_nil second).symm.trans hword) hshorter
    | cons c after =>
      by_contra hc
      rw [List.takeWhile_cons_of_neg (by simpa using hc)] at hword
      exact hshorter ((List.append_nil second).symm.trans hword)
  · exact absurd rfl hne

/-- Different promotions share characters only where a phrase runs on. -/
theorem IsPromotion.stop_le {other otherBefore otherMarked otherAfter : Text} (hne : word ≠ other)
    (h : IsPromotion word before marked after)
    (hother : IsPromotion other otherBefore otherMarked otherAfter)
    (hsame : before ++ marked ++ after = otherBefore ++ otherMarked ++ otherAfter)
    (hruns : ¬ RunsOn (before ++ marked ++ after)) (hstart : before.length ≤ otherBefore.length) :
    before.length + marked.length ≤ otherBefore.length := by
  by_contra hlt
  rw [List.append_assoc otherBefore] at hsame
  obtain ⟨front, back, rfl, rfl, hback, hrest⟩ := exists_inner_split hsame hstart (by omega)
  by_cases hfront : front = []
  · subst hfront
    rw [List.append_nil] at hother
    exact hne (h.eq_of_same_start hother hrest.symm)
  · exact hruns (h.runsOn_of_inner hne hfront hother hrest hback)

/-- Where no phrase runs on, promotional words have no characters in common. -/
theorem pairwise_promotionsOn (hruns : ¬ RunsOn line) :
    (promotionsOn line).Pairwise fun a b ↦ a.2.1 ≤ b.1 ∨ b.2.1 ≤ a.1 := by
  have hnames : promotions.Pairwise fun a b ↦ a.1 ≠ b.1 := by
    rw [← List.pairwise_map]
    decide
  rw [promotionsOn, (List.mergeSort_perm _ _).pairwise_iff fun h ↦ h.symm, List.pairwise_flatMap]
  constructor
  · intro promotion _
    rw [List.pairwise_map]
    exact (Scan.pairwise_hits promotion.2 line).imp Or.inl
  · refine hnames.imp_of_mem fun {a b} ha hb hne ↦ ?_
    simp only [List.forall_mem_map]
    intro hit hhit other hother
    obtain ⟨before, marked, after, rfl, hstart, hstop, -, hpromotion⟩ :=
      exists_promotion_of_hit ha hhit
    obtain ⟨otherBefore, otherMarked, otherAfter, hsame, hstart', hstop', -, hpromotion'⟩ :=
      exists_promotion_of_hit hb hother
    rw [hstop, hstop', hstart, hstart']
    rcases Nat.le_total before.length otherBefore.length with hle | hle
    · exact .inl (hpromotion.stop_le hne hpromotion' hsame hruns hle)
    · rw [hsame] at hruns
      exact .inr (hpromotion'.stop_le hne.symm hpromotion hsame.symm hruns hle)

/-! ## Issues -/

def EndsBefore (a b : Issue) : Prop := ∃ stop ∈ a.endColumn, ∃ start ∈ b.column, stop < start

variable {ls : List Text} {issue : Issue}

theorem EndsBefore.length_le {a b : Issue} (h : EndsBefore a b)
    (ha : a.Marks ls before marked after) (hb : b.Marks ls front back rest) :
    before.length + marked.length ≤ front.length := by
  obtain ⟨stop, hstop, start, hstart, hlt⟩ := h
  obtain rfl := Option.some.inj (ha.end_eq.symm.trans hstop)
  obtain rfl := Option.some.inj (hb.column_eq.symm.trans hstart)
  omega

/-- Every issue of promotional language comes from a hit of one of the words. -/
theorem exists_hit_of_mem_promotionalLanguage (h : issue ∈ promotionalLanguage ls) :
    ∃ before marked after word read, (word, read) ∈ promotions ∧
      issue.Marks ls before marked after ∧ IsPromotion word before marked after ∧
      before ++ marked ++ after ∈ ls ∧
      ∃ hit ∈ Scan.hits read (before ++ marked ++ after), hit.start = before.length := by
  obtain ⟨⟨line, index⟩, hline, h⟩ := List.mem_flatMap.mp h
  obtain ⟨⟨start, stop, word⟩, hmem, rfl⟩ := List.mem_map.mp h
  obtain ⟨read, hread, hit, hhit, rfl, rfl⟩ := mem_promotionsOn_iff.mp hmem
  obtain ⟨before, marked, after, rfl, hstart, hstop, hne, hshape⟩ :=
    exists_promotion_of_hit hread hhit
  have hat := getElem?_of_mem_zipIdx hline
  rw [hstart] at hstop
  refine ⟨before, marked, after, word, read, hread, ⟨⟨index, hat, rfl⟩, ?_, ?_, hne⟩, hshape,
    List.mem_of_getElem? hat, hit, hhit, hstart⟩
  · rw [hstart]
    rfl
  · rw [hstop]
    rfl

/-- Whatever is found on a line is reported. -/
theorem exists_issue_of_hit {read : Recogniser Unit} {hit : Scan.Hit Unit}
    (hmem : before ++ marked ++ after ∈ ls) (hread : (word, read) ∈ promotions)
    (hhit : hit ∈ Scan.hits read (before ++ marked ++ after)) (hstart : hit.start = before.length)
    (hstop : hit.stop = before.length + marked.length) (hne : marked ≠ []) :
    ∃ issue ∈ promotionalLanguage ls, issue.Marks ls before marked after := by
  obtain ⟨index, hat⟩ := List.getElem?_of_mem hmem
  have hfound : (before.length, before.length + marked.length, word) ∈
      promotionsOn (before ++ marked ++ after) :=
    mem_promotionsOn_iff.mpr ⟨read, hread, hit, hhit, hstart, hstop⟩
  exact ⟨_, List.mem_flatMap.mpr ⟨(_, index), List.mem_zipIdx_iff_getElem?.mpr hat,
    List.mem_map.mpr ⟨_, hfound, rfl⟩⟩, ⟨index, hat, rfl⟩, rfl, rfl, hne⟩

/-- Wherever a phrase with `pro` stands, it is reported. -/
theorem exists_issue_of_isProPhrase (hmem : before ++ marked ++ after ∈ ls)
    (hbefore : before.getLast?.any isWordChar = false) (h : IsProPhrase before marked) :
    ∃ issue ∈ promotionalLanguage ls, issue.Marks ls before marked after := by
  obtain ⟨hit, hhit, hstart, hstop⟩ := exists_hit_of_isProPhrase hbefore h after
  obtain ⟨first, second, hpair, hphrase, -⟩ := h
  exact exists_issue_of_hit hmem mem_promotions_pro hhit hstart hstop
    (hphrase.ne_nil (ne_nil_of_mem_proPhrases hpair).1)

/-- Issues of one line mark parts that do not overlap, unless a phrase runs on into a longer word.
-/
theorem pairwise_promotionalLanguage (hruns : ∀ line ∈ ls, ¬ RunsOn line) :
    (promotionalLanguage ls).Pairwise fun a b ↦
      a.line = b.line → EndsBefore a b ∨ EndsBefore b a := by
  rw [promotionalLanguage, List.pairwise_flatMap]
  constructor
  · rintro ⟨line, index⟩ hline
    have hat := getElem?_of_mem_zipIdx hline
    rw [List.pairwise_map]
    refine (pairwise_promotionsOn (hruns line (List.mem_of_getElem? hat))).imp
      fun {a b} hapart _ ↦ ?_
    rcases hapart with hapart | hapart
    · exact .inl ⟨a.2.1, rfl, b.1 + 1, rfl, by omega⟩
    · exact .inr ⟨b.2.1, rfl, a.1 + 1, rfl, by omega⟩
  · refine (pairwise_zipIdx ls 0).imp fun {a b} hlt ↦ ?_
    simp only [List.forall_mem_map]
    intro promotion _ other _ hsame
    have hindex : ((a.2 + 1 : Nat) : Int) = ((b.2 + 1 : Nat) : Int) := Option.some.inj hsame
    omega

/-- Every promotion begins where a word begins. All of them end where a word ends, and no two of a
line have a column in common, exactly if no phrase ends inside a longer word. -/
theorem promotionalLanguage_whole_iff (ls : List Text) :
    (∀ issue ∈ promotionalLanguage ls, ∃ before marked after, issue.Marks ls before marked after ∧
      before.getLast?.any isWordChar = false ∧ IsWordEdge before (marked ++ after)) ∧
    ((∀ issue ∈ promotionalLanguage ls, ∃ before marked after,
        issue.Marks ls before marked after ∧ IsWhole before marked after) ∧
      ((promotionalLanguage ls).Pairwise fun a b ↦
        a.line = b.line → EndsBefore a b ∨ EndsBefore b a) ↔
      ∀ line ∈ ls, ¬ RunsOn line) := by
  constructor
  · intro issue hissue
    obtain ⟨before, marked, after, _, _, _, hmarks, hpromotion, _⟩ :=
      exists_hit_of_mem_promotionalLanguage hissue
    exact ⟨before, marked, after, hmarks, hpromotion.edges.1, hpromotion.start⟩
  constructor
  · rintro ⟨hwhole, -⟩ line hline ⟨before, phrase, after, rfl, hbefore, hphrase, hafter⟩
    obtain ⟨issue, hissue, hmarks⟩ := exists_issue_of_isProPhrase hline hbefore hphrase
    obtain ⟨front, part, back, hmarks', hends⟩ := hwhole issue hissue
    obtain ⟨rfl, rfl, rfl⟩ := hmarks.unique hmarks'
    rw [hends.after_free] at hafter
    exact absurd hafter Bool.false_ne_true
  · intro hruns
    refine ⟨fun issue hissue ↦ ?_, pairwise_promotionalLanguage hruns⟩
    obtain ⟨before, marked, after, word, read, hread, hmarks, hpromotion, hline, hit, hhit,
      hstart⟩ := exists_hit_of_mem_promotionalLanguage hissue
    exact ⟨before, marked, after, hmarks, hpromotion.isWhole
      (after_free_of_hit hread hhit hstart hpromotion (hruns _ hline))⟩

/-- The beginning of `provided` is found as part of a phrase, and so is that of `professional`,
which is found whole as well. -/
theorem promotionalLanguage_provided :
    ¬ (∀ issue ∈ promotionalLanguage ["go provided".toList], ∃ before marked after,
      issue.Marks ["go provided".toList] before marked after ∧ IsWhole before marked after) ∧
    ¬ (promotionalLanguage ["go professional".toList]).Pairwise fun a b ↦
      a.line = b.line → EndsBefore a b ∨ EndsBefore b a := by
  constructor
  · intro hwhole
    have hline : [] ++ "go pro".toList ++ "vided".toList ∈ ["go provided".toList] :=
      List.mem_singleton.mpr rfl
    have hpro : ⟨0, 6, ()⟩ ∈ Scan.hits proPhrase "go provided" := List.mem_cons_self
    obtain ⟨phrase, hphrase, hmarks⟩ :=
      exists_issue_of_hit hline mem_promotions_pro hpro rfl rfl (by decide)
    obtain ⟨before, marked, after, hsame, hends⟩ := hwhole phrase hphrase
    obtain ⟨rfl, rfl, rfl⟩ := hmarks.unique hsame
    exact absurd hends.after_free (by decide)
  · intro hapart
    have hline : [] ++ "go pro".toList ++ "fessional".toList ∈ ["go professional".toList] :=
      List.mem_singleton.mpr rfl
    have hline' : "go ".toList ++ "professional".toList ++ [] ∈ ["go professional".toList] :=
      List.mem_singleton.mpr rfl
    have hpro : ⟨0, 6, ()⟩ ∈ Scan.hits proPhrase "go professional" := List.mem_cons_self
    have hlone : ⟨3, 15, ()⟩ ∈ Scan.hits (loneWord "professional") "go professional" :=
      List.mem_cons_self
    have hword : ("professional".toList, loneWord "professional") ∈ promotions :=
      List.mem_append_left _ (List.mem_map_of_mem (by decide))
    obtain ⟨phrase, hphrase, hmarks⟩ :=
      exists_issue_of_hit hline mem_promotions_pro hpro rfl rfl (by decide)
    obtain ⟨other, hother, hmarks'⟩ := exists_issue_of_hit hline' hword hlone rfl rfl (by decide)
    have hne : phrase ≠ other := by
      rintro rfl
      exact absurd (hmarks.unique hmarks').1 (by decide)
    have : Std.Symm fun a b : Issue ↦ a.line = b.line → EndsBefore a b ∨ EndsBefore b a :=
      ⟨fun a b hab hline ↦ (hab hline.symm).symm⟩
    have hsame : phrase.line = other.line := hmarks.line_eq_one.trans hmarks'.line_eq_one.symm
    rcases hapart.forall hphrase hother hne hsame with hbefore | hbefore
    · exact absurd (hbefore.length_le hmarks hmarks') (by decide)
    · exact absurd (hbefore.length_le hmarks' hmarks) (by decide)

end PluginReadme.Check
