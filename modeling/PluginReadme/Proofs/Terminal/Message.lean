import PluginReadme.Proofs.Text.Scan
import PluginReadme.Terminal.Styled
import PluginReadme.Terminal.Wrap

/-!
# Messages on a terminal

A message without an opening bracket holds no tag and shows all that it says, with pictures in place
of their names (`shown_of_not_mem`). However a text is cut into lines, a space in front of it stays
in front: each pass over the text keeps the first character of its first piece (`Opens`), and a
space has a column of its own whatever follows it (`opens_wrapped`).
-/

namespace PluginReadme.Terminal

variable {t : Text} {c : Char} {width : Nat}

/-! ## Texts without tags -/

theorem isFree_tag (h : '[' ∉ t) : Scan.IsFree tag t := by
  intro before tail htail
  have hrest : '[' ∉ tail.dropWhile (· == '\\') := fun hmem ↦
    h (htail.subset ((List.dropWhile_suffix _).subset hmem))
  unfold tag
  dsimp only
  split
  · next body heq => exact absurd (heq ▸ List.mem_cons_self) hrest
  · rfl

theorem replaceAll_bracket_of_not_mem (h : '[' ∉ t) : Text.replaceAll "\\[" "[" t = t := by
  change Text.replaceFrom ['\\', '['] ['['] 0 t = t
  induction t with
  | nil => rfl
  | cons c t ih =>
    have ht : '[' ∉ t := fun hmem ↦ h (List.mem_cons_of_mem c hmem)
    have hprefix : List.isPrefixOf ['\\', '['] (c :: t) = false := by
      rw [Bool.eq_false_iff, Ne, List.isPrefixOf_iff_prefix]
      exact fun hpart ↦ h (hpart.subset (by simp))
    rw [Text.replaceFrom, hprefix, if_neg Bool.false_ne_true, ih ht]

theorem shown_of_not_mem (h : '[' ∉ t) : shown t = .ok (withoutControls (pictured t)) := by
  by_cases hne : t = []
  · rw [hne]
    rfl
  · have htokens : tokens t = [.shown t] := by
      calc
        tokens t = tokensFrom 0 [.plain t] := by
          rw [tokens, Scan.pieces, Scan.piecesFrom_of_isFree (isFree_tag h),
            Scan.stretches_map_plain hne]
        _ = [.shown t] := by
          rw [tokensFrom, replaceAll_bracket_of_not_mem h]
          rfl
    have hshown : shownFrom [] [.shown t] = .ok (pictured t ++ []) := rfl
    rw [shown, htokens, hshown, List.append_nil]
    rfl

/-- Only a colon begins a name of a picture. -/
theorem pictured_cons (h : c ≠ ':') (t : Text) : pictured (c :: t) = c :: pictured t := by
  have hnone : pictureName none (c :: t) = none := by
    unfold pictureName
    split
    · next heq => exact absurd (List.cons.inj heq).1 h
    · rfl
  rw [pictured, Scan.substitute_eq_flatMap, Scan.pieces_cons_of_none (fun _ _ ↦ rfl) hnone]
  rfl

/-! ## The first character -/

def Opens (c : Char) (pieces : List Text) : Prop := ∃ t more, pieces = (c :: t) :: more

theorem Opens.append {pieces : List Text} (h : Opens c pieces) (more : List Text) :
    Opens c (pieces ++ more) := by
  obtain ⟨t, others, rfl⟩ := h
  exact ⟨t, others ++ more, rfl⟩

theorem opens_splitOn {mark : Char} (h : c ≠ mark) (t : Text) :
    Opens c (Text.splitOn mark (c :: t)) := by
  rw [Text.splitOn, if_neg h]
  cases Text.splitOn mark t with
  | nil => exact ⟨[], [], rfl⟩
  | cons first more => exact ⟨first, more, rfl⟩

theorem opens_ontoFirst (t : Text) (pieces : List Text) : Opens c (ontoFirst (c :: t) pieces) := by
  cases pieces with
  | nil => exact ⟨t, [], rfl⟩
  | cons first more => exact ⟨t ++ first, more, rfl⟩

theorem exists_expanded (h : c ≠ '\t') (t : Text) : ∃ rest, expanded (c :: t) = c :: rest := by
  obtain ⟨first, more, hpieces⟩ := opens_splitOn h t
  rw [expanded, hpieces]
  cases more with
  | nil => exact ⟨first, rfl⟩
  | cons second more => exact ⟨_, rfl⟩

theorem opens_wordsFrom {word : Text} (hword : word.getLast? = some c) (t : Text) :
    wordsFrom word t = [] ∨ Opens c (wordsFrom word t) := by
  have hreverse : ∃ rest, word.reverse = c :: rest := by
    rw [← List.head?_eq_some_iff, List.head?_reverse]
    exact hword
  induction t generalizing word with
  | nil =>
    rw [wordsFrom]
    split_ifs
    · exact Or.inl rfl
    · obtain ⟨rest, hrest⟩ := hreverse
      exact Or.inr ⟨rest, [], by rw [hrest]⟩
  | cons d t ih =>
    rw [wordsFrom]
    split_ifs
    · obtain ⟨rest, hrest⟩ := hreverse
      exact Or.inr ⟨rest, _, by rw [hrest]⟩
    · have hlonger : (d :: word).getLast? = some c := by
        rw [List.getLast?_cons, hword]
        rfl
      refine ih hlonger ?_
      rw [← List.head?_eq_some_iff, List.head?_reverse]
      exact hlonger

/-- The first word of a line starts where the line does, unless there is no word. -/
theorem opens_words (c : Char) (t : Text) : words (c :: t) = [] ∨ Opens c (words (c :: t)) := by
  have hfirst : words (c :: t) = wordsFrom [c] t := by
    rw [words, wordsFrom]
    simp
  rw [hfirst]
  exact opens_wordsFrom rfl t

/-! ## Lines in the making -/

theorem lines_breakBefore {filling : Filling} (h : Opens c filling.lines) (piece : Text) :
    (filling.breakBefore piece).lines = filling.lines ++ [piece] := by
  have hnew : filling.isNew = false := by
    rw [Bool.eq_false_iff, Filling.isNew, Ne, Bool.and_eq_true, List.isEmpty_iff, List.isEmpty_iff]
    rintro ⟨hdone, hcurrent⟩
    obtain ⟨t, more, heq⟩ := h
    rw [Filling.lines, hdone, hcurrent] at heq
    exact absurd heq (by simp)
  rw [Filling.breakBefore, hnew, if_neg Bool.false_ne_true]
  simp [Filling.lines]

theorem opens_foldl_breakBefore {filling : Filling} (h : Opens c filling.lines)
    (pieces : List Text) : Opens c (pieces.foldl Filling.breakBefore filling).lines := by
  induction pieces generalizing filling with
  | nil => exact h
  | cons piece pieces ih =>
    refine ih ?_
    rw [lines_breakBefore h]
    exact h.append [piece]

/-- A word on the line or after it leaves the first character where it is. -/
theorem opens_add {filling : Filling} (h : Opens c filling.lines) (word : Text) :
    Opens c (filling.add width word).lines := by
  unfold Filling.add
  dsimp only
  split_ifs
  · obtain ⟨t, more, heq⟩ := h
    rw [Filling.lines, List.reverse_cons] at heq ⊢
    dsimp only
    rcases List.append_eq_cons_iff.mp heq with ⟨hdone, hcurrent⟩ | ⟨done, hdone, -⟩
    · rw [hdone]
      rw [(List.cons.inj hcurrent).1]
      exact ⟨t ++ word, [], rfl⟩
    · rw [hdone]
      exact ⟨t, done ++ [filling.current ++ word], rfl⟩
  · exact opens_foldl_breakBefore h _
  · rw [lines_breakBefore h]
    exact h.append [word]

/-- Words that are added stay behind the first one. -/
theorem opens_foldl_add {filling : Filling} (h : Opens c filling.lines) (words : List Text) :
    Opens c (words.foldl (Filling.add width) filling).lines := by
  induction words generalizing filling with
  | nil => exact h
  | cons word words ih => exact ih (opens_add h word)

/-! ## Columns -/

/-- Characters that join a cluster leave its beginning and its width, unless they make a picture of
it. -/
theorem exists_afterCluster {seen : Option Char} (hseen : seen.any hasPicture = false)
    (cluster : Cluster) (t : Text) : ∃ tail rest,
      Cluster.afterCluster seen cluster t = ⟨cluster.text ++ tail, cluster.width⟩ :: rest := by
  fun_induction Cluster.afterCluster seen cluster t with
  | case1 seen cluster => exact ⟨[], [], by rw [List.append_nil]⟩
  | case2 seen cluster c hjoiner => exact ⟨[c], [], rfl⟩
  | case3 seen cluster c hjoiner next rest ih =>
    obtain ⟨tail, others, heq⟩ := ih hseen
    exact ⟨[c, next] ++ tail, others, by rw [heq, Cluster.join, List.append_assoc]⟩
  | case4 seen cluster c rest hjoiner hpresentation hpicture ih =>
    rw [hseen] at hpicture
    exact absurd hpicture Bool.false_ne_true
  | case5 seen cluster c rest hjoiner hpresentation hpicture ih =>
    obtain ⟨tail, others, heq⟩ := ih hseen
    exact ⟨[c] ++ tail, others, by rw [heq, Cluster.join, List.append_assoc]⟩
  | case6 seen cluster c rest hjoiner hpresentation hcolumns ih =>
    obtain ⟨tail, others, heq⟩ := ih hseen
    exact ⟨[c] ++ tail, others, by rw [heq, Cluster.join, List.append_assoc]⟩
  | case7 seen cluster c rest hjoiner hpresentation hcolumns ih =>
    exact ⟨[], _, by rw [List.append_nil]⟩

/-- The cluster of a space takes one column. -/
theorem exists_ofText_space (t : Text) :
    ∃ tail rest, Cluster.ofText (' ' :: t) = ⟨' ' :: tail, 1⟩ :: rest := by
  have hjoins : (isJoiner ' ' || isPresentation ' ' || decide (columns ' ' = 0)) = false := by
    decide +kernel
  have hcolumns : columns ' ' = 1 := by decide +kernel
  have hpicture : (some ' ').any hasPicture = false := by decide +kernel
  rw [Cluster.ofText, hjoins, if_neg Bool.false_ne_true, hcolumns]
  exact exists_afterCluster hpicture ⟨[' '], 1⟩ t

/-! ## Lines that start with a space -/

theorem opens_folded (hwidth : 0 < width) (t : Text) : Opens ' ' (folded width (' ' :: t)) := by
  obtain ⟨tail, rest, hclusters⟩ := exists_ofText_space t
  rw [folded, hclusters, foldedFrom, if_neg (Nat.not_lt.mpr hwidth)]
  exact opens_ontoFirst tail _

/-- A line that begins with a space is divided into lines of which the first does. -/
theorem opens_dividedLine (hwidth : 0 < width) (t : Text) :
    Opens ' ' (dividedLine width (' ' :: t)) := by
  unfold dividedLine
  dsimp only
  rcases opens_words ' ' t with hnone | ⟨word, more, hwords⟩
  · rw [hnone]
    exact ⟨t, [], rfl⟩
  · rw [hwords, if_neg (by simp), List.foldl_cons]
    have hfirst : Opens ' ' (Filling.add width ⟨[], []⟩ (' ' :: word)).lines := by
      unfold Filling.add
      dsimp only
      split_ifs
      · exact ⟨word, [], rfl⟩
      · obtain ⟨piece, others, hfolded⟩ := opens_folded hwidth word
        rw [hfolded]
        exact opens_foldl_breakBefore ⟨piece, [], rfl⟩ others
      · exact ⟨word, [], rfl⟩
    exact opens_foldl_add hfirst more

theorem exists_cut_withoutOverhang (hwidth : 0 < width) (t : Text) :
    ∃ rest, cut width (withoutOverhang width (' ' :: t)) = ' ' :: rest := by
  obtain ⟨line, hline⟩ : ∃ line, withoutOverhang width (' ' :: t) = ' ' :: line := by
    unfold withoutOverhang
    dsimp only
    rw [List.length_cons]
    obtain ⟨n, hn⟩ : ∃ n, t.length + 1 -
        min (Text.takeEndWhile isBlank (' ' :: t)).length (t.length + 1 - width) = n + 1 :=
      Nat.exists_eq_add_one.mpr (by omega)
    rw [hn]
    exact ⟨t.take n, rfl⟩
  rw [hline, cut]
  split_ifs
  · obtain ⟨tail, rest, hclusters⟩ := exists_ofText_space line
    obtain ⟨start, hstart⟩ : ∃ start, fitting width (⟨' ' :: tail, 1⟩ :: rest) = ' ' :: start :=
      ⟨_, if_pos hwidth⟩
    rw [padded, hclusters, hstart]
    exact ⟨_, rfl⟩
  · exact ⟨line, rfl⟩

/-- A space in front of a text stays in front of its lines. -/
theorem opens_wrapped (hwidth : 0 < width) (t : Text) : Opens ' ' (wrapped width (' ' :: t)) := by
  have hfeed : ' ' ≠ '\n' := by decide
  have htab : ' ' ≠ '\t' := by decide
  obtain ⟨first, more, hsplit⟩ := opens_splitOn hfeed t
  obtain ⟨line, hline⟩ := exists_expanded htab first
  obtain ⟨piece, others, hpieces⟩ := opens_dividedLine hwidth line
  obtain ⟨rest, hrest⟩ := exists_cut_withoutOverhang hwidth piece
  rw [wrapped, hsplit, List.flatMap_cons, hline, hpieces, List.map_cons, hrest]
  exact ⟨rest, _, rfl⟩

end PluginReadme.Terminal
