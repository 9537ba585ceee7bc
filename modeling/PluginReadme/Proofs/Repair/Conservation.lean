import PluginReadme.Proofs.Repair.Ink

/-!
# What repair keeps

Repair keeps the ink of every line and its order, except that it may drop the word of a fence that
opens a block. Which fences open a block is said by following the lines outside and inside of blocks
(`LeavesInk`); the chunks of repair follow the same course (`leavesInk_chunksFrom`).
-/

namespace PluginReadme.Repair

/-- What may be left of the ink of each line, where `inside` says that a block is open: everything,
but for the word of a fence that opens a block. -/
inductive LeavesInk : (inside : Bool) → List Text → List Text → Prop
  | nil {inside : Bool} : LeavesInk inside [] []
  | text {line : Text} {ls left : List Text} : Fence.opening? line = none →
      LeavesInk false ls left → LeavesInk false (line :: ls) (ink line :: left)
  | opening {line language word : Text} {ls left : List Text} :
      Fence.opening? line = some language → word = ink language ∨ word = [] →
        LeavesInk true ls left → LeavesInk false (line :: ls) (word :: left)
  | code {line : Text} {ls left : List Text} : Fence.isClosing line = false →
      LeavesInk true ls left → LeavesInk true (line :: ls) (ink line :: left)
  | closing {line : Text} {ls left : List Text} : Fence.isClosing line = true →
      LeavesInk false ls left → LeavesInk true (line :: ls) (ink line :: left)

/-! ## Fences -/

/-- A fence that opens a block has the ink of its word. -/
theorem ink_of_opening? {line language : Text} (h : Fence.opening? line = some language) :
    ink line = ink language := by
  unfold Fence.opening? at h
  split at h
  · next rest hrest =>
    dsimp only at h
    split_ifs at h with hblank
    have htail := ink_of_blank (List.all_eq_true.mp hblank)
    have hword : rest.takeWhile isWordChar ++ rest.drop (rest.takeWhile isWordChar).length = rest :=
      List.prefix_iff_eq_append.mp (List.takeWhile_prefix isWordChar)
    calc
      ink line = ink (Fence.mark ++ rest) := by
        rw [List.append_eq_of_isPrefixOf?_eq_some hrest]
      _ = ink (rest.takeWhile isWordChar ++ rest.drop (rest.takeWhile isWordChar).length) := by
        rw [ink_append, ink_mark, List.nil_append, hword]
      _ = ink language := by
        rw [ink_append, htail, List.append_nil, Option.some.inj h]
  · exact absurd h (by simp)

theorem ink_of_isClosing {line : Text} (h : Fence.isClosing line = true) : ink line = [] := by
  unfold Fence.isClosing at h
  cases hrest : Text.after? Fence.mark line with
  | none =>
    rw [hrest] at h
    exact absurd h Bool.false_ne_true
  | some rest =>
    rw [hrest] at h
    rw [← List.append_eq_of_isPrefixOf?_eq_some hrest, ink_append, ink_mark,
      ink_of_blank (List.all_eq_true.mp h)]
    rfl

/-! ## Chunks -/

/-- What a block leaves of its word. -/
theorem ink_keptWord (style : Style) (current : Block) :
    ink (keptWord style current) = ink current.language ∨ ink (keptWord style current) = [] := by
  unfold keptWord
  split_ifs
  · exact Or.inl rfl
  · exact Or.inr rfl

/-- The ink of the repaired chunks from a line on: of the block that is open, its word or nothing
and its lines, and then what is left of the lines. -/
theorem leavesInk_chunksFrom (style : Style) (current : Option Block) (number : Nat)
    (ls : List Text) :
    ∃ word left, LeavesInk current.isSome ls left ∧
      (word = ink (current.elim [] Block.language) ∨ word = []) ∧
      (((chunksFrom current number ls).map (chunk style)).flatMap (·.lines)).flatMap ink =
        word ++ (current.elim [] fun block ↦ block.lines.reverse).flatMap ink ++ left.flatten := by
  -- The block that is open changes from line to line; its lines stand in it last first.
  induction ls generalizing current number with
  | nil =>
    cases current with
    | none => exact ⟨[], [], .nil, Or.inr rfl, rfl⟩
    | some current =>
      refine ⟨_, [], .nil, ink_keptWord style { current with lines := current.lines.reverse }, ?_⟩
      change ((block style { current with lines := current.lines.reverse }).lines ++ []).flatMap ink
        = _
      rw [List.append_nil, ink_block, List.flatten_nil, List.append_nil]
      rfl
  | cons line ls ih =>
    cases current with
    | none =>
      cases hopening : Fence.opening? line with
      | none =>
        obtain ⟨word, left, hleaves, hword, hink⟩ := ih none (number + 1)
        obtain rfl : word = [] := hword.elim id id
        refine ⟨[], ink line :: left, .text hopening hleaves, Or.inr rfl, ?_⟩
        calc
          (((chunksFrom none number (line :: ls)).map (chunk style)).flatMap
              (·.lines)).flatMap ink =
              (Repair.line number line).lines.flatMap ink ++
                (((chunksFrom none (number + 1) ls).map (chunk style)).flatMap
                  (·.lines)).flatMap ink := by
            rw [chunksFrom, hopening]
            dsimp only
            rw [List.map_cons, List.flatMap_cons, List.flatMap_append, chunk]
          _ = ink line ++ left.flatten := by
            rw [ink_line, hink]
            rfl
      | some language =>
        obtain ⟨word, left, hleaves, hword, hink⟩ :=
          ih (some ⟨number, language, [], false⟩) (number + 1)
        refine ⟨[], word :: left, .opening hopening hword hleaves, Or.inr rfl, ?_⟩
        rw [chunksFrom, hopening]
        dsimp only
        rw [hink]
        simp
    | some current =>
      cases hclosing : Fence.isClosing line with
      | true =>
        obtain ⟨word, left, hleaves, hword, hink⟩ := ih none (number + 1)
        obtain rfl : word = [] := hword.elim id id
        refine ⟨_, ink line :: left, .closing hclosing hleaves,
          ink_keptWord style { current with lines := current.lines.reverse, closed := true }, ?_⟩
        let done : Block := { current with lines := current.lines.reverse, closed := true }
        let later := (chunksFrom none (number + 1) ls).map (chunk style)
        calc
          (((chunksFrom (some current) number (line :: ls)).map (chunk style)).flatMap
              (·.lines)).flatMap ink =
              (block style done).lines.flatMap ink ++ (later.flatMap (·.lines)).flatMap ink := by
            rw [chunksFrom, hclosing, if_pos rfl, List.map_cons, List.flatMap_cons,
              List.flatMap_append, chunk]
          _ = ink (keptWord style done) ++ done.lines.flatMap ink ++ left.flatten := by
            rw [ink_block, hink]
            rfl
          _ = ink (keptWord style done) ++ done.lines.flatMap ink ++
                (ink line :: left).flatten := by
            rw [List.flatten_cons, ink_of_isClosing hclosing, List.nil_append]
      | false =>
        obtain ⟨word, left, hleaves, hword, hink⟩ :=
          ih (some { current with lines := line :: current.lines }) (number + 1)
        refine ⟨word, ink line :: left, .code hclosing hleaves, hword, ?_⟩
        rw [chunksFrom, hclosing, if_neg Bool.false_ne_true, hink]
        simp

/-! ## Texts -/

/-- Where no opening fence has a word, all ink is left. -/
theorem LeavesInk.flatten_eq {inside : Bool} {ls left : List Text} (h : LeavesInk inside ls left)
    (hword : ∀ line ∈ ls, ∀ language, Fence.opening? line = some language → language = []) :
    left.flatten = ls.flatMap ink := by
  induction h with
  | nil => rfl
  | text _ _ ih | code _ _ ih | closing _ _ ih =>
    rw [List.flatten_cons, List.flatMap_cons, ih (List.forall_mem_cons.mp hword).2]
  | opening hopening hleft _ ih =>
    obtain ⟨hline, hrest⟩ := List.forall_mem_cons.mp hword
    obtain rfl := hline _ hopening
    rw [List.flatten_cons, List.flatMap_cons, ih hrest, ink_of_opening? hopening, hleft.elim id id]

/-- The ink of a repaired text is that of its chunks, for line ends and blank lines have none. -/
theorem ink_text_repair (style : Style) (t : Text) :
    ink (repair style t).text =
      (((chunks (Text.lines t)).map (chunk style)).flatMap (·.lines)).flatMap ink := by
  change ink (Text.join (Text.lineEnd t) (cutBlanksFrom 0 _)) = _
  rw [ink_join (ink_lineEnd t), flatMap_ink_cutBlanksFrom]

/-- The ink of a text is that of its lines, and of each line repair leaves all ink in its place but
for the word of a fence that opens a block. Where no such fence has a word, it leaves all ink. -/
theorem ink_repair (style : Style) (t : Text) :
    ink t = ((Text.lines t).map ink).flatten ∧
      (∃ left, LeavesInk false (Text.lines t) left ∧ ink (repair style t).text = left.flatten) ∧
      ((∀ line ∈ Text.lines t, ∀ language, Fence.opening? line = some language → language = []) →
        ink (repair style t).text = ink t) := by
  obtain ⟨word, left, hleaves, hword, hink⟩ := leavesInk_chunksFrom style none 1 (Text.lines t)
  obtain rfl : word = [] := hword.elim id id
  have htext : ink (repair style t).text = left.flatten := by
    rw [ink_text_repair]
    exact hink
  refine ⟨?_, ⟨left, hleaves, htext⟩, fun hplain ↦ ?_⟩
  · rw [← List.flatMap_def, flatMap_ink_lines]
  · rw [htext, hleaves.flatten_eq hplain, flatMap_ink_lines]

/-- Number signs, a backtick in a block, blank lines, and a backslash in a heading. -/
theorem ink_repair_signs :
    (∀ line ∈ Text.lines "# A  b #\n```\nx`y\n```\n\n\n\n\n=C\\=".toList, ∀ language,
        Fence.opening? line = some language → language = []) ∧
      ink (repair .indented "# A  b #\n```\nx`y\n```\n\n\n\n\n=C\\=".toList).text =
        "AbxyC".toList := by
  have hplain : ∀ line ∈ Text.lines "# A  b #\n```\nx`y\n```\n\n\n\n\n=C\\=".toList, ∀ language,
      Fence.opening? line = some language → language = [] := by
    intro line hline language hopening
    have hempty : ∀ line ∈ Text.lines "# A  b #\n```\nx`y\n```\n\n\n\n\n=C\\=".toList,
        (Fence.opening? line).all (·.isEmpty) = true := by decide
    have hall := hempty line hline
    rw [hopening] at hall
    exact List.isEmpty_iff.mp hall
  exact ⟨hplain, ((ink_repair .indented _).2.2 hplain).trans (by decide)⟩

end PluginReadme.Repair
