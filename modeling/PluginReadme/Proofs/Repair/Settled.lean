import PluginReadme.Proofs.Repair.SettledLine

/-!
# Settled readmes

A readme is settled when it is made of settled lines and, in the style that keeps fences, of closed
blocks of at least two lines that no tab starts. What each chunk becomes is settled
(`settled_chunk`), cutting blank lines keeps that (`Settled.cutBlanksFrom`), and repair finds the
same chunks again and changes none (`Settled.chunks`). So repairing lines twice is repairing them
once, and the second time nothing is logged (`lines_lines`).
-/

namespace PluginReadme.Repair

variable {style : Style} {ls rest : List Text}

/-- The lines of a block that repair leaves as they are. -/
structure IsSettledCode (code : List Text) : Prop where
  inside : ∀ line ∈ code, Fence.isClosing line = false
  spaces : ∀ line ∈ code, line.head? ≠ some '\t'
  several : 2 ≤ code.length

inductive Settled (style : Style) : List Text → Prop
  | nil : Settled style []
  | line {line : Text} {rest : List Text} :
    IsSettledLine line → Settled style rest → Settled style (line :: rest)
  | block {language : Text} {code rest : List Text} :
    style = .fenced → Fence.opening? (Fence.mark ++ language) = some language →
      IsSettledCode code → Settled style rest →
        Settled style ((Fence.mark ++ language) :: (code ++ Fence.mark :: rest))

/-- Settled lines behind settled lines are settled. -/
theorem Settled.append (h : Settled style ls) (hrest : Settled style rest) :
    Settled style (ls ++ rest) := by
  induction h with
  | nil => exact hrest
  | line hline _ ih => exact .line hline ih
  | block hstyle hlanguage hcode _ ih =>
    rw [List.cons_append, List.append_assoc]
    exact .block hstyle hlanguage hcode ih

theorem settled_of_forall (h : ∀ line ∈ ls, IsSettledLine line) : Settled style ls := by
  induction ls with
  | nil => exact .nil
  | cons line ls ih =>
    obtain ⟨hline, hrest⟩ := List.forall_mem_cons.mp h
    exact .line hline (ih hrest)

theorem forall_isSettledLine (h : Settled .indented ls) : ∀ line ∈ ls, IsSettledLine line := by
  induction h with
  | nil => simp
  | line hline _ ih => exact List.forall_mem_cons.mpr ⟨hline, ih⟩
  | block hstyle => exact absurd hstyle (by decide)

/-! ## Chunks -/

def Chunk.content : Chunk → List Text
  | .line _ content => [content]
  | .block current => current.lines

/-- A line of its own opens no block, and no line inside a block closes it. -/
def Chunk.IsCut : Chunk → Prop
  | .line _ content => Fence.opening? content = none
  | .block current => Fence.opening? (Fence.mark ++ current.language) = some current.language ∧
      ∀ line ∈ current.lines, Fence.isClosing line = false

theorem opening?_eq_some {line language : Text} (h : Fence.opening? line = some language) :
    Fence.opening? (Fence.mark ++ language) = some language ∧
      ∀ c ∈ language, isWordChar c = true := by
  unfold Fence.opening? at h
  split at h
  · next word _ =>
    dsimp only at h
    split_ifs at h
    obtain rfl := Option.some.inj h
    have hword := Text.forall_mem_takeWhile isWordChar word
    have hsame : (word.takeWhile isWordChar).takeWhile isWordChar = word.takeWhile isWordChar :=
      List.takeWhile_eq_self_iff.mpr hword
    refine ⟨?_, hword⟩
    change (let word' := (word.takeWhile isWordChar).takeWhile isWordChar
      if Text.isBlankText ((word.takeWhile isWordChar).drop word'.length) then some word' else none)
        = _
    dsimp only
    rw [hsame, List.drop_length]
    rfl
  · exact absurd h (by simp)

theorem isCut_of_mem_chunksFrom {current : Option Block} {number : Nat} {c : Chunk}
    (hcurrent : ∀ block ∈ current, (Chunk.block block).IsCut)
    (h : c ∈ chunksFrom current number ls) : c.IsCut := by
  induction ls generalizing current number with
  | nil =>
    cases current with
    | none => exact absurd h List.not_mem_nil
    | some block =>
      obtain ⟨hlanguage, hinside⟩ := hcurrent block rfl
      rw [List.mem_singleton.mp h]
      exact ⟨hlanguage, fun line hline ↦ hinside line (List.mem_reverse.mp hline)⟩
  | cons line ls ih =>
    cases current with
    | none =>
      rw [chunksFrom] at h
      cases hopening : Fence.opening? line with
      | none =>
        rw [hopening] at h
        rcases List.mem_cons.mp h with rfl | h
        · exact hopening
        · exact ih (by simp) h
      | some language =>
        rw [hopening] at h
        refine ih ?_ h
        intro block hblock
        obtain rfl := Option.some.inj hblock
        exact ⟨(opening?_eq_some hopening).1, by simp⟩
    | some block =>
      obtain ⟨hlanguage, hinside⟩ := hcurrent block rfl
      rw [chunksFrom] at h
      cases hclosing : Fence.isClosing line with
      | true =>
        rw [hclosing, if_pos rfl] at h
        rcases List.mem_cons.mp h with rfl | h
        · exact ⟨hlanguage, fun other hother ↦ hinside other (List.mem_reverse.mp hother)⟩
        · exact ih (by simp) h
      | false =>
        rw [hclosing, if_neg (by simp)] at h
        refine ih ?_ h
        intro longer hlonger
        obtain rfl := Option.some.inj hlonger
        exact ⟨hlanguage, List.forall_mem_cons.mpr ⟨hclosing, hinside⟩⟩

/-- Chunks are cut at fences. -/
theorem isCut_of_mem_chunks {c : Chunk} (h : c ∈ chunks ls) : c.IsCut :=
  isCut_of_mem_chunksFrom (by simp) h

/-- Chunks hold lines of the readme, each once and in order. -/
theorem content_chunksFrom_sublist (current : Option Block) (number : Nat) (ls : List Text) :
    ((chunksFrom current number ls).flatMap Chunk.content).Sublist
      ((current.elim [] fun block ↦ block.lines.reverse) ++ ls) := by
  induction ls generalizing current number with
  | nil => cases current <;> simp [chunksFrom, Chunk.content]
  | cons line ls ih =>
    cases current with
    | none =>
      rw [chunksFrom]
      cases Fence.opening? line with
      | none => exact (ih none _).cons_cons line
      | some language => exact (ih (some _) _).cons line
    | some block =>
      rw [chunksFrom]
      split
      · exact (List.Sublist.refl _).append ((ih none _).cons line)
      · refine (ih (some _) _).trans ?_
        simp

/-- Chunks hold lines of the text, each once and in order. -/
theorem content_chunks_sublist (ls : List Text) :
    ((chunks ls).flatMap Chunk.content).Sublist ls :=
  content_chunksFrom_sublist none 1 ls

/-! ## Outcomes -/

theorem tabsToSpaces_of_head_ne_tab {line : Text} (h : line.head? ≠ some '\t') :
    tabsToSpaces line = line := by
  have htabs : line.takeWhile (· == '\t') = [] := by
    cases line with
    | nil => rfl
    | cons c rest =>
      refine List.takeWhile_cons_of_neg ?_
      rw [beq_iff_eq]
      exact fun heq ↦ h (heq ▸ rfl)
  unfold tabsToSpaces
  dsimp only
  rw [htabs]
  rfl

theorem head_tabsToSpaces_of_tab {line : Text} (h : line.head? = some '\t') :
    (tabsToSpaces line).head? = some ' ' := by
  obtain ⟨rest, rfl⟩ := List.head?_eq_some_iff.mp h
  unfold tabsToSpaces
  dsimp only
  rw [List.takeWhile_cons_of_pos (by rfl), List.length_cons, Nat.mul_succ,
    List.replicate_succ]
  rfl

theorem head_tabsToSpaces_ne_tab (line : Text) : (tabsToSpaces line).head? ≠ some '\t' := by
  by_cases h : line.head? = some '\t'
  · rw [head_tabsToSpaces_of_tab h]
    decide
  · rw [tabsToSpaces_of_head_ne_tab h]
    exact h

theorem isClosing_tabsToSpaces {line : Text} (h : Fence.isClosing line = false) :
    Fence.isClosing (tabsToSpaces line) = false := by
  by_cases htab : line.head? = some '\t'
  · have hhead : (tabsToSpaces line).head? ≠ some '\x60' := by
      rw [head_tabsToSpaces_of_tab htab]
      decide
    rw [Fence.isClosing, after?_mark_of_head_ne_backtick hhead]
    rfl
  · rw [tabsToSpaces_of_head_ne_tab htab]
    exact h

/-- A repaired line is settled. -/
theorem settled_line {number : Nat} {content : Text} (h : Fence.opening? content = none) :
    Settled style (line number content).lines := by
  unfold line
  cases hheading : heading? number content with
  | some found =>
    obtain ⟨n, title, hn, htitle, hwrite, -⟩ := heading?_eq_some hheading
    change Settled style [found.1]
    rw [hwrite]
    exact .line (isSettledLine_write hn htitle) .nil
  | none =>
    cases hhashes : hashHeading? number content with
    | some found =>
      obtain ⟨n, title, hn, htitle, hwrite, -⟩ := hashHeading?_eq_some hhashes
      change Settled style [found.1]
      rw [hwrite]
      exact .line (isSettledLine_write hn htitle) .nil
    | none =>
      exact .line ⟨heading?_eq_none_of_eq_none hheading, hashHeading?_eq_none_of_eq_none hhashes, h⟩
        .nil

/-- A repaired block is settled. -/
theorem settled_block {current : Block} (h : (Chunk.block current).IsCut) :
    Settled style (block style current).lines := by
  obtain ⟨number, language, code, closed⟩ := current
  obtain ⟨hlanguage, hinside⟩ := h
  match code with
  | [] => exact .nil
  | [line] => exact .line (isSettledLine_inlineCode line) .nil
  | first :: second :: more =>
    cases style with
    | indented =>
      apply settled_of_forall
      intro line hline
      obtain ⟨unified, -, rfl⟩ := List.mem_map.mp hline
      exact isSettledLine_indented (Text.stripLeft unified)
    | fenced =>
      refine .block rfl hlanguage ⟨?_, ?_, by simp⟩ .nil
      · intro line hline
        obtain ⟨code, hcode, rfl⟩ := List.mem_map.mp hline
        exact isClosing_tabsToSpaces (hinside code hcode)
      · intro line hline
        obtain ⟨code, -, rfl⟩ := List.mem_map.mp hline
        exact head_tabsToSpaces_ne_tab code

/-- What becomes of a chunk is settled. -/
theorem settled_chunk {c : Chunk} (h : c.IsCut) : Settled style (chunk style c).lines := by
  cases c with
  | line number content => exact settled_line h
  | block current => exact settled_block h

/-- Repaired chunks are settled. -/
theorem settled_outcomes {cs : List Chunk} (h : ∀ c ∈ cs, c.IsCut) :
    Settled style ((cs.map (chunk style)).flatMap (·.lines)) := by
  induction cs with
  | nil => exact .nil
  | cons c cs ih =>
    obtain ⟨hc, hcs⟩ := List.forall_mem_cons.mp h
    exact (settled_chunk hc).append (ih hcs)

/-! ## Blank lines -/

theorem cutBlanksFrom_append_cons {line : Text} (hline : Text.isBlankText line = false) (run : Nat)
    (code rest : List Text) :
    cutBlanksFrom run (code ++ line :: rest) =
      cutBlanksFrom run code ++ line :: cutBlanksFrom 0 rest := by
  induction code generalizing run with
  | nil => simp [cutBlanksFrom, hline]
  | cons first code ih =>
    rw [List.cons_append, cutBlanksFrom, cutBlanksFrom, ih (run + 1), ih 0]
    split_ifs <;> rfl

theorem mem_of_mem_cutBlanksFrom {run : Nat} {line : Text} (h : line ∈ cutBlanksFrom run ls) :
    line = [] ∨ line ∈ ls := by
  induction ls generalizing run with
  | nil => exact absurd h List.not_mem_nil
  | cons first ls ih =>
    rw [cutBlanksFrom] at h
    split_ifs at h
    · rcases List.mem_cons.mp h with rfl | h
      · exact Or.inl rfl
      · exact (ih h).imp_right (List.mem_cons_of_mem first)
    · exact (ih h).imp_right (List.mem_cons_of_mem first)
    · rcases List.mem_cons.mp h with rfl | h
      · exact Or.inr List.mem_cons_self
      · exact (ih h).imp_right (List.mem_cons_of_mem first)

theorem length_cutBlanksFrom_le (run : Nat) (ls : List Text) :
    (cutBlanksFrom run ls).length ≤ ls.length := by
  induction ls generalizing run with
  | nil => exact Nat.le_refl 0
  | cons line ls ih =>
    rw [cutBlanksFrom]
    split_ifs
    · exact Nat.succ_le_succ (ih _)
    · exact Nat.le_succ_of_le (ih _)
    · exact Nat.succ_le_succ (ih _)

/-- Two lines are never cut to fewer. -/
theorem two_le_length_cutBlanksFrom (h : 2 ≤ ls.length) : 2 ≤ (cutBlanksFrom 0 ls).length := by
  match ls with
  | first :: second :: more =>
    simp only [cutBlanksFrom]
    split_ifs <;> simp_all

theorem IsSettledCode.cutBlanksFrom {code : List Text} (h : IsSettledCode code) :
    IsSettledCode (cutBlanksFrom 0 code) where
  inside line hline := by
    rcases mem_of_mem_cutBlanksFrom hline with rfl | hline
    · rfl
    · exact h.inside line hline
  spaces line hline := by
    rcases mem_of_mem_cutBlanksFrom hline with rfl | hline
    · decide
    · exact h.spaces line hline
  several := two_le_length_cutBlanksFrom h.several

theorem isBlankText_mark_append (language : Text) :
    Text.isBlankText (Fence.mark ++ language) = false := by
  rw [Text.isBlankText, List.all_append, show Fence.mark.all isBlank = false by decide]
  rfl

/-- Settled lines are settled after blank ones were cut. -/
theorem Settled.cutBlanksFrom (h : Settled style ls) (run : Nat) :
    Settled style (cutBlanksFrom run ls) := by
  induction h generalizing run with
  | nil => exact .nil
  | @line line rest hline _ ih =>
    rw [Repair.cutBlanksFrom]
    split_ifs
    · exact .line isSettledLine_nil (ih _)
    · exact ih _
    · exact .line hline (ih _)
  | block hstyle hlanguage hcode _ ih =>
    rw [Repair.cutBlanksFrom, isBlankText_mark_append, if_neg (by simp),
      cutBlanksFrom_append_cons (by decide)]
    exact .block hstyle hlanguage hcode.cutBlanksFrom (ih 0)

theorem cutBlanksFrom_of_two_le {run : Nat} (h : 2 ≤ run) (ls : List Text) :
    cutBlanksFrom run ls = cutBlanksFrom 2 ls := by
  induction ls generalizing run with
  | nil => rfl
  | cons line ls ih =>
    rw [cutBlanksFrom, cutBlanksFrom, if_neg (by omega : ¬run < 2), if_neg (by omega : ¬2 < 2),
      ih (Nat.le_succ_of_le h), ih (Nat.le_succ 2)]

/-- Cutting blank lines twice is cutting them once. -/
theorem cutBlanksFrom_cutBlanksFrom (run : Nat) (ls : List Text) :
    cutBlanksFrom run (cutBlanksFrom run ls) = cutBlanksFrom run ls := by
  induction ls generalizing run with
  | nil => rfl
  | cons line ls ih =>
    rw [cutBlanksFrom]
    split_ifs with hblank hrun
    · rw [cutBlanksFrom, if_pos (by rfl), if_pos hrun, ih]
    · have htwo : 2 ≤ run := by omega
      rw [cutBlanksFrom_of_two_le htwo, cutBlanksFrom_of_two_le (Nat.le_succ_of_le htwo)]
      exact ih 2
    · rw [cutBlanksFrom, if_neg hblank, ih]

/-! ## Repairing again -/

/-- Behind the lines of a block its closing fence ends it. -/
theorem chunksFrom_append_mark {code : List Text}
    (hcode : ∀ line ∈ code, Fence.isClosing line = false) (current : Block) (number : Nat)
    (rest : List Text) :
    ∃ next, chunksFrom (some current) number (code ++ Fence.mark :: rest) =
      .block { current with lines := current.lines.reverse ++ code, closed := true } ::
        chunksFrom none next rest := by
  induction code generalizing current number with
  | nil =>
    refine ⟨number + 1, ?_⟩
    rw [List.nil_append, chunksFrom, if_pos (by decide), List.append_nil]
  | cons line code ih =>
    obtain ⟨hline, hrest⟩ := List.forall_mem_cons.mp hcode
    obtain ⟨next, hnext⟩ := ih hrest { current with lines := line :: current.lines } (number + 1)
    refine ⟨next, ?_⟩
    rw [List.cons_append, chunksFrom, hline, if_neg (by simp), hnext]
    simp

/-- A settled block is written as it stands, and nothing is logged. -/
theorem block_of_isSettledCode {number : Nat} {language : Text} {code : List Text}
    (h : IsSettledCode code) :
    block .fenced ⟨number, language, code, true⟩ =
      ⟨(Fence.mark ++ language) :: (code ++ [Fence.mark]), []⟩ := by
  obtain ⟨first, second, more, rfl⟩ : ∃ first second more, code = first :: second :: more := by
    match code, h.several with
    | first :: second :: more, _ => exact ⟨first, second, more, rfl⟩
  have hunified : (first :: second :: more).map tabsToSpaces = first :: second :: more := by
    rw [List.map_congr_left fun line hline ↦ tabsToSpaces_of_head_ne_tab (h.spaces line hline),
      List.map_id']
  have hmixed : Check.mixesIndentation (first :: second :: more) = false := by
    rw [Check.mixesIndentation, Bool.and_eq_false_iff, List.any_eq_false]
    refine Or.inl fun line hline htab ↦ h.spaces line hline ?_
    cases line with
    | nil => exact absurd htab (by decide)
    | cons c rest =>
      change ('\t' == c && true) = true at htab
      rw [Bool.and_true, beq_iff_eq] at htab
      exact htab ▸ rfl
  unfold block
  dsimp only
  rw [hunified, hmixed]
  simp

/-- Repair finds the lines and blocks of a settled readme and changes none. -/
theorem Settled.chunksFrom (h : Settled style ls) (number : Nat) :
    ((chunksFrom none number ls).map (chunk style)).flatMap (·.lines) = ls ∧
      ((chunksFrom none number ls).map (chunk style)).flatMap (·.changes) = [] := by
  induction h generalizing number with
  | nil => exact ⟨rfl, rfl⟩
  | @line line rest hline _ ih =>
    obtain ⟨hlines, hchanges⟩ := ih (number + 1)
    have hchunk : chunk style (.line number line) = ⟨[line], []⟩ := by
      change Repair.line number line = _
      rw [Repair.line, hline.heading, hline.hashes]
      rfl
    rw [Repair.chunksFrom, hline.fence]
    dsimp only
    rw [List.map_cons, hchunk, List.flatMap_cons, List.flatMap_cons, hlines, hchanges]
    exact ⟨rfl, rfl⟩
  | @block language code rest hstyle hlanguage hcode _ ih =>
    obtain ⟨next, hnext⟩ := chunksFrom_append_mark hcode.inside ⟨number, language, [], false⟩
      (number + 1) rest
    obtain ⟨hlines, hchanges⟩ := ih next
    have hchunk : chunk style (.block ⟨number, language, code, true⟩) =
        ⟨(Fence.mark ++ language) :: (code ++ [Fence.mark]), []⟩ := by
      rw [hstyle]
      exact block_of_isSettledCode hcode
    have hread : Repair.chunksFrom none number ((Fence.mark ++ language) ::
        (code ++ Fence.mark :: rest)) =
          .block ⟨number, language, code, true⟩ :: Repair.chunksFrom none next rest := by
      rw [Repair.chunksFrom, hlanguage]
      exact hnext
    rw [hread, List.map_cons, hchunk, List.flatMap_cons, List.flatMap_cons, hlines, hchanges]
    simp

/-- A settled readme without a third blank line in a row stays as it is. -/
theorem Settled.lines_eq (h : Settled style ls) (hcut : Repair.cutBlanksFrom 0 ls = ls) :
    lines style ls = ⟨ls, []⟩ := by
  obtain ⟨hlines, hchanges⟩ := h.chunksFrom 1
  unfold lines
  dsimp only
  rw [chunks, hlines, hchanges, cutBlanks, hcut, if_neg (Nat.lt_irrefl _)]
  rfl

/-- The repaired lines are settled. -/
theorem settled_lines (style : Style) (ls : List Text) : Settled style (lines style ls).lines :=
  (settled_outcomes fun _ ↦ isCut_of_mem_chunks).cutBlanksFrom 0

/-- Repairing lines again changes nothing. -/
theorem lines_lines (style : Style) (ls : List Text) :
    lines style (lines style ls).lines = ⟨(lines style ls).lines, []⟩ :=
  (settled_lines style ls).lines_eq (cutBlanksFrom_cutBlanksFrom 0 _)

end PluginReadme.Repair
