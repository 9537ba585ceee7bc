import PluginReadme.Proofs.Check.CodeBlocks

/-!
# Mixed indentation

Lines of code are collected in two modes, and what is collected closes at a fence, at a line that is
not indented and at the end of the text. The lines collected so far are a run of one kind that
nothing in front of them continues (`Pending`); whatever closes it leaves the runs that start later
(`Pending.isRunFrom_iff`), so all blocks are found, each of them once
(`Pending.mem_codeBlocksFrom_iff`, `mem_codeBlocks_iff`). A fence closes a block even if it is
indented itself (`not_reportsBlocks_of_fence`).
-/

namespace PluginReadme.Check

variable {ls : List Text} {line : Text} {fenced : Bool} {start n : Nat} {block : CodeBlock}

/-! ## Collected lines -/

/-- The lines between two indices as they are collected: each with its index, last first. -/
def collectedBetween (ls : List Text) (start stop : Nat) : List (Text × Nat) :=
  ((linesBetween ls start stop).zipIdx start).reverse

theorem collectedBetween_succ (hle : start ≤ n) (h : ls[n]? = some line) :
    collectedBetween ls start (n + 1) = (line, n) :: collectedBetween ls start n := by
  have hlength := (List.getElem?_eq_some_iff.mp h).1
  calc
    collectedBetween ls start (n + 1) =
        ((linesBetween ls start n ++ [line]).zipIdx start).reverse := by
      rw [collectedBetween, linesBetween_succ hle h]
    _ = ((linesBetween ls start n).zipIdx start ++ [(line, n)]).reverse := by
      rw [List.zipIdx_append, length_linesBetween hlength.le, Nat.add_sub_cancel' hle,
        List.zipIdx_singleton]
    _ = (line, n) :: collectedBetween ls start n := by
      rw [List.reverse_append, List.reverse_singleton, List.singleton_append, collectedBetween]

theorem collectedBetween_self (ls : List Text) (n : Nat) : collectedBetween ls n n = [] := by
  rw [collectedBetween, linesBetween, List.drop_eq_nil_of_le (List.length_take_le n ls)]
  rfl

/-- What was collected is one block, unless nothing was. -/
theorem mem_ofCollected_iff : block ∈ CodeBlock.ofCollected fenced (collectedBetween ls start n) ↔
    linesBetween ls start n ≠ [] ∧ block = ⟨fenced, start + 1, linesBetween ls start n⟩ := by
  rw [CodeBlock.ofCollected, collectedBetween, List.reverse_reverse]
  cases linesBetween ls start n with
  | nil => simp
  | cons line more => simp [List.zipIdx_cons]

/-! ## Reading -/

/-- Some lines have been read in a mode, and those from `start` on are collected. -/
structure Pending (ls : List Text) (fenced : Bool) (start n : Nat) : Prop where
  le : start ≤ n
  le_length : n ≤ ls.length
  mode : fenced = true ↔ fencesBefore ls n % 2 = 1
  inner : ∀ i, start ≤ i → i < n → IsOfKind ls fenced i
  front : ∀ i, i + 1 = start → ¬ IsOfKind ls fenced i

theorem pending_zero (ls : List Text) : Pending ls false 0 0 where
  le := Nat.le_refl 0
  le_length := Nat.zero_le _
  mode := by simp [fencesBefore]
  inner := fun i _ hi ↦ absurd hi (Nat.not_lt_zero i)
  front := fun i hi ↦ absurd hi (Nat.succ_ne_zero i)

/-- The mode and the line say whether the line is collected. -/
theorem Pending.blockKind?_eq (h : Pending ls fenced start n) (hline : ls[n]? = some line) :
    blockKind? ls n = if Fence.isFence line then none
      else if fenced || isIndentedCode line then some fenced else none := by
  rw [blockKind?, hline, Option.bind_some]
  cases fenced with
  | true => simp [h.mode.mp rfl]
  | false =>
    have heven : ¬ fencesBefore ls n % 2 = 1 := fun hodd ↦ Bool.noConfusion (h.mode.mpr hodd)
    simp [heven]

/-- A line of the kind that is read is collected. -/
theorem Pending.collect (h : Pending ls fenced start n) (hkind : IsOfKind ls fenced n) :
    Pending ls fenced start (n + 1) where
  le := Nat.le_succ_of_le h.le
  le_length := hkind.lt_length
  mode := by rw [fencesBefore_succ_of_not_isFenceAt hkind.not_isFenceAt, h.mode]
  inner := fun i hi hin ↦ by
    rcases Nat.lt_succ_iff_lt_or_eq.mp hin with hin | rfl
    · exact h.inner i hi hin
    · exact hkind
  front := h.front

/-- A line of no kind closes what is collected, and a fence changes the mode. -/
theorem Pending.close (h : Pending ls fenced start n) (hline : ls[n]? = some line)
    (hkind : blockKind? ls n = none) :
    Pending ls (fenced ^^ Fence.isFence line) (n + 1) (n + 1) where
  le := Nat.le_refl _
  le_length := (List.getElem?_eq_some_iff.mp hline).1
  mode := by
    rw [fencesBefore_succ hline]
    cases Fence.isFence line with
    | false => simpa using h.mode
    | true =>
      have hparity : (fencesBefore ls n + 1) % 2 = 1 ↔ ¬ fencesBefore ls n % 2 = 1 := by omega
      rw [if_pos rfl, hparity, ← h.mode]
      simp
  inner := fun i hi hin ↦ absurd hin (by omega)
  front := fun i hi ↦ Nat.succ.inj hi ▸ not_isOfKind hkind _

/-- A run that starts in the collected lines is all of them, if a line of no kind follows. -/
theorem Pending.eq_of_isMaximalRun {other : Bool} {first stop : Nat}
    (h : Pending ls fenced start n) (hkind : blockKind? ls n = none) (hle : start ≤ first)
    (hlt : first < n) (hrun : IsMaximalRun (IsOfKind ls other) first stop) :
    other = fenced ∧ first = start ∧ stop = n := by
  have hafter := hrun.lt
  have hcollected := h.inner first hle hlt
  obtain rfl : other = fenced :=
    Option.some.inj ((hrun.inner first (Nat.le_refl _) hafter).symm.trans hcollected)
  refine ⟨rfl, ?_, ?_⟩
  · by_contra hne
    exact hrun.front (first - 1) (by omega) (h.inner (first - 1) (by omega) (by omega))
  · rcases Nat.lt_trichotomy stop n with hless | heq | hmore
    · exact absurd (h.inner stop (by omega) hless) hrun.back
    · exact heq
    · exact absurd (hrun.inner n (by omega) hmore) (not_isOfKind hkind _)

/-- The block is a maximal run of lines of its kind that starts at an index or behind it. -/
def IsRunFrom (ls : List Text) (start : Nat) (block : CodeBlock) : Prop :=
  ∃ first stop, start ≤ first ∧ IsMaximalRun (IsOfKind ls block.fenced) first stop ∧
    block = ⟨block.fenced, first + 1, linesBetween ls first stop⟩

/-- Where a line of no kind follows, or none, the collected lines are a run, and every other one
starts behind that line. -/
theorem Pending.isRunFrom_iff (h : Pending ls fenced start n) (hkind : blockKind? ls n = none) :
    IsRunFrom ls start block ↔
      block ∈ CodeBlock.ofCollected fenced (collectedBetween ls start n) ∨
        IsRunFrom ls (n + 1) block := by
  rw [mem_ofCollected_iff, Ne, linesBetween_eq_nil_iff h.le_length, Nat.not_le]
  constructor
  · rintro ⟨first, stop, hle, hrun, hblock⟩
    rcases Nat.lt_trichotomy first n with hlt | rfl | hlt
    · obtain ⟨hfenced, rfl, rfl⟩ := h.eq_of_isMaximalRun hkind hle hlt hrun
      exact .inl ⟨hlt, hfenced ▸ hblock⟩
    · exact absurd (hrun.inner first (Nat.le_refl _) hrun.lt) (not_isOfKind hkind _)
    · exact .inr ⟨first, stop, hlt, hrun, hblock⟩
  · rintro (⟨hlt, rfl⟩ | ⟨first, stop, hle, hrun, hblock⟩)
    · exact ⟨start, n, Nat.le_refl _, ⟨hlt, h.inner, h.front, not_isOfKind hkind _⟩, rfl⟩
    · have hstart := h.le
      exact ⟨first, stop, by omega, hrun, hblock⟩

theorem not_isRunFrom (h : ls.length ≤ start) : ¬ IsRunFrom ls start block := by
  rintro ⟨first, stop, hle, hrun, -⟩
  have hlength := (hrun.inner first (Nat.le_refl _) hrun.lt).lt_length
  omega

/-- From the lines that are left, the blocks are the runs that have not been closed yet. -/
theorem Pending.mem_codeBlocksFrom_iff (h : Pending ls fenced start n) :
    block ∈ codeBlocksFrom fenced (collectedBetween ls start n) ((ls.drop n).zipIdx n) ↔
      IsRunFrom ls start block := by
  induction hrest : ls.drop n generalizing fenced start n with
  | nil =>
    have hlength : ls.length ≤ n := List.drop_eq_nil_iff.mp hrest
    rw [h.isRunFrom_iff (blockKind?_of_length_le hlength), List.zipIdx_nil, codeBlocksFrom]
    exact (or_iff_left (not_isRunFrom (Nat.le_succ_of_le hlength))).symm
  | cons line rest ih =>
    have hline : ls[n]? = some line := by rw [← List.head?_drop, hrest]; rfl
    have hdrop : ls.drop (n + 1) = rest := by rw [← List.tail_drop, hrest]; rfl
    have hkind := h.blockKind?_eq hline
    rw [List.zipIdx_cons, codeBlocksFrom]
    split_ifs at hkind ⊢ with hfence hcollected
    · have hclosed := ih (h.close hline hkind) hdrop
      rw [hfence, Bool.xor_true, collectedBetween_self] at hclosed
      rw [h.isRunFrom_iff hkind, List.mem_append, hclosed]
    · have hopen := ih (h.collect hkind) hdrop
      rwa [collectedBetween_succ h.le hline] at hopen
    · have hclosed := ih (h.close hline hkind) hdrop
      obtain ⟨rfl, -⟩ : fenced = false ∧ isIndentedCode line = false := by simpa using hcollected
      rw [Bool.eq_false_iff.mpr hfence, Bool.xor_false, collectedBetween_self] at hclosed
      rw [h.isRunFrom_iff hkind, List.mem_append, hclosed]

/-- The blocks that are found are those with a line. -/
theorem mem_codeBlocks_iff :
    block ∈ codeBlocks ls ↔ IsCodeBlock CountsAsIndented ls block ∧ block.lines ≠ [] := by
  have hread : block ∈ codeBlocks ls ↔ IsRunFrom ls 0 block := by
    rw [← (pending_zero ls).mem_codeBlocksFrom_iff, collectedBetween_self, List.drop_zero]
    rfl
  rw [hread]
  constructor
  · rintro ⟨first, stop, -, hrun, hblock⟩
    have hlines : linesBetween ls first stop ≠ [] := by
      rw [Ne, linesBetween_eq_nil_iff hrun.stop_le_length, Nat.not_le]
      exact hrun.lt
    rw [hblock]
    refine ⟨?_, hlines⟩
    cases hfenced : block.fenced with
    | true =>
      rw [hfenced] at hrun
      exact .fenced hrun.isFencedBlock
    | false =>
      rw [hfenced] at hrun
      exact .indented (isMaximalRun_indented_iff.mp hrun)
  · rintro ⟨@⟨start, stop, h⟩ | @⟨start, stop, h⟩, hlines⟩
    · have hlt : start < stop := by
        by_contra hle
        refine hlines (List.drop_eq_nil_of_le ?_)
        exact (List.length_take_le stop ls).trans (Nat.not_lt.mp hle)
      exact ⟨start, stop, Nat.zero_le _, h.isMaximalRun hlt, rfl⟩
    · exact ⟨start, stop, Nat.zero_le _, isMaximalRun_indented_iff.mpr h, rfl⟩

/-! ## Warnings -/

def Mixes (block : CodeBlock) : Prop :=
  (∃ line ∈ block.lines, line.head? = some '\t') ∧ ∃ line ∈ block.lines, line.head? = some ' '

def mixedIssue (block : CodeBlock) : Issue where
  severity := .warning
  code := .mixedIndentation
  message := (if block.fenced then "Mixed tabs and spaces inside fenced code block"
    else "Mixed indentation inside indented code block") ++
    " (block starting at line " ++ Text.ofNat block.firstLine ++ ")"
  line := some block.firstLine
  hint := some "Use spaces consistently for indentation".toList

/-- The issues are one for each block that mixes, in the order of the text. -/
def ReportsBlocks (counts : Text → Prop) (ls : List Text) (found : List Issue) : Prop :=
  ∃ blocks : List CodeBlock,
    (∀ block, block ∈ blocks ↔ IsCodeBlock counts ls block ∧ Mixes block) ∧
    (blocks.Pairwise fun a b ↦ a.firstLine < b.firstLine) ∧ found = blocks.map mixedIssue

/-- The check finds the blocks that mix tabs and spaces. -/
theorem mixesIndentation_iff : mixesIndentation block.lines = true ↔ Mixes block := by
  have hstart (c : Char) (line : Text) : Text.startsWith [c] line = true ↔ line.head? = some c := by
    rw [Text.startsWith_iff, List.head?_eq_some_iff]
    rfl
  have htab := hstart '\t'
  have hspace := hstart ' '
  rw [mixesIndentation, Bool.and_eq_true, List.any_eq_true, List.any_eq_true, Mixes]
  exact and_congr (exists_congr fun line ↦ and_congr_right fun _ ↦ htab line)
    (exists_congr fun line ↦ and_congr_right fun _ ↦ hspace line)

/-- There is one warning for each block that mixes, in the order of the blocks. -/
theorem mixedIndentation_eq_map (ls : List Text) : mixedIndentation ls =
    ((codeBlocks ls).filter fun block ↦ mixesIndentation block.lines).map mixedIssue := by
  refine List.map_congr_left fun block _ ↦ ?_
  cases hfenced : block.fenced <;> rw [mixedIssue, hfenced] <;> rfl

theorem Mixes.lines_ne_nil (h : Mixes block) : block.lines ≠ [] := by
  obtain ⟨⟨line, hline, -⟩, -⟩ := h
  exact List.ne_nil_of_mem hline

/-- Mixed indentation is reported once for each block with both kinds of lines, in order: the blocks
between fences, and outside of them the maximal runs of indented lines that are no fences. -/
theorem reportsBlocks_mixedIndentation (ls : List Text) :
    ReportsBlocks CountsAsIndented ls (mixedIndentation ls) := by
  refine ⟨(codeBlocks ls).filter fun block ↦ mixesIndentation block.lines, fun block ↦ ?_, ?_,
    mixedIndentation_eq_map ls⟩
  · rw [List.mem_filter, mem_codeBlocks_iff, mixesIndentation_iff]
    constructor
    · rintro ⟨⟨hblock, -⟩, hmixes⟩
      exact ⟨hblock, hmixes⟩
    · rintro ⟨hblock, hmixes⟩
      exact ⟨⟨hblock, hmixes.lines_ne_nil⟩, hmixes⟩
  · exact (pairwise_codeBlocksFrom (pairwise_zipIdx ls 0)).filter _

/-- A fence that stays open holds all lines behind it. -/
example : (mixedIndentation ["```".toList, "\ta".toList, "b".toList, " c".toList]).map Issue.line =
    [some 2] := by decide

/-- An indented fence behind an indented line would make a block with it if all indented lines
counted; but the fence closes the block, which then does not mix. -/
theorem not_reportsBlocks_of_fence :
    ¬ ReportsBlocks IsIndentedLine ["\ta".toList, "    ```".toList]
      (mixedIndentation ["\ta".toList, "    ```".toList]) := by
  rintro ⟨blocks, hmem, -, hfound⟩
  have hnil : blocks = [] := by
    have hnone : mixedIndentation ["\ta".toList, "    ```".toList] = [] := by decide
    rw [hnone] at hfound
    exact List.map_eq_nil_iff.mp hfound.symm
  have houtside (i : Nat) (hi : i < 2) : IsOutside ["\ta".toList, "    ```".toList] i := by
    rintro start stop ⟨⟨j, rfl, ⟨line, hline, hfence⟩, -⟩, -, -, -⟩ ⟨hle, -⟩
    obtain rfl : j = 0 := by omega
    obtain rfl : "\ta".toList = line := Option.some.inj hline
    exact absurd hfence (by decide)
  have hrun : IsIndentedRun IsIndentedLine ["\ta".toList, "    ```".toList] 0 2 := by
    refine ⟨by decide, fun i _ hi ↦ ⟨houtside i hi, ?_⟩, fun i hi ↦ absurd hi (by omega), ?_⟩
    · rcases Nat.lt_succ_iff_lt_or_eq.mp hi with hi | rfl
      · obtain rfl : i = 0 := by omega
        exact ⟨_, rfl, isIndentedCode_iff.mp (by decide)⟩
      · exact ⟨_, rfl, isIndentedCode_iff.mp (by decide)⟩
    · rintro ⟨-, line, hline, -⟩
      exact absurd hline (by simp)
  have hblock := (hmem _).mpr ⟨.indented hrun, ⟨_, List.mem_cons_self, rfl⟩,
    ⟨_, List.mem_cons_of_mem _ List.mem_cons_self, rfl⟩⟩
  rw [hnil] at hblock
  exact List.not_mem_nil hblock

end PluginReadme.Check
