import Mathlib.Data.Nat.Find
import PluginReadme.Proofs.Check.Order
import PluginReadme.Proofs.Text.Cut

/-!
# Blocks of code

Where blocks of code are is stated by the lines alone: the lines after a fence with an odd number up
to the next fence are one, and outside of those the maximal runs of indented lines
(`IsFencedBlock`, `IsIndentedRun`). Both are maximal runs of lines of one kind, which depends on the
line and on the number of fences in front of it (`blockKind?`, `IsMaximalRun.isFencedBlock`,
`isMaximalRun_indented_iff`).
-/

namespace PluginReadme.Check

variable {ls : List Text} {line : Text} {fenced : Bool} {start stop i n : Nat}

/-! ## Runs of indices -/

/-- The indices from `start` up to the one before `stop` have the property, and the indices next to
them have not. -/
structure IsMaximalRun (holds : Nat → Prop) (start stop : Nat) : Prop where
  lt : start < stop
  inner : ∀ i, start ≤ i → i < stop → holds i
  front : ∀ i, i + 1 = start → ¬ holds i
  back : ¬ holds stop

/-- Going back from an index with the property, one finds where its run starts. -/
theorem exists_front_of_run (holds : Nat → Prop) (hi : holds i) :
    ∃ start ≤ i, (∀ j, start ≤ j → j ≤ i → holds j) ∧ ∀ j, j + 1 = start → ¬ holds j := by
  induction i with
  | zero =>
    exact ⟨0, Nat.le_refl 0, fun j _ hj ↦ Nat.le_zero.mp hj ▸ hi, fun j hj ↦ absurd hj (by omega)⟩
  | succ i ih =>
    by_cases hprevious : holds i
    · obtain ⟨start, hstart, hinner, hfront⟩ := ih hprevious
      refine ⟨start, by omega, fun j hj hji ↦ ?_, hfront⟩
      rcases Nat.le_succ_iff.mp hji with hji | rfl
      · exact hinner j hj hji
      · exact hi
    · refine ⟨i + 1, Nat.le_refl _, fun j hj hji ↦ ?_, fun j hj ↦ ?_⟩
      · exact Nat.le_antisymm hji hj ▸ hi
      · exact Nat.succ.inj hj ▸ hprevious

/-- Every index with a property lies in a maximal run, if the property ends somewhere. -/
theorem exists_isMaximalRun (holds : Nat → Prop) (hi : holds i) (hle : i ≤ n) (hn : ¬ holds n) :
    ∃ start stop, IsMaximalRun holds start stop ∧ start ≤ i ∧ i < stop := by
  classical
  have hback : ∃ stop, i < stop ∧ ¬ holds stop :=
    ⟨n, Nat.lt_of_le_of_ne hle fun heq ↦ hn (heq ▸ hi), hn⟩
  obtain ⟨start, hstart, hinner, hfront⟩ := exists_front_of_run holds hi
  obtain ⟨hlt, hstop⟩ := Nat.find_spec hback
  refine ⟨start, Nat.find hback, ⟨by omega, fun j hj hjstop ↦ ?_, hfront, hstop⟩, hstart, hlt⟩
  rcases Nat.lt_or_ge i j with hij | hij
  · exact of_not_not fun hj ↦ Nat.find_min hback hjstop ⟨hij, hj⟩
  · exact hinner j hj hij

/-! ## Fences by their numbers -/

def IsFenceAt (ls : List Text) (i : Nat) : Prop :=
  ∃ line, ls[i]? = some line ∧ Fence.isFence line = true

/-- The number of fences among the first lines. -/
def fencesBefore (ls : List Text) (n : Nat) : Nat := (ls.take n).countP Fence.isFence

theorem fencesBefore_succ (h : ls[i]? = some line) :
    fencesBefore ls (i + 1) = fencesBefore ls i + if Fence.isFence line then 1 else 0 := by
  rw [fencesBefore, List.take_add_one, h, List.countP_append, fencesBefore]
  simp

theorem fencesBefore_succ_of_not_isFenceAt (h : ¬ IsFenceAt ls i) :
    fencesBefore ls (i + 1) = fencesBefore ls i := by
  cases hline : ls[i]? with
  | none => rw [fencesBefore, List.take_add_one, hline, fencesBefore]; simp
  | some line =>
    have hfence : Fence.isFence line ≠ true := fun hfence ↦ h ⟨line, hline, hfence⟩
    rw [fencesBefore_succ hline, if_neg hfence, Nat.add_zero]

/-- Between two fences the number of fences before a line stays the same. -/
theorem fencesBefore_eq (hle : start ≤ stop)
    (h : ∀ i, start ≤ i → i < stop → ¬ IsFenceAt ls i) :
    fencesBefore ls stop = fencesBefore ls start := by
  induction stop, hle using Nat.le_induction with
  | base => rfl
  | succ stop hle ih =>
    rw [fencesBefore_succ_of_not_isFenceAt (h stop hle (Nat.lt_succ_self stop))]
    exact ih fun i hi hstop ↦ h i hi (Nat.lt_succ_of_lt hstop)

/-! ## Blocks -/

/-- The lines after a fence with an odd number, up to the next fence or to the end of the text. -/
structure IsFencedBlock (ls : List Text) (start stop : Nat) : Prop where
  opens : ∃ i, start = i + 1 ∧ IsFenceAt ls i ∧ fencesBefore ls start % 2 = 1
  le : start ≤ stop
  inner : ∀ i, start ≤ i → i < stop → ¬ IsFenceAt ls i
  ends : IsFenceAt ls stop ∨ stop = ls.length

def IsOutside (ls : List Text) (i : Nat) : Prop :=
  ∀ start stop, IsFencedBlock ls start stop → ¬ (start ≤ i ∧ i < stop)

/-- A maximal run of lines outside of all fenced blocks that count as indented. -/
def IsIndentedRun (counts : Text → Prop) (ls : List Text) (start stop : Nat) : Prop :=
  IsMaximalRun (fun i ↦ IsOutside ls i ∧ ∃ line, ls[i]? = some line ∧ counts line) start stop

def linesBetween (ls : List Text) (start stop : Nat) : List Text := (ls.take stop).drop start

theorem linesBetween_succ (hle : start ≤ n) (h : ls[n]? = some line) :
    linesBetween ls start (n + 1) = linesBetween ls start n ++ [line] := by
  have hlength := (List.getElem?_eq_some_iff.mp h).1
  calc
    linesBetween ls start (n + 1) = (ls.take n ++ [line]).drop start := by
      rw [linesBetween, List.take_add_one, h, Option.toList_some]
    _ = linesBetween ls start n ++ [line] :=
      List.drop_append_of_le_length (by rw [List.length_take]; omega)

theorem length_linesBetween (h : stop ≤ ls.length) :
    (linesBetween ls start stop).length = stop - start := by
  rw [linesBetween, List.length_drop, List.length_take, Nat.min_eq_left h]

theorem linesBetween_eq_nil_iff (h : stop ≤ ls.length) :
    linesBetween ls start stop = [] ↔ stop ≤ start := by
  rw [← List.length_eq_zero_iff, length_linesBetween h]
  omega

inductive IsCodeBlock (counts : Text → Prop) (ls : List Text) : CodeBlock → Prop where
  | fenced {start stop : Nat} (h : IsFencedBlock ls start stop) :
      IsCodeBlock counts ls ⟨true, start + 1, linesBetween ls start stop⟩
  | indented {start stop : Nat} (h : IsIndentedRun counts ls start stop) :
      IsCodeBlock counts ls ⟨false, start + 1, linesBetween ls start stop⟩

/-- Four spaces or a tab, then blanks, then something that is not blank. -/
def IsIndentedLine (line : Text) : Prop :=
  ∃ lead blanks : Text, ∃ c rest, (lead = "    " ∨ lead = "\t") ∧
    (∀ d ∈ blanks, isBlank d = true) ∧ isBlank c = false ∧ line = lead ++ (blanks ++ c :: rest)

/-- The check for indentation finds the lines that are indented by four spaces or a tab. -/
theorem isIndentedCode_iff : isIndentedCode line = true ↔ IsIndentedLine line := by
  have hlead {lead : Text} (h : lead = "    " ∨ lead = "\t") : lead.all isBlank = true := by
    rcases h with rfl | rfl <;> rfl
  constructor
  · intro h
    rw [isIndentedCode, Bool.and_eq_true, Bool.or_eq_true, Text.startsWith_iff,
      Text.startsWith_iff] at h
    obtain ⟨hstart, hink⟩ := h
    obtain ⟨lead, tail, hcases, rfl⟩ :
        ∃ lead tail : Text, (lead = "    " ∨ lead = "\t") ∧ line = lead ++ tail := by
      rcases hstart with ⟨tail, rfl⟩ | ⟨tail, rfl⟩
      · exact ⟨_, tail, .inl rfl, rfl⟩
      · exact ⟨_, tail, .inr rfl, rfl⟩
    have hword : ∃ c ∈ tail, isBlank c = false := by
      rw [Text.isBlankText, List.all_append, hlead hcases] at hink
      simpa using hink
    obtain ⟨c, rest, hsplit, hc⟩ := Text.exists_cons_of_takeWhile hword
    exact ⟨lead, tail.takeWhile isBlank, c, rest, hcases, Text.forall_mem_takeWhile isBlank tail,
      hc, by rw [← hsplit]⟩
  · rintro ⟨lead, blanks, c, rest, hcases, -, hc, rfl⟩
    have hink : Text.isBlankText (lead ++ (blanks ++ c :: rest)) = false := by
      simp [Text.isBlankText, hc]
    rw [isIndentedCode, hink]
    rcases hcases with rfl | rfl <;> rfl

/-! ## Kinds of lines -/

/-- Whether the block that a line belongs to is fenced; fences and plain lines belong to none. -/
def blockKind? (ls : List Text) (i : Nat) : Option Bool :=
  ls[i]?.bind fun line ↦
    if Fence.isFence line then none
    else if fencesBefore ls i % 2 = 1 then some true
    else if isIndentedCode line then some false
    else none

def IsOfKind (ls : List Text) (fenced : Bool) (i : Nat) : Prop := blockKind? ls i = some fenced

theorem blockKind?_of_isFenceAt (h : IsFenceAt ls i) : blockKind? ls i = none := by
  obtain ⟨line, hline, hfence⟩ := h
  rw [blockKind?, hline, Option.bind_some, if_pos hfence]

theorem blockKind?_of_length_le (h : ls.length ≤ i) : blockKind? ls i = none := by
  rw [blockKind?, List.getElem?_eq_none h, Option.bind_none]

theorem not_isOfKind (h : blockKind? ls i = none) (fenced : Bool) : ¬ IsOfKind ls fenced i := by
  rw [IsOfKind, h]
  exact (Option.some_ne_none fenced).symm

theorem IsOfKind.lt_length (h : IsOfKind ls fenced i) : i < ls.length := by
  by_contra hle
  exact not_isOfKind (blockKind?_of_length_le (Nat.not_lt.mp hle)) fenced h

theorem IsOfKind.not_isFenceAt (h : IsOfKind ls fenced i) : ¬ IsFenceAt ls i := fun hfence ↦
  not_isOfKind (blockKind?_of_isFenceAt hfence) fenced h

theorem IsMaximalRun.stop_le_length (h : IsMaximalRun (IsOfKind ls fenced) start stop) :
    stop ≤ ls.length := by
  have hlt := h.lt
  have hlast := (h.inner (stop - 1) (by omega) (by omega)).lt_length
  omega

/-- The lines of fenced blocks are those behind an odd number of fences. -/
theorem isOfKind_true_iff : IsOfKind ls true i ↔
    i < ls.length ∧ ¬ IsFenceAt ls i ∧ fencesBefore ls i % 2 = 1 := by
  cases hline : ls[i]? with
  | none =>
    have hlength := List.getElem?_eq_none_iff.mp hline
    exact iff_of_false (not_isOfKind (blockKind?_of_length_le hlength) true)
      fun h ↦ absurd h.1 (by omega)
  | some line =>
    have hlength : i < ls.length := (List.getElem?_eq_some_iff.mp hline).1
    have hfence : IsFenceAt ls i ↔ Fence.isFence line = true := by simp [IsFenceAt, hline]
    rw [IsOfKind, blockKind?, hline, Option.bind_some, hfence]
    split_ifs <;> simp_all

/-- The lines of indented blocks are the indented ones behind an even number of fences. -/
theorem isOfKind_false_iff : IsOfKind ls false i ↔ ∃ line, ls[i]? = some line ∧
    Fence.isFence line = false ∧ fencesBefore ls i % 2 = 0 ∧ isIndentedCode line = true := by
  cases hline : ls[i]? with
  | none => simp [IsOfKind, blockKind?, hline]
  | some line =>
    rw [IsOfKind, blockKind?, hline, Option.bind_some]
    split_ifs <;> simp_all

/-- Lines behind an odd number of fences, with a fence or an end on both sides, are a fenced
block. -/
theorem IsMaximalRun.isFencedBlock (h : IsMaximalRun (IsOfKind ls true) start stop) :
    IsFencedBlock ls start stop := by
  have hnone : ∀ i, start ≤ i → i < stop → ¬ IsFenceAt ls i := fun i hi hstop ↦
    (h.inner i hi hstop).not_isFenceAt
  obtain ⟨hlength, -, hodd⟩ := isOfKind_true_iff.mp (h.inner start (Nat.le_refl _) h.lt)
  refine ⟨?_, h.lt.le, hnone, ?_⟩
  · obtain ⟨i, rfl⟩ : ∃ i, start = i + 1 := by
      refine Nat.exists_eq_succ_of_ne_zero ?_
      rintro rfl
      exact absurd hodd (by simp [fencesBefore])
    refine ⟨i, rfl, of_not_not fun hfence ↦ h.front i rfl ?_, hodd⟩
    rw [fencesBefore_succ_of_not_isFenceAt hfence] at hodd
    exact isOfKind_true_iff.mpr ⟨by omega, hfence, hodd⟩
  · rw [or_iff_not_imp_left]
    intro hfence
    by_contra hne
    have hle := h.stop_le_length
    rw [← fencesBefore_eq h.lt.le hnone] at hodd
    exact h.back (isOfKind_true_iff.mpr ⟨by omega, hfence, hodd⟩)

/-- A fenced block with lines is a maximal run of fenced lines. -/
theorem IsFencedBlock.isMaximalRun (h : IsFencedBlock ls start stop) (hlt : start < stop) :
    IsMaximalRun (IsOfKind ls true) start stop := by
  obtain ⟨⟨i, rfl, hfence, hodd⟩, hle, hnone, hends⟩ := h
  have hlength : stop ≤ ls.length := by
    rcases hends with ⟨line, hline, -⟩ | rfl
    · exact (List.getElem?_eq_some_iff.mp hline).1.le
    · exact Nat.le_refl _
  refine ⟨hlt, fun j hj hstop ↦ ?_, fun j hj ↦ ?_, ?_⟩
  · rw [← fencesBefore_eq hj fun k hk hkj ↦ hnone k hk (by omega)] at hodd
    exact isOfKind_true_iff.mpr ⟨by omega, hnone j hj hstop, hodd⟩
  · exact Nat.succ.inj hj ▸ not_isOfKind (blockKind?_of_isFenceAt hfence) true
  · rcases hends with hstop | rfl
    · exact not_isOfKind (blockKind?_of_isFenceAt hstop) true
    · exact not_isOfKind (blockKind?_of_length_le (Nat.le_refl _)) true

/-- A line that is no fence is outside of the fenced blocks if the number of fences in front of it
is even. -/
theorem isOutside_iff (hline : ls[i]? = some line) (hfence : Fence.isFence line = false) :
    IsOutside ls i ↔ fencesBefore ls i % 2 = 0 := by
  have hlength : i < ls.length := (List.getElem?_eq_some_iff.mp hline).1
  constructor
  · intro h
    by_contra hodd
    have hkind : IsOfKind ls true i :=
      isOfKind_true_iff.mpr ⟨hlength, by simp [IsFenceAt, hline, hfence], by omega⟩
    have hend : ¬ IsOfKind ls true ls.length :=
      not_isOfKind (blockKind?_of_length_le (Nat.le_refl _)) true
    obtain ⟨start, stop, hrun, hstart, hstop⟩ := exists_isMaximalRun _ hkind hlength.le hend
    exact h start stop hrun.isFencedBlock ⟨hstart, hstop⟩
  · rintro heven start stop ⟨⟨-, -, -, hodd⟩, -, hnone, -⟩ ⟨hstart, hstop⟩
    rw [fencesBefore_eq hstart fun j hj hji ↦ hnone j hj (by omega)] at heven
    omega

/-- The lines that count for runs of indented code: those that are indented and no fences. -/
def CountsAsIndented (line : Text) : Prop := IsIndentedLine line ∧ Fence.isFence line = false

/-- Maximal runs of indented lines are the same, whether they are taken by kind or by count. -/
theorem isMaximalRun_indented_iff :
    IsMaximalRun (IsOfKind ls false) start stop ↔ IsIndentedRun CountsAsIndented ls start stop := by
  have hkind : IsOfKind ls false =
      fun i ↦ IsOutside ls i ∧ ∃ line, ls[i]? = some line ∧ CountsAsIndented line := by
    funext i
    rw [isOfKind_false_iff, eq_iff_iff]
    constructor
    · rintro ⟨line, hline, hfence, heven, hindented⟩
      exact ⟨(isOutside_iff hline hfence).mpr heven, line, hline, isIndentedCode_iff.mp hindented,
        hfence⟩
    · rintro ⟨houtside, line, hline, hindented, hfence⟩
      exact ⟨line, hline, hfence, (isOutside_iff hline hfence).mp houtside,
        isIndentedCode_iff.mpr hindented⟩
  rw [IsIndentedRun, hkind]

end PluginReadme.Check
