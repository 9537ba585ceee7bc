import PluginReadme.Proofs.Repair.Idempotent
import PluginReadme.Proofs.Text.Class
import PluginReadme.Proofs.Text.Cut

/-!
# What the log of a repair leaves out

A repair writes three things anew without a word in its log: line ends of two kinds, blanks on lines
that hold nothing else, and blanks at the end of a fence. A text without these is tidy (`IsTidy`).
Chunks that log nothing give their lines back, up to the ends of fences
(`lines_chunksFrom_of_changes_eq_nil`), and cutting nothing gives them back up to blank lines
(`cutBlanksFrom_eq_self`), so a tidy text stays. A text that stays is its own repair, and the repair
of a repair logs nothing. Together, a text stays if and only if nothing is logged and it is tidy
(`text_repair_eq_iff`).
-/

namespace PluginReadme

namespace Repair

variable {style : Style} {ls : List Text} {line : Text}

/-! ## Fences -/

/-- The lines that open or close a block; `inside` says that one is open. -/
def fenceLinesFrom (inside : Bool) : List Text → List Text
  | [] => []
  | line :: rest =>
    if (if inside then Fence.isClosing line else (Fence.opening? line).isSome) then
      line :: fenceLinesFrom (!inside) rest
    else fenceLinesFrom inside rest

def fenceLines (ls : List Text) : List Text := fenceLinesFrom false ls

theorem eq_nil_of_isBlankText {front tail : Text} (htail : Text.isBlankText tail = true)
    (h : (front ++ tail).getLast?.any isBlank = false) : tail = [] := by
  rcases List.eq_nil_or_concat' tail with hnil | ⟨start, c, rfl⟩
  · exact hnil
  · rw [← List.append_assoc, List.getLast?_concat] at h
    have hc : isBlank c = true := List.all_eq_true.mp htail c (by simp)
    exact absurd (h.symm.trans hc) (by simp)

/-- A line that opens a block is written as it is, unless it ends with a blank. -/
theorem eq_of_opening?_eq_some {language : Text} (h : Fence.opening? line = some language)
    (hlast : line.getLast?.any isBlank = false) : line = Fence.mark ++ language := by
  unfold Fence.opening? at h
  split at h
  · next rest hafter =>
    dsimp only at h
    split_ifs at h with htail
    obtain rfl := Option.some.inj h
    obtain rfl := Text.after?_eq_some_iff.mp hafter
    rw [Text.drop_length_takeWhile] at htail
    have hrest := List.takeWhile_append_dropWhile (p := isWordChar) (l := rest)
    have hline : (Fence.mark ++ rest.takeWhile isWordChar ++
        rest.dropWhile isWordChar).getLast?.any isBlank = false := by
      rwa [List.append_assoc, hrest]
    have hnil : rest.dropWhile isWordChar = [] := eq_nil_of_isBlankText htail hline
    rw [hnil, List.append_nil] at hrest
    rw [hrest]
  · exact absurd h (by simp)

theorem eq_mark_of_isClosing (h : Fence.isClosing line = true)
    (hlast : line.getLast?.any isBlank = false) : line = Fence.mark := by
  obtain ⟨rest, hafter, hblank⟩ : ∃ rest, Text.after? Fence.mark line = some rest ∧
      Text.isBlankText rest = true := (Option.any_eq_true _ _).mp h
  obtain rfl := Text.after?_eq_some_iff.mp hafter
  rw [eq_nil_of_isBlankText hblank hlast, List.append_nil]

/-- What becomes of a block without a word in the log. -/
theorem block_of_changes_eq_nil {current : Block} (h : (block style current).changes = []) :
    current.closed = true ∧ (block style current).lines =
      (Fence.mark ++ current.language) :: (current.lines ++ [Fence.mark]) := by
  obtain ⟨number, language, code, closed⟩ := current
  match code with
  | [] => exact absurd h (List.cons_ne_nil _ _)
  | [source] => exact absurd h (List.cons_ne_nil _ _)
  | first :: second :: more =>
    cases style with
    | indented => exact absurd (List.append_eq_nil_iff.mp h).2 (List.cons_ne_nil _ _)
    | fenced =>
      have hchanged := (List.append_eq_nil_iff.mp h).2
      rw [ite_eq_right_iff] at hchanged
      have hsame := mt hchanged (List.cons_ne_nil _ _)
      rw [Bool.or_eq_true, not_or, decide_eq_true_iff, Ne, not_not, Bool.not_eq_true,
        Bool.not_eq_false'] at hsame
      refine ⟨hsame.2, ?_⟩
      change (Fence.mark ++ language) ::
        ((first :: second :: more).map tabsToSpaces ++ [Fence.mark]) = _
      rw [hsame.1]

/-- A line without a logged change stays. -/
theorem line_of_changes_eq_nil {number : Nat} (h : (Repair.line number line).changes = []) :
    (Repair.line number line).lines = [line] := by
  unfold Repair.line at h ⊢
  split at h
  · exact absurd h (List.cons_ne_nil _ _)
  · rfl

/-- Chunks that log nothing give the lines back, if no fence ends with a blank. -/
theorem lines_chunksFrom_of_changes_eq_nil (current : Option Block) (number : Nat)
    (hopen : ∀ block ∈ current, block.closed = false)
    (hfences : ∀ line ∈ fenceLinesFrom current.isSome ls, line.getLast?.any isBlank = false)
    (h : ((chunksFrom current number ls).map (chunk style)).flatMap (·.changes) = []) :
    ((chunksFrom current number ls).map (chunk style)).flatMap (·.lines) =
      (current.elim [] fun block ↦ (Fence.mark ++ block.language) :: block.lines.reverse) ++
        ls := by
  -- A block that is open holds the lines it has taken so far, last first.
  induction ls generalizing current number with
  | nil =>
    cases current with
    | none => rfl
    | some current =>
      -- Nothing closes this block, which is logged.
      rw [chunksFrom, List.map_singleton, List.flatMap_singleton] at h
      have hclosed : current.closed = true := (block_of_changes_eq_nil h).1
      rw [hopen current rfl] at hclosed
      exact absurd hclosed (by simp)
  | cons line ls ih =>
    cases current with
    | none =>
      rw [chunksFrom] at h ⊢
      rw [Option.isSome_none, fenceLinesFrom, if_neg Bool.false_ne_true] at hfences
      cases hopening : Fence.opening? line with
      | none =>
        rw [hopening] at h hfences
        obtain ⟨hline, hrest⟩ := List.append_eq_nil_iff.mp h
        have hlines := ih none (number + 1) (by simp) hfences hrest
        rw [Option.elim_none, List.nil_append] at hlines
        rw [List.map_cons, List.flatMap_cons, hlines]
        change (Repair.line number line).lines ++ ls = _
        rw [line_of_changes_eq_nil hline]
        rfl
      | some language =>
        rw [hopening] at h hfences
        obtain ⟨hline, hrest⟩ := List.forall_mem_cons.mp hfences
        have hlines := ih (some ⟨number, language, [], false⟩) (number + 1) (by simp) hrest h
        rw [eq_of_opening?_eq_some hopening hline]
        exact hlines
    | some current =>
      rw [chunksFrom] at h ⊢
      rw [Option.isSome_some, fenceLinesFrom, if_pos rfl] at hfences
      cases hclosing : Fence.isClosing line with
      | true =>
        rw [hclosing, if_pos rfl] at h hfences
        rw [if_pos rfl]
        obtain ⟨hline, hrest⟩ := List.forall_mem_cons.mp hfences
        obtain ⟨hblock, hmore⟩ := List.append_eq_nil_iff.mp h
        have hlines := ih none (number + 1) (by simp) hrest hmore
        rw [Option.elim_none, List.nil_append] at hlines
        rw [eq_mark_of_isClosing hclosing hline, List.map_cons, List.flatMap_cons, hlines]
        change (block style _).lines ++ ls = _
        rw [(block_of_changes_eq_nil hblock).2]
        simp
      | false =>
        rw [hclosing, if_neg Bool.false_ne_true] at h hfences
        rw [if_neg Bool.false_ne_true]
        have hlines := ih (some { current with lines := line :: current.lines }) (number + 1)
          (by simpa using hopen current rfl) hfences h
        rw [hlines]
        simp

/-! ## Blank lines -/

/-- Where no line was cut and blank lines are empty, all lines stay. -/
theorem cutBlanksFrom_eq_self {run : Nat}
    (hblanks : ∀ line ∈ ls, Text.isBlankText line = true → line = [])
    (h : ls.length ≤ (cutBlanksFrom run ls).length) : cutBlanksFrom run ls = ls := by
  induction ls generalizing run with
  | nil => rfl
  | cons line ls ih =>
    obtain ⟨hline, hrest⟩ := List.forall_mem_cons.mp hblanks
    rw [cutBlanksFrom] at h ⊢
    split_ifs at h ⊢ with hblank hrun
    · rw [ih hrest (Nat.le_of_succ_le_succ h), hline hblank]
    · exact absurd (h.trans (length_cutBlanksFrom_le _ ls)) (Nat.not_succ_le_self _)
    · rw [ih hrest (Nat.le_of_succ_le_succ h)]

theorem eq_nil_of_mem_cutBlanksFrom {run : Nat} (h : line ∈ cutBlanksFrom run ls)
    (hblank : Text.isBlankText line = true) : line = [] := by
  induction ls generalizing run with
  | nil => exact absurd h List.not_mem_nil
  | cons first ls ih =>
    rw [cutBlanksFrom] at h
    split_ifs at h with hfirst
    · rcases List.mem_cons.mp h with rfl | h
      · rfl
      · exact ih h
    · exact ih h
    · rcases List.mem_cons.mp h with rfl | h
      · exact absurd hblank hfirst
      · exact ih h

/-! ## Lines -/

/-- Lines that log nothing stay, if their blank lines are empty and no fence ends with a blank. -/
theorem lines_eq_self_of_changes_eq_nil
    (hblanks : ∀ line ∈ ls, Text.isBlankText line = true → line = [])
    (hfences : ∀ line ∈ fenceLines ls, line.getLast?.any isBlank = false)
    (h : (lines style ls).changes = []) : (lines style ls).lines = ls := by
  obtain ⟨hchunks, hcut⟩ := List.append_eq_nil_iff.mp h
  have hlines : ((chunks ls).map (chunk style)).flatMap (·.lines) = ls :=
    lines_chunksFrom_of_changes_eq_nil none 1 (by simp) hfences hchunks
  rw [hlines, cutBlanks] at hcut
  change cutBlanksFrom 0 (((chunks ls).map (chunk style)).flatMap (·.lines)) = ls
  rw [hlines]
  refine cutBlanksFrom_eq_self hblanks (Nat.le_of_not_lt fun hlt ↦ ?_)
  exact absurd ((if_pos hlt).symm.trans hcut) (List.cons_ne_nil _ _)

/-- A fence that repair writes ends with no blank. -/
theorem getLast_fence_not_blank {language : Text} (h : ∀ c ∈ language, isWordChar c = true) :
    (Fence.mark ++ language).getLast?.any isBlank = false := by
  rcases List.eq_nil_or_concat' language with rfl | ⟨start, c, rfl⟩
  · decide
  · rw [← List.append_assoc, List.getLast?_concat]
    exact isBlank_of_isWordChar (h c (by simp))

theorem fenceLinesFrom_append_mark {code : List Text}
    (hcode : ∀ line ∈ code, Fence.isClosing line = false) (rest : List Text) :
    fenceLinesFrom true (code ++ Fence.mark :: rest) = Fence.mark :: fenceLinesFrom false rest := by
  induction code with
  | nil =>
    have hmark : Fence.isClosing Fence.mark = true := by decide
    rw [List.nil_append, fenceLinesFrom, if_pos rfl, if_pos hmark]
    rfl
  | cons line code ih =>
    obtain ⟨hline, hrest⟩ := List.forall_mem_cons.mp hcode
    rw [List.cons_append, fenceLinesFrom, if_pos rfl, hline, if_neg Bool.false_ne_true, ih hrest]

/-- No fence of a settled readme ends with a blank. -/
theorem Settled.getLast_fenceLines (h : Settled style ls) :
    ∀ line ∈ fenceLines ls, line.getLast?.any isBlank = false := by
  induction h with
  | nil => exact fun line hline ↦ absurd hline List.not_mem_nil
  | line hline _ ih =>
    rw [fenceLines, fenceLinesFrom, if_neg Bool.false_ne_true, hline.fence,
      if_neg (by simp)]
    exact ih
  | @block language code rest _ hlanguage hcode _ ih =>
    have hmark : (Fence.mark ++ ([] : Text)).getLast?.any isBlank = false := by decide
    have hfences : fenceLines ((Fence.mark ++ language) :: (code ++ Fence.mark :: rest)) =
        (Fence.mark ++ language) :: Fence.mark :: fenceLines rest := by
      calc
        fenceLines ((Fence.mark ++ language) :: (code ++ Fence.mark :: rest)) =
            (Fence.mark ++ language) :: fenceLinesFrom true (code ++ Fence.mark :: rest) := by
          rw [fenceLines, fenceLinesFrom, if_neg Bool.false_ne_true, hlanguage, Option.isSome_some,
            if_pos rfl, Bool.not_false]
        _ = (Fence.mark ++ language) :: Fence.mark :: fenceLines rest := by
          rw [fenceLinesFrom_append_mark hcode.inside, fenceLines]
    rw [hfences]
    exact List.forall_mem_cons.mpr ⟨getLast_fence_not_blank (opening?_eq_some hlanguage).2,
      List.forall_mem_cons.mpr ⟨hmark, ih⟩⟩

end Repair

open Repair

/-! ## Texts -/

/-- Nothing is in the text that a repair writes anew without logging it. -/
structure IsTidy (t : Text) : Prop where
  /-- All lines end alike. -/
  ends : Text.join (Text.lineEnd t) (Text.lines t) = t
  /-- A line of blanks is empty. -/
  blanks : ∀ line ∈ Text.lines t, Text.isBlankText line = true → line = []
  /-- No blank stands at the end of a fence. -/
  fences : ∀ line ∈ fenceLines (Text.lines t), line.getLast?.any isBlank = false

/-- A text that stays has the repaired lines. -/
theorem lines_eq_of_text_eq {style : Style} {t : Text} (h : (repair style t).text = t) :
    (Repair.lines style (Text.lines t)).lines = Text.lines t := by
  have hfeed : ∀ line ∈ (Repair.lines style (Text.lines t)).lines, '\n' ∉ line :=
    feed_not_mem_lines fun _ ↦ Text.feed_not_mem_of_mem_lines
  have hne : (Repair.lines style (Text.lines t)).lines ≠ [] := by
    intro hnil
    -- Only the empty text has no repaired lines, but it has one.
    have ht : t = [] := by
      rw [← h]
      change Text.join _ (Repair.lines style (Text.lines t)).lines = []
      rw [hnil]
      rfl
    rw [ht] at hnil
    cases style <;> exact absurd hnil (by decide)
  have hsafe (hreturn : Text.hasCarriageReturn t = false) :
      Text.FeedSafe (Repair.lines style (Text.lines t)).lines := by
    refine Text.feedSafe_of_hasCarriageReturn_join hfeed ?_
    rw [← Text.lineEnd_of_not_hasCarriageReturn hreturn]
    exact (congrArg Text.hasCarriageReturn h).trans hreturn
  calc
    (Repair.lines style (Text.lines t)).lines = Text.lines (repair style t).text :=
      (Text.lines_join_lineEnd hne hfeed hsafe).symm
    _ = Text.lines t := by rw [h]

/-- A repair gives the text back if and only if it logs nothing and the text is tidy. -/
theorem text_repair_eq_iff (style : Style) (t : Text) :
    (repair style t).text = t ↔ (repair style t).changes = [] ∧ IsTidy t := by
  constructor
  · intro h
    have hlines := lines_eq_of_text_eq h
    have hagain := lines_lines style (Text.lines t)
    have hsettled := settled_lines style (Text.lines t)
    rw [hlines] at hagain hsettled
    refine ⟨congrArg Outcome.changes hagain, ?_, ?_, hsettled.getLast_fenceLines⟩
    · exact (congrArg (Text.join (Text.lineEnd t)) hlines).symm.trans h
    · rw [← hlines]
      exact fun line hline ↦ eq_nil_of_mem_cutBlanksFrom hline
  · rintro ⟨hlog, htidy⟩
    change Text.join (Text.lineEnd t) (Repair.lines style (Text.lines t)).lines = t
    rw [lines_eq_self_of_changes_eq_nil htidy.blanks htidy.fences hlog, htidy.ends]

end PluginReadme
