import PluginReadme.Block.Line
import PluginReadme.Proofs.Text.Lines

/-!
# Two line ends

A line feed and a pair of carriage return and line feed end the same lines. Where a text has no
carriage return of its own, writing a pair for every line feed changes neither its lines
(`lines_pairFeeds`) nor what the block structure sees of it (`normalize_pairFeeds`), and lines
joined with line feeds become the same lines joined with pairs (`pairFeeds_join`).
-/

namespace PluginReadme.Text

variable {t line rest : Text}

def pairFeeds (t : Text) : Text := replaceAll ['\n'] ['\r', '\n'] t

theorem pairFeeds_feed (rest : Text) : pairFeeds ('\n' :: rest) = '\r' :: '\n' :: pairFeeds rest :=
  rfl

theorem pairFeeds_cons {c : Char} (h : c ≠ '\n') (rest : Text) :
    pairFeeds (c :: rest) = c :: pairFeeds rest := by
  change replaceFrom ['\n'] ['\r', '\n'] 0 (c :: rest) = _
  have hprefix : List.isPrefixOf ['\n'] (c :: rest) = false := by
    rw [List.isPrefixOf, beq_false_of_ne (Ne.symm h), Bool.false_and]
  rw [replaceFrom, hprefix, if_neg Bool.false_ne_true]
  rfl

theorem pairFeeds_append (front tail : Text) :
    pairFeeds (front ++ tail) = pairFeeds front ++ pairFeeds tail := by
  induction front with
  | nil => rfl
  | cons c front ih =>
    by_cases hc : c = '\n'
    · subst hc
      rw [List.cons_append, pairFeeds_feed, pairFeeds_feed, ih]
      rfl
    · rw [List.cons_append, pairFeeds_cons hc, pairFeeds_cons hc, ih]
      rfl

theorem pairFeeds_of_not_mem (h : '\n' ∉ t) : pairFeeds t = t := by
  induction t with
  | nil => rfl
  | cons c rest ih =>
    rw [pairFeeds_cons fun hc ↦ h (hc ▸ List.mem_cons_self),
      ih fun hmem ↦ h (List.mem_cons_of_mem c hmem)]

theorem pairFeeds_append_feed (h : '\n' ∉ line) (rest : Text) :
    pairFeeds (line ++ '\n' :: rest) = (line ++ ['\r']) ++ '\n' :: pairFeeds rest := by
  rw [pairFeeds_append, pairFeeds_of_not_mem h, pairFeeds_feed, List.append_assoc]
  rfl

/-- The lines are the same with either line end. -/
theorem lines_pairFeeds (h : '\r' ∉ t) : lines (pairFeeds t) = lines t := by
  induction t using lines_induction with
  | last line hline => rw [pairFeeds_of_not_mem hline]
  | feed line rest hline ih =>
    have hrest : '\r' ∉ rest := fun hmem ↦ h (by simp [hmem])
    have hlast : line.getLast? ≠ some '\r' := fun hreturn ↦
      h (List.mem_append_left _ (List.mem_of_getLast? hreturn))
    have hfeed : '\n' ∉ line ++ ['\r'] := by simpa using hline
    calc
      lines (pairFeeds (line ++ '\n' :: rest)) =
          dropFinalReturn (line ++ ['\r']) :: lines (pairFeeds rest) := by
        rw [pairFeeds_append_feed hline, lines_append_feed hfeed]
      _ = dropFinalReturn line :: lines rest := by
        rw [dropFinalReturn_append_return, dropFinalReturn_eq_self hlast, ih hrest]
      _ = lines (line ++ '\n' :: rest) := (lines_append_feed hline rest).symm

theorem unifyLineEnds_cons {c : Char} (h : c ≠ '\r') (rest : Text) :
    unifyLineEnds (c :: rest) = c :: unifyLineEnds rest := by
  rw [unifyLineEnds]
  · intro tail hc
    exact absurd hc h
  · exact fun hc ↦ absurd hc h

/-- Either line end becomes a line feed. -/
theorem unifyLineEnds_pairFeeds (h : '\r' ∉ t) :
    unifyLineEnds (pairFeeds t) = unifyLineEnds t := by
  induction t with
  | nil => rfl
  | cons c rest ih =>
    have hc : c ≠ '\r' := fun heq ↦ h (heq ▸ List.mem_cons_self)
    have hrest : '\r' ∉ rest := fun hmem ↦ h (List.mem_cons_of_mem c hmem)
    rw [unifyLineEnds_cons hc]
    by_cases hfeed : c = '\n'
    · subst hfeed
      rw [pairFeeds_feed, unifyLineEnds, ih hrest]
    · rw [pairFeeds_cons hfeed, unifyLineEnds_cons hc, ih hrest]

/-- Block structure is the same with either line end. -/
theorem normalize_pairFeeds (h : '\r' ∉ t) : Block.normalize (pairFeeds t) = Block.normalize t := by
  rw [Block.normalize, unifyLineEnds_pairFeeds h, Block.normalize]

/-! ## The line end in use -/

theorem lineEnd_of_not_mem (h : '\r' ∉ t) : lineEnd t = ['\n'] :=
  lineEnd_of_not_hasCarriageReturn (hasCarriageReturn_eq_false h)

theorem lineEnd_pairFeeds (h : '\n' ∈ t) : lineEnd (pairFeeds t) = ['\r', '\n'] := by
  obtain ⟨line, rest, rfl, hline⟩ := List.eq_append_cons_of_mem h
  apply lineEnd_of_hasCarriageReturn
  rw [hasCarriageReturn, occurs_iff_isInfix, pairFeeds_append_feed hline]
  exact ⟨line, pairFeeds rest, by simp⟩

/-- Pairing the line feeds between lines joins them with the pair. -/
theorem pairFeeds_join {ls : List Text} (h : ∀ line ∈ ls, '\n' ∉ line) :
    pairFeeds (join ['\n'] ls) = join ['\r', '\n'] ls := by
  induction ls with
  | nil => rfl
  | cons line ls ih =>
    obtain ⟨hline, hrest⟩ := List.forall_mem_cons.mp h
    by_cases hnil : ls = []
    · rw [hnil, join_singleton, join_singleton, pairFeeds_of_not_mem hline]
    · calc
        pairFeeds (join ['\n'] (line :: ls)) =
            pairFeeds line ++ pairFeeds ['\n'] ++ pairFeeds (join ['\n'] ls) := by
          rw [join_cons hnil, pairFeeds_append, pairFeeds_append]
        _ = line ++ ['\r', '\n'] ++ join ['\r', '\n'] ls := by
          rw [pairFeeds_of_not_mem hline, ih hrest]
          rfl
        _ = join ['\r', '\n'] (line :: ls) := (join_cons hnil).symm

end PluginReadme.Text
