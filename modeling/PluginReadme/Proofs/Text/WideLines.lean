import PluginReadme.Proofs.Text.LineEnds
import PluginReadme.Proofs.Text.Trim

/-!
# Lines in the widest sense

Any of the line ends may end a line, and a carriage return before a line feed ends it together with
that. The lines of a text are given by the text itself (`HasWideLines`); reading it with the line
ends unified first and cut afterwards finds just them (`bareWideLines_unifyLineEnds_eq_iff`).
-/

namespace PluginReadme.Text

/-! ## The lines of a text -/

def wideLineEnds : List Text :=
  ["\r\n", "\n", "\r", "\x0b", "\x0c", "\x1c", "\x1d", "\x1e", "\x85", "\u2028", "\u2029"]

/-- The text has such lines. None of them holds a line end; the last one may lack its own, but is
not empty then. -/
inductive HasWideLines : Text → List Text → Prop
  | none : HasWideLines [] []
  | last {line} (hne : line ≠ []) (hline : ∀ c ∈ line, [c] ∉ wideLineEnds) :
      HasWideLines line [line]
  | ended {line ending rest ls} (hline : ∀ c ∈ line, [c] ∉ wideLineEnds)
      (hending : ending ∈ wideLineEnds) (hpair : ending = ['\r'] → rest.head? ≠ some '\n')
      (h : HasWideLines rest ls) : HasWideLines (line ++ ending ++ rest) (line :: ls)

variable {t line rest ending : Text} {ls : List Text} {c : Char}

/-- The characters that end a line are the texts of one character that do. -/
theorem isLineBreak_iff : isLineBreak c = true ↔ [c] ∈ wideLineEnds := by
  have hcode : [c] ∈ wideLineEnds ↔ c.toNat = 0x0A ∨ c.toNat = 0x0D ∨ c.toNat = 0x0B ∨
      c.toNat = 0x0C ∨ c.toNat = 0x1C ∨ c.toNat = 0x1D ∨ c.toNat = 0x1E ∨ c.toNat = 0x85 ∨
      c.toNat = 0x2028 ∨ c.toNat = 0x2029 := by
    simp [wideLineEnds, Char.ext_iff, ← UInt32.toNat_inj]
  rw [hcode]
  simp only [isLineBreak, Bool.or_eq_true, Bool.and_eq_true, decide_eq_true_eq, beq_iff_eq]
  omega

theorem isLineBreak_eq_false_iff : isLineBreak c = false ↔ [c] ∉ wideLineEnds := by
  rw [← isLineBreak_iff, Bool.not_eq_true]

/-- A line end is a pair or one character. -/
theorem mem_wideLineEnds_iff :
    ending ∈ wideLineEnds ↔ ending = ['\r', '\n'] ∨ ∃ c, ending = [c] ∧ isLineBreak c = true := by
  constructor
  · intro h
    have hlength : ∀ ending ∈ wideLineEnds, ending = ['\r', '\n'] ∨ ending.length = 1 := by decide
    rcases hlength ending h with rfl | hlength
    · exact Or.inl rfl
    · obtain ⟨c, rfl⟩ := List.length_eq_one_iff.mp hlength
      exact Or.inr ⟨c, rfl, isLineBreak_iff.mpr h⟩
  · rintro (rfl | ⟨c, rfl, hc⟩)
    · exact List.mem_cons_self
    · exact isLineBreak_iff.mp hc

/-! ## Cutting -/

theorem wideLinesFrom_of_forall {seen : Text} (h : ∀ c ∈ line, isLineBreak c = false) :
    wideLinesFrom seen (line ++ rest) = wideLinesFrom (line.reverse ++ seen) rest := by
  induction line generalizing seen with
  | nil => rfl
  | cons c line ih =>
    obtain ⟨hc, hline⟩ := List.forall_mem_cons.mp h
    calc
      wideLinesFrom seen (c :: (line ++ rest)) = wideLinesFrom (c :: seen) (line ++ rest) := by
        rw [wideLinesFrom, if_neg (by rw [hc]; exact Bool.false_ne_true)]
        rintro t rfl
        exact absurd hc (by decide)
      _ = wideLinesFrom (line.reverse ++ c :: seen) rest := ih hline
      _ = wideLinesFrom ((c :: line).reverse ++ seen) rest := by
        rw [List.reverse_cons, List.append_assoc, List.singleton_append]

theorem dropEndWhile_line (h : ∀ c ∈ line, isLineBreak c = false) :
    dropEndWhile isLineBreak line = line :=
  dropEndWhile_eq_self fun _ hc ↦ h _ (List.mem_of_getLast? hc)

theorem bareWideLines_of_forall (h : ∀ c ∈ line, isLineBreak c = false) (hne : line ≠ []) :
    bareWideLines line = [line] := by
  have hlines : wideLines line = [line] := by
    calc
      wideLines line = wideLinesFrom [] (line ++ []) := by rw [wideLines, List.append_nil]
      _ = wideLinesFrom (line.reverse ++ []) [] := wideLinesFrom_of_forall h
      _ = [line] := by
        rw [List.append_nil, wideLinesFrom, if_neg (by simpa using hne), List.reverse_reverse]
  rw [bareWideLines, hlines, List.map_singleton, dropEndWhile_line h]

/-- A line goes up to the first character that ends one. -/
theorem bareWideLines_append_cons (h : ∀ c ∈ line, isLineBreak c = false)
    (hc : isLineBreak c = true) (hreturn : c ≠ '\r') :
    bareWideLines (line ++ c :: rest) = line :: bareWideLines rest := by
  have hcut : wideLines (line ++ c :: rest) = (line ++ [c]) :: wideLines rest := by
    calc
      wideLines (line ++ c :: rest) = wideLinesFrom (line.reverse ++ []) (c :: rest) :=
        wideLinesFrom_of_forall h
      _ = (c :: (line.reverse ++ [])).reverse :: wideLines rest := by
        rw [wideLinesFrom, if_pos hc, wideLines]
        rintro t rfl
        exact absurd rfl hreturn
      _ = (line ++ [c]) :: wideLines rest := by
        rw [List.append_nil, List.reverse_cons, List.reverse_reverse]
  calc
    bareWideLines (line ++ c :: rest) =
        dropEndWhile isLineBreak (line ++ [c]) :: bareWideLines rest := by
      rw [bareWideLines, hcut, List.map_cons, ← bareWideLines]
    _ = line :: bareWideLines rest := by
      rw [dropEndWhile_append_of_all (by simpa using hc), dropEndWhile_line h]

/-! ## Unifying the line ends -/

theorem unifyLineEnds_append_of_forall (h : ∀ c ∈ line, isLineBreak c = false) :
    unifyLineEnds (line ++ rest) = line ++ unifyLineEnds rest := by
  induction line with
  | nil => rfl
  | cons c line ih =>
    obtain ⟨hc, hline⟩ := List.forall_mem_cons.mp h
    have hreturn : c ≠ '\r' := by
      rintro rfl
      exact absurd hc (by decide)
    rw [List.cons_append, unifyLineEnds_cons hreturn, ih hline, List.cons_append]

/-- A line end is one character after unifying. -/
theorem exists_unifyLineEnds_append (hending : ending ∈ wideLineEnds)
    (hpair : ending = ['\r'] → rest.head? ≠ some '\n') :
    ∃ c, isLineBreak c = true ∧ c ≠ '\r' ∧
      unifyLineEnds (ending ++ rest) = c :: unifyLineEnds rest := by
  rcases mem_wideLineEnds_iff.mp hending with rfl | ⟨c, rfl, hc⟩
  · refine ⟨'\n', by decide, by decide, ?_⟩
    rw [List.cons_append, List.cons_append, unifyLineEnds]
    rfl
  · by_cases hreturn : c = '\r'
    · subst hreturn
      refine ⟨'\n', by decide, by decide, ?_⟩
      rw [List.cons_append, List.nil_append, unifyLineEnds]
      rintro t rfl
      exact hpair rfl rfl
    · exact ⟨c, hc, hreturn, unifyLineEnds_cons hreturn rest⟩

/-- A text that is not one line is cut at its first line end. -/
theorem exists_first_line (h : ∃ c ∈ t, isLineBreak c = true) :
    ∃ line ending rest, t = line ++ ending ++ rest ∧ (∀ c ∈ line, isLineBreak c = false) ∧
      ending ∈ wideLineEnds ∧ (ending = ['\r'] → rest.head? ≠ some '\n') := by
  obtain ⟨c, hfind⟩ := Option.isSome_iff_exists.mp (List.find?_isSome.mpr h)
  obtain ⟨hc, line, rest, rfl, hline⟩ := List.find?_eq_some_iff_append.mp hfind
  have hline (d : Char) (hd : d ∈ line) : isLineBreak d = false := by simpa using hline d hd
  by_cases hpair : c = '\r' ∧ rest.head? = some '\n'
  · obtain ⟨rfl, hfeed⟩ := hpair
    obtain ⟨rest, rfl⟩ := List.head?_eq_some_iff.mp hfeed
    exact ⟨line, ['\r', '\n'], rest, by simp, hline, List.mem_cons_self, fun h ↦ by cases h⟩
  · refine ⟨line, [c], rest, by simp, hline, isLineBreak_iff.mp hc, fun hreturn hfeed ↦ ?_⟩
    exact hpair ⟨List.singleton_inj.mp hreturn, hfeed⟩

/-- Every text has lines. -/
theorem exists_hasWideLines (t : Text) : ∃ ls, HasWideLines t ls := by
  induction hlength : t.length using Nat.strong_induction_on generalizing t with
  | h n ih =>
    by_cases h : ∃ c ∈ t, isLineBreak c = true
    · obtain ⟨line, ending, rest, rfl, hline, hending, hpair⟩ := exists_first_line h
      have hpos : 0 < ending.length := by
        rcases mem_wideLineEnds_iff.mp hending with rfl | ⟨c, rfl, -⟩ <;> exact Nat.succ_pos _
      obtain ⟨ls, hls⟩ := ih rest.length (by simp at hlength; omega) rest rfl
      exact ⟨line :: ls,
        .ended (fun c hc ↦ isLineBreak_eq_false_iff.mp (hline c hc)) hending hpair hls⟩
    · have hline (c : Char) (hc : c ∈ t) : [c] ∉ wideLineEnds := fun hmem ↦
        h ⟨c, hc, isLineBreak_iff.mpr hmem⟩
      by_cases hne : t = []
      · exact ⟨[], hne ▸ .none⟩
      · exact ⟨[t], .last hne hline⟩

/-- The lines that a text has are those that it is cut into. -/
theorem HasWideLines.bareWideLines_eq (h : HasWideLines t ls) :
    bareWideLines (unifyLineEnds t) = ls := by
  induction h with
  | none => rfl
  | @last line hne hline =>
    have hline (c : Char) (hc : c ∈ _) := isLineBreak_eq_false_iff.mpr (hline c hc)
    rw [← List.append_nil line, unifyLineEnds_append_of_forall hline, unifyLineEnds,
      List.append_nil, bareWideLines_of_forall hline hne]
  | @ended line ending rest ls hline hending hpair h ih =>
    have hline (c : Char) (hc : c ∈ _) := isLineBreak_eq_false_iff.mpr (hline c hc)
    obtain ⟨c, hc, hreturn, hunify⟩ := exists_unifyLineEnds_append hending hpair
    calc
      bareWideLines (unifyLineEnds (line ++ ending ++ rest)) =
          bareWideLines (line ++ c :: unifyLineEnds rest) := by
        rw [List.append_assoc, unifyLineEnds_append_of_forall hline, hunify]
      _ = line :: bareWideLines (unifyLineEnds rest) :=
        bareWideLines_append_cons hline hc hreturn
      _ = line :: ls := by rw [ih]

/-- What is read of a text with unified line ends are its lines. -/
theorem bareWideLines_unifyLineEnds_eq_iff :
    bareWideLines (unifyLineEnds t) = ls ↔ HasWideLines t ls := by
  constructor
  · rintro rfl
    obtain ⟨ls, hls⟩ := exists_hasWideLines t
    rwa [hls.bareWideLines_eq]
  · exact HasWideLines.bareWideLines_eq

end PluginReadme.Text
