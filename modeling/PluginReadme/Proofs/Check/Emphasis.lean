import Mathlib.Algebra.GroupWithZero.Nat
import PluginReadme.Check.Marks
import PluginReadme.Proofs.Text.Lines

/-!
# Counting asterisks

A run of asterisks holds as many pairs as fit and one more asterisk if it is odd. Hence twice the
pairs and the rest are all asterisks (`two_mul_boldCount_add_italicCount`), and both counts of a
text are the sums over its lines, since no run goes on after another character.
-/

namespace PluginReadme.Check

variable {t front tail : Text}

/-! ## Runs -/

theorem boldCount_pair (rest : Text) : boldCount ('*' :: '*' :: rest) = boldCount rest + 1 := by
  change Text.countFrom ['*', '*'] 0 ('*' :: '*' :: rest) = _
  rw [Text.countFrom, if_pos (by rfl)]
  rfl

theorem isPrefixOf_boldMark_cons {c : Char} {rest : Text} (h : c = '*' → rest.head? ≠ some '*') :
    List.isPrefixOf ['*', '*'] (c :: rest) = false := by
  rw [Bool.eq_false_iff, Ne, List.isPrefixOf_iff_prefix]
  rintro ⟨more, heq⟩
  obtain ⟨hc, hrest⟩ := List.cons.inj heq
  exact h hc.symm (by rw [← hrest]; rfl)

theorem boldCount_cons {c : Char} {rest : Text} (h : c = '*' → rest.head? ≠ some '*') :
    boldCount (c :: rest) = boldCount rest := by
  change Text.countFrom ['*', '*'] 0 (c :: rest) = _
  rw [Text.countFrom, if_neg (by simp [isPrefixOf_boldMark_cons h])]
  rfl

theorem italicCount_pair (rest : Text) : italicCount ('*' :: '*' :: rest) = italicCount rest := by
  change (Text.replaceFrom ['*', '*'] [] 0 ('*' :: '*' :: rest)).count '*' = _
  rw [Text.replaceFrom, if_pos (by rfl)]
  rfl

theorem italicCount_cons {c : Char} {rest : Text} (h : c = '*' → rest.head? ≠ some '*') :
    italicCount (c :: rest) = italicCount rest + [c].count '*' := by
  change (Text.replaceFrom ['*', '*'] [] 0 (c :: rest)).count '*' = _
  rw [Text.replaceFrom, if_neg (by simp [isPrefixOf_boldMark_cons h]), List.count_cons,
    List.count_singleton]
  rfl

/-- From left to right a text is pairs of asterisks and characters that start no pair. -/
theorem emphasis_induction {motive : Text → Prop} (nil : motive [])
    (pair : ∀ rest, motive rest → motive ('*' :: '*' :: rest))
    (cons : ∀ c rest, (c = '*' → rest.head? ≠ some '*') → motive rest → motive (c :: rest))
    (t : Text) : motive t := by
  induction hlength : t.length using Nat.strong_induction_on generalizing t with
  | h n ih =>
    match t with
    | [] => exact nil
    | c :: rest =>
      rw [List.length_cons] at hlength
      by_cases h : c = '*' → rest.head? ≠ some '*'
      · exact cons c rest h (ih rest.length (by omega) rest rfl)
      · rw [Classical.not_imp, not_not] at h
        obtain ⟨rfl, hhead⟩ := h
        obtain ⟨more, rfl⟩ := List.head?_eq_some_iff.mp hhead
        rw [List.length_cons] at hlength
        exact pair more (ih more.length (by omega) more rfl)

/-- Every asterisk belongs to a mark of two or is left over. -/
theorem two_mul_boldCount_add_italicCount (t : Text) :
    2 * boldCount t + italicCount t = t.count '*' := by
  induction t using emphasis_induction with
  | nil => rfl
  | pair rest ih =>
    rw [boldCount_pair, italicCount_pair, List.count_cons_self, List.count_cons_self]
    omega
  | cons c rest h ih =>
    have hcount : (c :: rest).count '*' = [c].count '*' + rest.count '*' :=
      @List.count_append _ _ '*' [c] rest
    rw [boldCount_cons h, italicCount_cons h, hcount]
    omega

/-- The asterisks that are left over are as odd as all of them. -/
theorem italicCount_mod_two (t : Text) : italicCount t % 2 = t.count '*' % 2 := by
  have h := two_mul_boldCount_add_italicCount t
  omega

/-! ## Appending -/

theorem boldCount_append_pair (t : Text) : boldCount (t ++ ['*', '*']) = boldCount t + 1 := by
  induction t using emphasis_induction with
  | nil => rfl
  | pair rest ih => rw [List.cons_append, List.cons_append, boldCount_pair, ih, boldCount_pair]
  | cons c rest h ih =>
    by_cases hstar : c = '*' ∧ rest = []
    · obtain ⟨rfl, rfl⟩ := hstar
      rfl
    · have hhead : c = '*' → (rest ++ ['*', '*']).head? ≠ some '*' := by
        intro hc
        rw [List.head?_append_of_ne_nil rest fun hnil ↦ hstar ⟨hc, hnil⟩]
        exact h hc
      rw [List.cons_append, boldCount_cons hhead, ih, boldCount_cons h]

/-- A run of asterisks ends at any other character. -/
theorem boldCount_append_cons {c : Char} (hc : c ≠ '*') (t rest : Text) :
    boldCount (t ++ c :: rest) = boldCount t + boldCount rest := by
  induction t using emphasis_induction with
  | nil =>
    rw [List.nil_append, boldCount_cons fun heq ↦ absurd heq hc]
    exact (Nat.zero_add _).symm
  | pair more ih =>
    rw [List.cons_append, List.cons_append, boldCount_pair, ih, boldCount_pair]
    omega
  | cons d more h ih =>
    have hhead : d = '*' → (more ++ c :: rest).head? ≠ some '*' := by
      intro hd
      cases more with
      | nil => exact fun heq ↦ hc (Option.some.inj heq)
      | cons e more => exact h hd
    rw [List.cons_append, boldCount_cons hhead, ih, boldCount_cons h]

theorem boldCount_of_not_mem (h : '*' ∉ t) : boldCount t = 0 := by
  have hcount := two_mul_boldCount_add_italicCount t
  rw [List.count_eq_zero.mpr h] at hcount
  omega

theorem boldCount_append_of_not_mem (h : '*' ∉ tail) : boldCount (t ++ tail) = boldCount t := by
  cases tail with
  | nil => rw [List.append_nil]
  | cons c tail =>
    have hc : c ≠ '*' := fun heq ↦ h (heq ▸ List.mem_cons_self)
    have htail : '*' ∉ tail := fun hmem ↦ h (List.mem_cons_of_mem c hmem)
    rw [boldCount_append_cons hc, boldCount_of_not_mem htail, Nat.add_zero]

theorem boldCount_append_left (h : '*' ∉ front) : boldCount (front ++ t) = boldCount t := by
  rcases List.eq_nil_or_concat' front with rfl | ⟨start, c, rfl⟩
  · rw [List.nil_append]
  · have hc : c ≠ '*' := fun heq ↦ h (by simp [heq])
    have hstart : '*' ∉ start := fun hmem ↦ h (List.mem_append_left [c] hmem)
    rw [← List.append_cons, boldCount_append_cons hc, boldCount_of_not_mem hstart, Nat.zero_add]

/-! ## Lines -/

theorem count_dropFinalReturn (line : Text) :
    (Text.dropFinalReturn line).count '*' = line.count '*' := by
  rcases Text.dropFinalReturn_cases line with h | h
  · rw [h]
  · conv_rhs => rw [h, List.count_append]
    rfl

theorem boldCount_dropFinalReturn (line : Text) :
    boldCount (Text.dropFinalReturn line) = boldCount line := by
  rcases Text.dropFinalReturn_cases line with h | h
  · rw [h]
  · conv_rhs => rw [h, boldCount_append_of_not_mem (by decide)]

/-- Marks of two asterisks are found line by line, for none runs over a line end. -/
theorem boldCount_eq_sum_lines (t : Text) :
    boldCount t = ((Text.lines t).map boldCount).sum := by
  induction t using Text.lines_induction with
  | last line h => simp [Text.lines_of_not_mem h]
  | feed line rest h ih =>
    calc
      boldCount (line ++ '\n' :: rest) =
          boldCount line + ((Text.lines rest).map boldCount).sum := by
        rw [boldCount_append_cons (by decide), ih]
      _ = ((Text.lines (line ++ '\n' :: rest)).map boldCount).sum := by
        rw [Text.lines_append_feed h, List.map_cons, List.sum_cons, boldCount_dropFinalReturn]

/-- Asterisks are counted line by line. -/
theorem count_eq_sum_lines (t : Text) :
    t.count '*' = ((Text.lines t).map fun line ↦ line.count '*').sum := by
  induction t using Text.lines_induction with
  | last line h => simp [Text.lines_of_not_mem h]
  | feed line rest h ih =>
    calc
      (line ++ '\n' :: rest).count '*' =
          line.count '*' + ((Text.lines rest).map fun line ↦ line.count '*').sum := by
        rw [List.count_append, List.count_cons_of_ne (by decide), ih]
      _ = ((Text.lines (line ++ '\n' :: rest)).map fun line ↦ line.count '*').sum := by
        rw [Text.lines_append_feed h, List.map_cons, List.sum_cons, count_dropFinalReturn]

/-- Where one line is put in place of another, both counts change as on that line. -/
theorem boldCount_replace {fixed other new : Text} {before after : List Text}
    (ht : Text.lines t = before ++ other :: after)
    (hfixed : Text.lines fixed = before ++ new :: after) :
    boldCount fixed + boldCount other = boldCount t + boldCount new := by
  rw [boldCount_eq_sum_lines t, boldCount_eq_sum_lines fixed, ht, hfixed]
  simp only [List.map_append, List.map_cons, List.sum_append, List.sum_cons]
  omega

/-- Where one line is put in place of another, the asterisks change as on that line. -/
theorem count_replace {fixed other new : Text} {before after : List Text}
    (ht : Text.lines t = before ++ other :: after)
    (hfixed : Text.lines fixed = before ++ new :: after) :
    fixed.count '*' + other.count '*' = t.count '*' + new.count '*' := by
  rw [count_eq_sum_lines t, count_eq_sum_lines fixed, ht, hfixed]
  simp only [List.map_append, List.map_cons, List.sum_append, List.sum_cons]
  omega

/-- An odd number of asterisks on all lines is an odd number on one of them. -/
theorem exists_odd_of_sum_odd {f : Text → Nat} {ls : List Text} (h : (ls.map f).sum % 2 = 1) :
    ∃ line ∈ ls, f line % 2 = 1 := by
  induction ls with
  | nil => exact absurd h (by simp)
  | cons line ls ih =>
    by_cases hline : f line % 2 = 1
    · exact ⟨line, List.mem_cons_self, hline⟩
    · rw [List.map_cons, List.sum_cons] at h
      obtain ⟨other, hother, hodd⟩ := ih (by omega)
      exact ⟨other, List.mem_cons_of_mem line hother, hodd⟩

theorem occurs_boldMark (h : boldCount t ≠ 0) : Text.occurs boldMark t = true := by
  induction t using emphasis_induction with
  | nil => exact absurd rfl h
  | pair rest _ =>
    rw [Text.occurs_cons, Bool.or_eq_true]
    exact Or.inl rfl
  | cons c rest hc ih =>
    rw [boldCount_cons hc] at h
    rw [Text.occurs_cons, ih h, Bool.or_true]

end PluginReadme.Check
