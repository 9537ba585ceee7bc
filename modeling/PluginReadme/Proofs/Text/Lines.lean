import Mathlib.Data.List.Infix
import PluginReadme.Text.Lines

/-!
# Lines that are cut again

Every text is its first line, a line feed, and a text that is shorter (`lines_induction`), and this
is how its lines are found (`lines_append_feed`). Lines that were joined are found again when no
line holds a line feed and none but the last ends with a carriage return that would become part of
the line end after it (`lines_join_lineEnd`).
-/

namespace PluginReadme.Text

/-! ## Occurrences -/

theorem occurs_cons (needle : Text) (c : Char) (rest : Text) :
    occurs needle (c :: rest) = (needle.isPrefixOf (c :: rest) || occurs needle rest) := by
  rw [occurs, indexOf?]
  split
  · next h => rw [h]; rfl
  · next h => simp [h, occurs]

theorem occurs_iff_isInfix {needle t : Text} : occurs needle t = true ↔ needle <:+: t := by
  induction t with
  | nil => simp [occurs, indexOf?]
  | cons c rest ih => rw [occurs_cons, Bool.or_eq_true, List.isPrefixOf_iff_prefix, ih,
      List.infix_cons_iff]

/-! ## Line feeds -/

/-- The line without the one carriage return that may end it. -/
def dropFinalReturn (line : Text) : Text :=
  if line.getLast? = some '\r' then line.dropLast else line

theorem dropFinalReturn_eq_self {line : Text} (h : line.getLast? ≠ some '\r') :
    dropFinalReturn line = line :=
  if_neg h

theorem dropFinalReturn_append_return (line : Text) : dropFinalReturn (line ++ ['\r']) = line := by
  simp [dropFinalReturn]

/-- The line is the same up to one carriage return at its end. -/
theorem dropFinalReturn_cases (line : Text) :
    dropFinalReturn line = line ∨ line = dropFinalReturn line ++ ['\r'] := by
  by_cases h : line.getLast? = some '\r'
  · right
    rw [dropFinalReturn, if_pos h]
    exact (List.dropLast_append_getLast? '\r' h).symm
  · exact Or.inl (dropFinalReturn_eq_self h)

theorem dropFinalReturn_isPrefix (line : Text) : dropFinalReturn line <+: line := by
  unfold dropFinalReturn
  split
  · exact List.dropLast_prefix line
  · exact List.prefix_refl line

theorem dropFinalReturn_cons {c : Char} {line : Text} (h : line ≠ []) :
    dropFinalReturn (c :: line) = c :: dropFinalReturn line := by
  unfold dropFinalReturn
  rw [List.getLast?_cons_of_ne_nil h]
  split
  · exact List.dropLast_cons_of_ne_nil h
  · rfl

theorem lines_cons {c : Char} {rest : Text} (hfeed : c ≠ '\n')
    (hpair : c = '\r' → rest.head? ≠ some '\n') : lines (c :: rest) = consFirst c (lines rest) := by
  rw [lines]
  · exact hfeed
  · intro tail hc hrest
    exact hpair hc (by rw [hrest]; rfl)

theorem lines_of_not_mem {line : Text} (h : '\n' ∉ line) : lines line = [line] := by
  induction line with
  | nil => rfl
  | cons c rest ih =>
    have hrest : '\n' ∉ rest := fun hmem ↦ h (List.mem_cons_of_mem c hmem)
    rw [lines_cons (fun hc ↦ h (hc ▸ List.mem_cons_self))
      (fun _ hhead ↦ hrest (List.mem_of_mem_head? hhead)), ih hrest]
    rfl

/-- A line goes up to its line feed, less a carriage return. -/
theorem lines_append_feed {line : Text} (h : '\n' ∉ line) (rest : Text) :
    lines (line ++ '\n' :: rest) = dropFinalReturn line :: lines rest := by
  induction line with
  | nil => rfl
  | cons c line ih =>
    have hc : c ≠ '\n' := fun heq ↦ h (heq ▸ List.mem_cons_self)
    have hline : '\n' ∉ line := fun hmem ↦ h (List.mem_cons_of_mem c hmem)
    by_cases hnil : line = []
    · subst hnil
      by_cases hreturn : c = '\r'
      · subst hreturn
        rfl
      · rw [List.cons_append, lines_cons hc fun heq ↦ absurd heq hreturn, ih hline]
        simp [consFirst, dropFinalReturn, hreturn]
    · have hhead : (line ++ '\n' :: rest).head? ≠ some '\n' := by
        rw [List.head?_append_of_ne_nil line hnil]
        exact fun heq ↦ hline (List.mem_of_mem_head? heq)
      rw [List.cons_append, lines_cons hc fun _ ↦ hhead, ih hline, dropFinalReturn_cons hnil]
      rfl

/-- A text is one line, or a line and a shorter text with a line feed between them. -/
theorem lines_induction {motive : Text → Prop} (last : ∀ line, '\n' ∉ line → motive line)
    (feed : ∀ line rest, '\n' ∉ line → motive rest → motive (line ++ '\n' :: rest)) (t : Text) :
    motive t := by
  induction hlength : t.length using Nat.strong_induction_on generalizing t with
  | h n ih =>
    by_cases h : '\n' ∈ t
    · obtain ⟨line, rest, rfl, hline⟩ := List.eq_append_cons_of_mem h
      refine feed line rest hline (ih rest.length ?_ rest rfl)
      rw [← hlength, List.length_append, List.length_cons]
      omega
    · exact last t h

/-- Lines hold no line feed. -/
theorem feed_not_mem_of_mem_lines {t line : Text} (h : line ∈ lines t) : '\n' ∉ line := by
  induction t using lines_induction with
  | last whole hwhole =>
    rw [lines_of_not_mem hwhole, List.mem_singleton] at h
    exact h ▸ hwhole
  | feed first rest hfirst ih =>
    rw [lines_append_feed hfirst, List.mem_cons] at h
    rcases h with rfl | h
    · intro hmem
      rcases dropFinalReturn_cases first with heq | heq
      · exact hfirst (heq ▸ hmem)
      · exact hfirst (heq ▸ List.mem_append_left _ hmem)
    · exact ih h

/-! ## Carriage returns -/

theorem hasCarriageReturn_of_not_mem {line : Text} (h : '\n' ∉ line) :
    hasCarriageReturn line = false := by
  rw [hasCarriageReturn, Bool.eq_false_iff, Ne, occurs_iff_isInfix]
  exact fun hpart ↦ h (hpart.subset (by decide))

theorem hasCarriageReturn_eq_false {t : Text} (h : '\r' ∉ t) : hasCarriageReturn t = false := by
  rw [hasCarriageReturn, Bool.eq_false_iff, Ne, occurs_iff_isInfix]
  exact fun hpart ↦ h (hpart.subset (by decide))

theorem hasCarriageReturn_append_feed {line : Text} (h : '\n' ∉ line) (rest : Text) :
    hasCarriageReturn (line ++ '\n' :: rest) =
      (decide (line.getLast? = some '\r') || hasCarriageReturn rest) := by
  induction line with
  | nil =>
    unfold hasCarriageReturn
    rw [List.nil_append, occurs_cons]
    rfl
  | cons c line ih =>
    have hline : '\n' ∉ line := fun hmem ↦ h (List.mem_cons_of_mem c hmem)
    unfold hasCarriageReturn at ih ⊢
    rw [List.cons_append, occurs_cons, ih hline]
    cases line with
    | nil =>
      by_cases hc : c = '\r'
      · simp [hc, List.isPrefixOf]
      · simp [hc, Ne.symm hc, List.isPrefixOf, occurs]
    | cons d line =>
      have hd : '\n' ≠ d := fun heq ↦ hline (heq ▸ List.mem_cons_self)
      simp [List.isPrefixOf, hd, List.getLast?_cons_cons]

/-- No line but the last ends with a carriage return. -/
def FeedSafe (ls : List Text) : Prop := ls.Pairwise fun line _ ↦ line.getLast? ≠ some '\r'

theorem feedSafe_of_forall {ls : List Text} (h : ∀ line ∈ ls, line.getLast? ≠ some '\r') :
    FeedSafe ls :=
  List.pairwise_of_forall_mem_list fun line hline _ _ ↦ h line hline

/-- If no carriage return stands before a line feed, no line but the last ends with one. -/
theorem feedSafe_lines {t : Text} (h : hasCarriageReturn t = false) : FeedSafe (lines t) := by
  induction t using lines_induction with
  | last line hline =>
    rw [lines_of_not_mem hline]
    exact List.pairwise_singleton _ _
  | feed line rest hline ih =>
    rw [hasCarriageReturn_append_feed hline, Bool.or_eq_false_iff, decide_eq_false_iff_not] at h
    rw [lines_append_feed hline, dropFinalReturn_eq_self h.1]
    exact List.Pairwise.cons (fun _ _ ↦ h.1) (ih h.2)

/-- Without a carriage return at its end, a text of line feeds has none at the end of a line. -/
theorem forall_lines_getLast_ne_return {t : Text} (h : hasCarriageReturn t = false)
    (hlast : t.getLast? ≠ some '\r') : ∀ line ∈ lines t, line.getLast? ≠ some '\r' := by
  induction t using lines_induction with
  | last line hline => simpa [lines_of_not_mem hline] using hlast
  | feed line rest hline ih =>
    rw [hasCarriageReturn_append_feed hline, Bool.or_eq_false_iff, decide_eq_false_iff_not] at h
    have hrest : rest.getLast? ≠ some '\r' := by
      intro hreturn
      rw [List.getLast?_append, List.getLast?_cons, hreturn] at hlast
      exact hlast rfl
    rw [lines_append_feed hline, dropFinalReturn_eq_self h.1]
    exact List.forall_mem_cons.mpr ⟨h.1, ih h.2 hrest⟩

/-- Without carriage returns before it, a line feed only parts the lines in front of it from those
after it. -/
theorem lines_append_feed_of_not_mem {t : Text} (h : '\r' ∉ t) (rest : Text) :
    lines (t ++ '\n' :: rest) = lines t ++ lines rest := by
  induction t using lines_induction with
  | last line hline =>
    have hlast : line.getLast? ≠ some '\r' := fun hreturn ↦ h (List.mem_of_getLast? hreturn)
    rw [lines_append_feed hline, lines_of_not_mem hline, dropFinalReturn_eq_self hlast]
    rfl
  | feed line more hline ih =>
    have hmore : '\r' ∉ more := fun hmem ↦ h (by simp [hmem])
    calc
      lines (line ++ '\n' :: more ++ '\n' :: rest) =
          dropFinalReturn line :: lines (more ++ '\n' :: rest) := by
        rw [List.append_assoc, List.cons_append, lines_append_feed hline]
      _ = dropFinalReturn line :: (lines more ++ lines rest) := by rw [ih hmore]
      _ = lines (line ++ '\n' :: more) ++ lines rest := by
        rw [lines_append_feed hline, List.cons_append]

theorem lines_ne_nil (t : Text) : lines t ≠ [] := by
  induction t using lines_induction with
  | last line hline => rw [lines_of_not_mem hline]; exact List.cons_ne_nil line []
  | feed line rest hline _ => rw [lines_append_feed hline]; exact List.cons_ne_nil _ _

/-! ## Joining -/

theorem join_cons {glue line : Text} {ls : List Text} (h : ls ≠ []) :
    join glue (line :: ls) = line ++ glue ++ join glue ls :=
  List.intercalate_cons_of_ne_nil h

theorem join_singleton (glue line : Text) : join glue [line] = line :=
  List.intercalate_singleton

theorem join_append {glue : Text} {front back : List Text} (hfront : front ≠ [])
    (hback : back ≠ []) :
    join glue (front ++ back) = join glue front ++ glue ++ join glue back := by
  induction front with
  | nil => exact absurd rfl hfront
  | cons line front ih =>
    rw [List.cons_append]
    by_cases hnil : front = []
    · rw [hnil, List.nil_append, join_cons hback, join_singleton]
    · rw [join_cons (List.append_ne_nil_of_left_ne_nil hnil back), ih hnil, join_cons hnil]
      simp only [List.append_assoc]

/-- Neighbouring lines stand together in the text. -/
theorem join_infix_join (glue : Text) {block ls : List Text} (hblock : block ≠ [])
    (h : block <:+: ls) : join glue block <:+: join glue ls := by
  obtain ⟨front, back, rfl⟩ := h
  have hstart : join glue block <:+: join glue (block ++ back) := by
    by_cases hback : back = []
    · rw [hback, List.append_nil]
    · rw [join_append hblock hback, List.append_assoc]
      exact (List.prefix_append _ _).isInfix
  by_cases hfront : front = []
  · rwa [hfront, List.nil_append]
  · have hne : block ++ back ≠ [] := List.append_ne_nil_of_left_ne_nil hblock back
    rw [List.append_assoc, join_append hfront hne]
    exact hstart.trans (List.suffix_append _ _).isInfix

/-- A feed after every line is a feed between the lines and an empty one. -/
theorem join_concat_nil (ls : List Text) :
    join ['\n'] (ls ++ [[]]) = ls.flatMap fun line ↦ line ++ ['\n'] := by
  induction ls with
  | nil => rfl
  | cons line ls ih =>
    rw [List.cons_append, join_cons (by simp), ih, List.flatMap_cons]

/-- A text is its lines with line feeds between them exactly if no carriage return ends a line. -/
theorem join_lines_eq_self_iff {t : Text} :
    join ['\n'] (lines t) = t ↔ hasCarriageReturn t = false := by
  induction t using lines_induction with
  | last line hline =>
    rw [lines_of_not_mem hline, join_singleton, hasCarriageReturn_of_not_mem hline]
    exact iff_of_true rfl rfl
  | feed line rest hline ih =>
    have hjoin : join ['\n'] (lines (line ++ '\n' :: rest)) =
        dropFinalReturn line ++ '\n' :: join ['\n'] (lines rest) := by
      rw [lines_append_feed hline, join_cons (lines_ne_nil rest), List.append_assoc,
        List.singleton_append]
    rw [hjoin, hasCarriageReturn_append_feed hline, Bool.or_eq_false_iff, decide_eq_false_iff_not,
      ← ih]
    by_cases hlast : line.getLast? = some '\r'
    · obtain ⟨front, rfl⟩ := List.getLast?_eq_some_iff.mp hlast
      refine iff_of_false (fun h ↦ ?_) fun h ↦ h.1 hlast
      rw [dropFinalReturn_append_return, List.append_assoc, List.append_cancel_left_eq] at h
      exact absurd (List.cons.inj h).1 (by decide)
    · rw [dropFinalReturn_eq_self hlast, List.append_cancel_left_eq, List.cons_inj_right]
      exact (and_iff_right hlast).symm

/-- A text without carriage returns is its lines with line feeds between them. -/
theorem join_lines {t : Text} (h : '\r' ∉ t) : join ['\n'] (lines t) = t :=
  join_lines_eq_self_iff.mpr (hasCarriageReturn_eq_false h)

/-- Joining with line feeds takes a carriage return off every line but the last. -/
theorem lines_join_feed {front : List Text} {line : Text} (hfront : ∀ other ∈ front, '\n' ∉ other)
    (hline : '\n' ∉ line) :
    lines (join ['\n'] (front ++ [line])) = front.map dropFinalReturn ++ [line] := by
  induction front with
  | nil => rw [List.nil_append, join_singleton, lines_of_not_mem hline]; rfl
  | cons first front ih =>
    obtain ⟨hfirst, hrest⟩ := List.forall_mem_cons.mp hfront
    calc
      lines (join ['\n'] (first :: (front ++ [line]))) =
          lines (first ++ '\n' :: join ['\n'] (front ++ [line])) := by
        rw [join_cons (by simp), List.append_assoc, List.singleton_append]
      _ = dropFinalReturn first :: (front.map dropFinalReturn ++ [line]) := by
        rw [lines_append_feed hfirst, ih hrest]

/-- Lines joined with a carriage return and a line feed are found again. -/
theorem lines_join_pair {ls : List Text} (hne : ls ≠ []) (h : ∀ line ∈ ls, '\n' ∉ line) :
    lines (join ['\r', '\n'] ls) = ls := by
  induction ls with
  | nil => exact absurd rfl hne
  | cons line ls ih =>
    obtain ⟨hline, hrest⟩ := List.forall_mem_cons.mp h
    by_cases hnil : ls = []
    · rw [hnil, join_singleton, lines_of_not_mem hline]
    · have hreturn : '\n' ∉ line ++ ['\r'] := by simpa using hline
      have hjoin : join ['\r', '\n'] (line :: ls) =
          (line ++ ['\r']) ++ '\n' :: join ['\r', '\n'] ls := by
        rw [join_cons hnil]
        simp
      calc
        lines (join ['\r', '\n'] (line :: ls)) =
            dropFinalReturn (line ++ ['\r']) :: lines (join ['\r', '\n'] ls) := by
          rw [hjoin, lines_append_feed hreturn]
        _ = line :: ls := by
          rw [dropFinalReturn_append_return, ih hnil hrest]

theorem lineEnd_of_hasCarriageReturn {t : Text} (h : hasCarriageReturn t = true) :
    lineEnd t = ['\r', '\n'] :=
  if_pos h

theorem lineEnd_of_not_hasCarriageReturn {t : Text} (h : hasCarriageReturn t = false) :
    lineEnd t = ['\n'] :=
  if_neg (by simp [h])

theorem FeedSafe.map_dropFinalReturn {front : List Text} {line : Text}
    (h : FeedSafe (front ++ [line])) : front.map dropFinalReturn = front := by
  have hfront : ∀ other ∈ front, other.getLast? ≠ some '\r' := fun other hother ↦
    (List.pairwise_append.mp h).2.2 other hother line List.mem_cons_self
  calc
    front.map dropFinalReturn = front.map id :=
      List.map_congr_left fun other hother ↦ dropFinalReturn_eq_self (hfront other hother)
    _ = front := List.map_id front

/-- Lines joined with the line end of a text are found again. -/
theorem lines_join_lineEnd {t : Text} {ls : List Text} (hne : ls ≠ [])
    (h : ∀ line ∈ ls, '\n' ∉ line) (hsafe : hasCarriageReturn t = false → FeedSafe ls) :
    lines (join (lineEnd t) ls) = ls := by
  cases hreturn : hasCarriageReturn t with
  | true => rw [lineEnd_of_hasCarriageReturn hreturn, lines_join_pair hne h]
  | false =>
    obtain ⟨front, line, rfl⟩ := List.eq_nil_or_concat' ls |>.resolve_left hne
    have hline : '\n' ∉ line := h line (by simp)
    have hfront : ∀ other ∈ front, '\n' ∉ other := fun other hother ↦
      h other (List.mem_append_left _ hother)
    rw [lineEnd_of_not_hasCarriageReturn hreturn, lines_join_feed hfront hline,
      (hsafe hreturn).map_dropFinalReturn]

theorem hasCarriageReturn_join_feed {ls : List Text} (h : ∀ line ∈ ls, '\n' ∉ line)
    (hsafe : FeedSafe ls) : hasCarriageReturn (join ['\n'] ls) = false := by
  induction ls with
  | nil => rfl
  | cons line ls ih =>
    obtain ⟨hline, hrest⟩ := List.forall_mem_cons.mp h
    obtain ⟨hreturn, htail⟩ := List.pairwise_cons.mp hsafe
    cases ls with
    | nil => rw [join_singleton, hasCarriageReturn_of_not_mem hline]
    | cons second ls =>
      have hlast : line.getLast? ≠ some '\r' := hreturn second List.mem_cons_self
      calc
        hasCarriageReturn (join ['\n'] (line :: second :: ls)) =
            hasCarriageReturn (line ++ '\n' :: join ['\n'] (second :: ls)) := by
          rw [join_cons (List.cons_ne_nil second ls), List.append_assoc, List.singleton_append]
        _ = (decide (line.getLast? = some '\r') ||
            hasCarriageReturn (join ['\n'] (second :: ls))) := hasCarriageReturn_append_feed hline _
        _ = false := by
          rw [ih hrest htail, decide_eq_false hlast, Bool.or_false]

/-- Where line feeds alone join the lines, no carriage return came before one. -/
theorem feedSafe_of_hasCarriageReturn_join {ls : List Text} (h : ∀ line ∈ ls, '\n' ∉ line)
    (hjoin : hasCarriageReturn (join ['\n'] ls) = false) : FeedSafe ls := by
  induction ls with
  | nil => exact List.Pairwise.nil
  | cons line ls ih =>
    obtain ⟨hline, hrest⟩ := List.forall_mem_cons.mp h
    cases ls with
    | nil => exact List.pairwise_singleton _ _
    | cons second ls =>
      rw [join_cons (List.cons_ne_nil second ls), List.append_assoc, List.singleton_append,
        hasCarriageReturn_append_feed hline, Bool.or_eq_false_iff, decide_eq_false_iff_not] at hjoin
      exact List.Pairwise.cons (fun _ _ ↦ hjoin.1) (ih hrest hjoin.2)

/-- Two lines joined with a carriage return and a line feed have the former before the latter. -/
theorem hasCarriageReturn_join_pair {line second : Text} {ls : List Text} (h : '\n' ∉ line) :
    hasCarriageReturn (join ['\r', '\n'] (line :: second :: ls)) = true := by
  have hreturn : '\n' ∉ line ++ ['\r'] := by simpa using h
  rw [join_cons (List.cons_ne_nil second ls),
    show line ++ ['\r', '\n'] ++ join ['\r', '\n'] (second :: ls) =
      (line ++ ['\r']) ++ '\n' :: join ['\r', '\n'] (second :: ls) by simp,
    hasCarriageReturn_append_feed hreturn]
  simp

/-- The line end in use is read off the joined lines again, as far as it stands anywhere. -/
theorem join_lineEnd_join {t : Text} {ls : List Text} (h : ∀ line ∈ ls, '\n' ∉ line)
    (hsafe : hasCarriageReturn t = false → FeedSafe ls) :
    join (lineEnd (join (lineEnd t) ls)) ls = join (lineEnd t) ls := by
  cases ls with
  | nil => rfl
  | cons line ls =>
    cases ls with
    | nil => rw [join_singleton, join_singleton]
    | cons second ls =>
      have hline : '\n' ∉ line := h line List.mem_cons_self
      cases hreturn : hasCarriageReturn t with
      | true =>
        rw [lineEnd_of_hasCarriageReturn hreturn,
          lineEnd_of_hasCarriageReturn (hasCarriageReturn_join_pair hline)]
      | false =>
        rw [lineEnd_of_not_hasCarriageReturn hreturn,
          lineEnd_of_not_hasCarriageReturn (hasCarriageReturn_join_feed h (hsafe hreturn))]

end PluginReadme.Text
