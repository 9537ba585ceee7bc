import PluginReadme.Proofs.Text.Lines
import PluginReadme.Proofs.Text.Trim

/-!
# Cutting texts

A text is cut at the first character that ends a run, and at its line feeds. A line feed parts what
stands before it from what stands after it (`splitOn_append_mark`). Blanks around a text add blank
lines around its lines and nothing else, once every line is trimmed (`map_strip_splitOn_padded`);
the carriage returns in front of line feeds are trimmed as well (`map_strip_lines`).
-/

namespace PluginReadme.Text

variable {p : Char → Bool} {mark : Char} {front t tail : Text}

/-! ## Runs -/

theorem drop_length_takeWhile (p : Char → Bool) (t : Text) :
    t.drop (t.takeWhile p).length = t.dropWhile p := by
  conv_lhs =>
    arg 2
    rw [← List.takeWhile_append_dropWhile (p := p) (l := t)]
  exact List.drop_left

theorem takeWhile_append_cons {run rest : Text} {c : Char} (hrun : ∀ d ∈ run, p d = true)
    (hc : p c = false) : (run ++ c :: rest).takeWhile p = run := by
  rw [List.takeWhile_append_of_pos hrun, List.takeWhile_cons_of_neg (by simp [hc]), List.append_nil]

/-- A list is cut at the first element of another kind in one way. -/
theorem append_cons_inj {α : Type} {q : α → Bool} {run other rest more : List α} {c d : α}
    (hrun : ∀ e ∈ run, q e = true) (hc : q c = false) (hother : ∀ e ∈ other, q e = true)
    (hd : q d = false) (h : run ++ c :: rest = other ++ d :: more) :
    run = other ∧ c = d ∧ rest = more := by
  have heq := congrArg (List.takeWhile q) h
  rw [List.takeWhile_append_of_pos hrun, List.takeWhile_append_of_pos hother,
    List.takeWhile_cons_of_neg (by simp [hc]), List.takeWhile_cons_of_neg (by simp [hd]),
    List.append_nil, List.append_nil] at heq
  subst heq
  exact ⟨rfl, List.cons.inj (List.append_cancel_left h)⟩

theorem takeWhile_ne_append_cons {run : Text} {c : Char} (h : c ∉ run) (rest : Text) :
    (run ++ c :: rest).takeWhile (· != c) = run :=
  takeWhile_append_cons (fun _ hd ↦ by simpa using ne_of_mem_of_not_mem hd h) (by simp)

theorem not_mem_takeWhile_ne (c : Char) (t : Text) : c ∉ t.takeWhile (· != c) := fun hmem ↦ by
  simpa using forall_mem_takeWhile _ t c hmem

/-- A run that something ends stands in front of the character that ends it. -/
theorem exists_cons_of_takeWhile (h : ∃ c ∈ t, p c = false) :
    ∃ c rest, t = t.takeWhile p ++ c :: rest ∧ p c = false := by
  have hne : t.dropWhile p ≠ [] := by
    obtain ⟨c, hc, hpc⟩ := h
    rw [Ne, List.dropWhile_eq_nil_iff]
    intro hall
    rw [hall c hc] at hpc
    exact Bool.noConfusion hpc
  obtain ⟨c, rest, hcons⟩ := List.exists_cons_of_ne_nil hne
  refine ⟨c, rest, ?_, head_dropWhile p t c (by rw [hcons]; rfl)⟩
  rw [← hcons, List.takeWhile_append_dropWhile]

/-! ## Places -/

/-- What is searched for stands at the index. -/
theorem exists_of_indexOf? {needle : Text} {n : Nat} (h : indexOf? needle t = some n) :
    ∃ front rest, t = front ++ needle ++ rest ∧ front.length = n := by
  induction t generalizing n with
  | nil =>
    rw [indexOf?] at h
    split_ifs at h with hempty
    rw [List.isEmpty_iff.mp hempty]
    exact ⟨[], [], rfl, Option.some.inj h⟩
  | cons c t ih =>
    rw [indexOf?] at h
    split_ifs at h with hprefix
    · obtain ⟨rest, hrest⟩ := List.isPrefixOf_iff_prefix.mp hprefix
      exact ⟨[], rest, hrest.symm, Option.some.inj h⟩
    · obtain ⟨m, hm, rfl⟩ := Option.map_eq_some_iff.mp h
      obtain ⟨front, rest, rfl, rfl⟩ := ih hm
      exact ⟨c :: front, rest, rfl, rfl⟩

/-- No place where it stands is in front of the index. -/
theorem le_length_of_indexOf? {needle rest : Text} {n : Nat}
    (h : indexOf? needle (front ++ needle ++ rest) = some n) : n ≤ front.length := by
  induction front generalizing n with
  | nil =>
    have hprefix : needle.isPrefixOf (needle ++ rest) = true :=
      List.isPrefixOf_iff_prefix.mpr (List.prefix_append needle rest)
    rw [List.nil_append] at h
    cases hwhole : needle ++ rest with
    | nil =>
      rw [hwhole, indexOf?] at h
      split_ifs at h
      exact (Option.some.inj h).ge
    | cons c more =>
      rw [hwhole, indexOf?, if_pos (hwhole ▸ hprefix)] at h
      exact (Option.some.inj h).ge
  | cons c front ih =>
    rw [List.cons_append, List.cons_append, indexOf?] at h
    split_ifs at h
    · exact (Option.some.inj h).symm ▸ Nat.zero_le _
    · obtain ⟨m, hm, rfl⟩ := Option.map_eq_some_iff.mp h
      exact Nat.succ_le_succ (ih hm)

/-! ## Beginnings -/

theorem after?_eq_some_iff {start rest : Text} : after? start t = some rest ↔ t = start ++ rest :=
  List.isPrefixOf?_eq_some_iff_append_eq.trans eq_comm

theorem startsWith_iff {start : Text} : startsWith start t = true ↔ ∃ rest, t = start ++ rest :=
  List.isPrefixOf_iff_prefix.trans (exists_congr fun _ ↦ eq_comm)

/-- One of two beginnings is cut off. -/
theorem exists_append_of_after? {first second rest : Text}
    (h : (after? first t <|> after? second t) = some rest) :
    ∃ start, (start = first ∨ start = second) ∧ t = start ++ rest := by
  rw [Option.orElse_eq_orElse, Option.orElse_eq_or, Option.or_eq_some_iff] at h
  rcases h with h | ⟨-, h⟩
  · exact ⟨first, .inl rfl, after?_eq_some_iff.mp h⟩
  · exact ⟨second, .inr rfl, after?_eq_some_iff.mp h⟩

/-! ## Pieces -/

theorem splitOn_of_not_mem (h : mark ∉ t) : splitOn mark t = [t] := by
  induction t with
  | nil => rfl
  | cons c rest ih =>
    rw [splitOn, if_neg fun hc : c = mark ↦ h (hc ▸ List.mem_cons_self),
      ih fun hmem ↦ h (List.mem_cons_of_mem c hmem)]
    rfl

theorem consFirst_append {c : Char} {ls more : List Text} (h : ls ≠ []) :
    consFirst c (ls ++ more) = consFirst c ls ++ more := by
  obtain ⟨first, others, rfl⟩ := List.exists_cons_of_ne_nil h
  rfl

/-- A text is cut at each of its marks. -/
theorem splitOn_append_mark (front tail : Text) :
    splitOn mark (front ++ mark :: tail) = splitOn mark front ++ splitOn mark tail := by
  induction front with
  | nil => simp [splitOn]
  | cons c front ih =>
    rw [List.cons_append, splitOn, splitOn]
    split_ifs
    · rw [ih, List.cons_append]
    · rw [ih, consFirst_append (splitOn_ne_nil mark front)]

/-- What stands before the first mark belongs to the first piece. -/
theorem splitOn_append_of_not_mem {first : Text} {more : List Text} (hfront : mark ∉ front)
    (ht : splitOn mark t = first :: more) :
    splitOn mark (front ++ t) = (front ++ first) :: more := by
  induction front with
  | nil => exact ht
  | cons c front ih =>
    rw [List.cons_append, splitOn, if_neg fun hc : c = mark ↦ hfront (hc ▸ List.mem_cons_self),
      ih fun hmem ↦ hfront (List.mem_cons_of_mem c hmem)]
    rfl

/-- A text without marks at the end belongs to the last piece. -/
theorem exists_splitOn_append (ht : mark ∉ t) (front : Text) :
    ∃ (pieces : List Text) (last : Text), splitOn mark (front ++ t) = pieces ++ [last ++ t] ∧
      ∀ piece ∈ pieces, ∀ c ∈ piece, c ∈ front := by
  induction front with
  | nil => exact ⟨[], [], splitOn_of_not_mem ht, by simp⟩
  | cons c front ih =>
    obtain ⟨pieces, last, hsplit, hpieces⟩ := ih
    have hmem : ∀ piece ∈ pieces, ∀ d ∈ piece, d ∈ c :: front := fun piece hpiece d hd ↦
      List.mem_cons_of_mem c (hpieces piece hpiece d hd)
    rw [List.cons_append, splitOn, hsplit]
    split_ifs
    · exact ⟨[] :: pieces, last, rfl, List.forall_mem_cons.mpr ⟨by simp, hmem⟩⟩
    · cases pieces with
      | nil => exact ⟨[], c :: last, rfl, by simp⟩
      | cons piece pieces =>
        obtain ⟨hpiece, hrest⟩ := List.forall_mem_cons.mp hmem
        refine ⟨(c :: piece) :: pieces, last, rfl, List.forall_mem_cons.mpr ⟨?_, hrest⟩⟩
        exact List.forall_mem_cons.mpr ⟨List.mem_cons_self, hpiece⟩

theorem not_mem_of_mem_splitOn {piece : Text} (h : piece ∈ splitOn mark t) : mark ∉ piece := by
  induction t generalizing piece with
  | nil =>
    rw [splitOn, List.mem_singleton] at h
    exact h ▸ List.not_mem_nil
  | cons c rest ih =>
    obtain ⟨first, more, hrest⟩ := List.exists_cons_of_ne_nil (splitOn_ne_nil mark rest)
    rw [hrest] at ih
    rw [splitOn, hrest] at h
    split_ifs at h with hc
    · rcases List.mem_cons.mp h with rfl | h
      · exact List.not_mem_nil
      · exact ih h
    · rcases List.mem_cons.mp h with rfl | h
      · intro hmem
        rcases List.mem_cons.mp hmem with hmark | hmem
        · exact hc hmark.symm
        · exact ih List.mem_cons_self hmem
      · exact ih (List.mem_cons_of_mem first h)

theorem mem_join_of_mem {glue piece : Text} {pieces : List Text} {c : Char} (h : piece ∈ pieces)
    (hc : c ∈ piece) : c ∈ join glue pieces := by
  induction pieces with
  | nil => exact absurd h List.not_mem_nil
  | cons first more ih =>
    by_cases hnil : more = []
    · subst hnil
      rw [join_singleton, ← List.mem_singleton.mp h]
      exact hc
    · rw [join_cons hnil, List.mem_append]
      rcases List.mem_cons.mp h with rfl | h
      · exact .inl (List.mem_append_left _ hc)
      · exact .inr (ih h)

theorem mem_of_mem_splitOn {piece : Text} {c : Char} (h : piece ∈ splitOn mark t) (hc : c ∈ piece) :
    c ∈ t := by
  rw [← join_splitOn mark t]
  exact mem_join_of_mem h hc

/-- Pieces that were joined with a mark are found again. -/
theorem splitOn_join {pieces : List Text} (hne : pieces ≠ []) (h : ∀ piece ∈ pieces, mark ∉ piece) :
    splitOn mark (join [mark] pieces) = pieces := by
  induction pieces with
  | nil => exact absurd rfl hne
  | cons piece pieces ih =>
    obtain ⟨hpiece, hrest⟩ := List.forall_mem_cons.mp h
    by_cases hnil : pieces = []
    · rw [hnil, join_singleton, splitOn_of_not_mem hpiece]
    · calc
        splitOn mark (join [mark] (piece :: pieces)) =
            splitOn mark (piece ++ mark :: join [mark] pieces) := by
          rw [join_cons hnil, List.append_assoc, List.singleton_append]
        _ = piece :: pieces := by
          rw [splitOn_append_mark, splitOn_of_not_mem hpiece, ih hnil hrest]
          rfl

theorem mem_of_mem_dropFinalReturn {c : Char} {line : Text} (h : c ∈ dropFinalReturn line) :
    c ∈ line :=
  (dropFinalReturn_isPrefix line).subset h

theorem mem_of_mem_lines {c : Char} {line : Text} (h : line ∈ lines t) (hc : c ∈ line) : c ∈ t := by
  induction t using lines_induction with
  | last whole hwhole =>
    rw [lines_of_not_mem hwhole, List.mem_singleton] at h
    exact h ▸ hc
  | feed first rest hfirst ih =>
    rw [lines_append_feed hfirst, List.mem_cons] at h
    rcases h with rfl | h
    · exact List.mem_append_left _ (mem_of_mem_dropFinalReturn hc)
    · exact List.mem_append_right _ (List.mem_cons_of_mem _ (ih h))

/-- A line feed in front of each line, instead of between two lines. -/
theorem feed_cons_join {ls : List Text} (h : ls ≠ []) :
    '\n' :: join ['\n'] ls = ls.flatMap ('\n' :: ·) := by
  induction ls with
  | nil => exact absurd rfl h
  | cons line ls ih =>
    by_cases hnil : ls = []
    · simp [hnil, join_singleton]
    · rw [join_cons hnil, List.flatMap_cons, ← ih hnil]
      simp

/-! ## Trimmed lines -/

theorem trim_sublist (p : Char → Bool) (t : Text) : (trim p t).Sublist t := by
  obtain ⟨front, tail, ht, -, -⟩ := exists_trim p t
  conv_rhs => rw [ht]
  exact (List.sublist_append_right front _).trans (List.sublist_append_left _ tail)

theorem strip_cons_of_isBlank {c : Char} (h : isBlank c = true) (t : Text) :
    strip (c :: t) = strip t := by
  rw [strip, trim, List.dropWhile_cons_of_pos h]
  rfl

/-- Blanks at the end are trimmed away. -/
theorem strip_append_of_isBlank (h : ∀ c ∈ tail, isBlank c = true) (t : Text) :
    strip (t ++ tail) = strip t := by
  obtain ⟨front, rest, ht, hfront, hrest⟩ := exists_trim isBlank t
  have hback : ∀ c ∈ rest ++ tail, isBlank c = true := fun c hc ↦
    (List.mem_append.mp hc).elim (hrest c) (h c)
  conv_lhs => rw [ht, List.append_assoc]
  exact trim_append hfront hback (isTrimmed_trim isBlank t)

theorem isTrimmed_strip (t : Text) : IsTrimmed isBlank (strip t) := isTrimmed_trim isBlank t

theorem strip_strip (t : Text) : strip (strip t) = strip t :=
  trim_eq_self (isTrimmed_trim isBlank t)

theorem strip_dropFinalReturn (line : Text) : strip (dropFinalReturn line) = strip line := by
  rcases dropFinalReturn_cases line with h | h
  · rw [h]
  · conv_rhs => rw [h, strip_append_of_isBlank (List.forall_mem_singleton.mpr (by decide))]

/-- Blanks in front are trimmed away. -/
theorem strip_append_left_of_isBlank (h : ∀ c ∈ front, isBlank c = true) (t : Text) :
    strip (front ++ t) = strip t := by
  rw [strip, trim, List.dropWhile_append_of_pos h]
  rfl

/-- The first character that is not blank comes first. -/
theorem head_strip_append {c : Char} (hfront : ∀ c ∈ front, isBlank c = true)
    (hc : isBlank c = false) (t : Text) : (strip (front ++ c :: t)).head? = some c := by
  have hsplit := dropEndWhile_append_takeEndWhile isBlank (c :: t)
  have hne : dropEndWhile isBlank (c :: t) ≠ [] := by
    rw [Ne, dropEndWhile_eq_nil_iff]
    intro hall
    rw [hall c List.mem_cons_self] at hc
    exact Bool.noConfusion hc
  calc
    (strip (front ++ c :: t)).head? = (dropEndWhile isBlank (c :: t)).head? := by
      rw [strip_append_left_of_isBlank hfront, strip, trim,
        List.dropWhile_cons_of_neg (by simp [hc])]
    _ = (dropEndWhile isBlank (c :: t) ++ takeEndWhile isBlank (c :: t)).head? :=
      (List.head?_append_of_ne_nil _ hne).symm
    _ = some c := by
      rw [hsplit]
      rfl

/-- The two ways of cutting into lines differ in carriage returns, which are blank. -/
theorem map_strip_lines (t : Text) : (lines t).map strip = (splitOn '\n' t).map strip := by
  induction t using lines_induction with
  | last line h => rw [lines_of_not_mem h, splitOn_of_not_mem h]
  | feed line rest h ih =>
    calc
      (lines (line ++ '\n' :: rest)).map strip =
          strip (dropFinalReturn line) :: (lines rest).map strip := by
        rw [lines_append_feed h, List.map_cons]
      _ = strip line :: (splitOn '\n' rest).map strip := by
        rw [strip_dropFinalReturn, ih]
      _ = (splitOn '\n' (line ++ '\n' :: rest)).map strip := by
        rw [splitOn_append_mark, splitOn_of_not_mem h, List.singleton_append, List.map_cons]

/-- Blanks in front of a text add empty lines only. -/
theorem map_strip_splitOn_append_left (h : ∀ c ∈ front, isBlank c = true) (t : Text) :
    (splitOn '\n' (front ++ t)).map strip =
      List.replicate (front.count '\n') [] ++ (splitOn '\n' t).map strip := by
  induction front with
  | nil => rfl
  | cons c front ih =>
    obtain ⟨hc, hfront⟩ := List.forall_mem_cons.mp h
    rw [List.cons_append, splitOn]
    split_ifs with hfeed
    · rw [hfeed, List.count_cons_self, List.map_cons, ih hfront]
      rfl
    · obtain ⟨first, more, hpieces⟩ :=
        List.exists_cons_of_ne_nil (splitOn_ne_nil '\n' (front ++ t))
      rw [List.count_cons_of_ne hfeed, ← ih hfront, hpieces]
      simp only [consFirst, List.map_cons, strip_cons_of_isBlank hc]

/-- Blanks behind a text add empty lines only. -/
theorem map_strip_splitOn_append_right (h : ∀ c ∈ tail, isBlank c = true) (t : Text) :
    (splitOn '\n' (t ++ tail)).map strip =
      (splitOn '\n' t).map strip ++ List.replicate (tail.count '\n') [] := by
  induction t using lines_induction with
  | last line hline =>
    obtain ⟨first, more, hpieces⟩ := List.exists_cons_of_ne_nil (splitOn_ne_nil '\n' tail)
    have hblank := map_strip_splitOn_append_left h []
    rw [List.append_nil, hpieces, splitOn, List.map_singleton, List.map_cons,
      show strip [] = [] from rfl, ← List.replicate_succ', List.replicate_succ] at hblank
    obtain ⟨-, hmore⟩ := List.cons.inj hblank
    have hfirst : ∀ c ∈ first, isBlank c = true := fun c hc ↦
      h c (mem_of_mem_splitOn (hpieces ▸ List.mem_cons_self) hc)
    rw [splitOn_append_of_not_mem hline hpieces, splitOn_of_not_mem hline, List.map_cons, hmore,
      strip_append_of_isBlank hfirst]
    rfl
  | feed line rest hline ih =>
    have hpieces (t : Text) : (splitOn '\n' (line ++ '\n' :: t)).map strip =
        (splitOn '\n' line).map strip ++ (splitOn '\n' t).map strip := by
      rw [splitOn_append_mark, List.map_append]
    calc
      (splitOn '\n' (line ++ '\n' :: rest ++ tail)).map strip =
          (splitOn '\n' line).map strip ++ (splitOn '\n' (rest ++ tail)).map strip := by
        rw [List.append_assoc, List.cons_append, hpieces]
      _ = (splitOn '\n' line).map strip ++ (splitOn '\n' rest).map strip ++
            List.replicate (tail.count '\n') [] := by
        rw [ih, List.append_assoc]
      _ = (splitOn '\n' (line ++ '\n' :: rest)).map strip ++
            List.replicate (tail.count '\n') [] := by
        rw [hpieces]

theorem join_replicate_append (n : Nat) {ls : List Text} (h : ls ≠ []) :
    join ['\n'] (List.replicate n [] ++ ls) = List.replicate n '\n' ++ join ['\n'] ls := by
  induction n with
  | zero => rfl
  | succ n ih =>
    rw [List.replicate_succ, List.cons_append, join_cons (by simp [h]), ih]
    rfl

theorem join_append_replicate (n : Nat) {ls : List Text} (h : ls ≠ []) :
    join ['\n'] (ls ++ List.replicate n []) = join ['\n'] ls ++ List.replicate n '\n' := by
  induction ls with
  | nil => exact absurd rfl h
  | cons line ls ih =>
    by_cases hnil : ls = []
    · subst hnil
      cases n with
      | zero => simp [join_singleton]
      | succ n =>
        have hblank := join_replicate_append n (List.cons_ne_nil ([] : Text) [])
        calc
          join ['\n'] ([line] ++ List.replicate (n + 1) []) =
              line ++ ['\n'] ++ join ['\n'] (List.replicate n [] ++ [[]]) := by
            rw [List.singleton_append, join_cons (by simp), List.replicate_succ']
          _ = line ++ ['\n'] ++ List.replicate n '\n' := by
            rw [hblank, join_singleton, List.append_nil]
          _ = join ['\n'] [line] ++ List.replicate (n + 1) '\n' := by
            rw [join_singleton, List.append_assoc, List.singleton_append, List.replicate_succ]
    · rw [List.cons_append, join_cons (by simp [hnil]), join_cons hnil, ih hnil]
      simp only [List.append_assoc]

/-- Blank lines before and after other lines are trimmed away. -/
theorem strip_join_padded (before after : Nat) {ls : List Text} (h : ls ≠ []) :
    strip (join ['\n'] (List.replicate before [] ++ ls ++ List.replicate after [])) =
      strip (join ['\n'] ls) := by
  have hfeeds (n : Nat) : ∀ c ∈ List.replicate n '\n', isBlank c = true := fun c hc ↦
    List.eq_of_mem_replicate hc ▸ by decide
  rw [join_append_replicate _ (by simp [h]), join_replicate_append _ h,
    strip_append_of_isBlank (hfeeds after), strip_append_left_of_isBlank (hfeeds before)]

/-- Trimming every line only deletes characters. -/
theorem join_map_strip_sublist (ls : List Text) :
    (join ['\n'] (ls.map strip)).Sublist (join ['\n'] ls) := by
  induction ls with
  | nil => exact List.Sublist.refl _
  | cons line ls ih =>
    by_cases hnil : ls = []
    · rw [hnil, List.map_singleton, join_singleton, join_singleton]
      exact trim_sublist isBlank line
    · rw [List.map_cons, join_cons (by simpa using hnil), join_cons hnil]
      exact ((trim_sublist isBlank line).append (List.Sublist.refl _)).append ih

/-- Around the lines of a text that is trimmed stand as many blank lines as it has line feeds
around it. -/
theorem exists_map_strip_splitOn (t : Text) : ∃ before after : Nat,
    (splitOn '\n' t).map strip =
      List.replicate before [] ++ (splitOn '\n' (strip t)).map strip ++
        List.replicate after [] := by
  obtain ⟨front, tail, ht, hfront, htail⟩ := exists_trim isBlank t
  refine ⟨front.count '\n', tail.count '\n', ?_⟩
  conv_lhs => rw [ht, List.append_assoc]
  rw [map_strip_splitOn_append_left hfront, map_strip_splitOn_append_right htail, List.append_assoc]
  rfl

end PluginReadme.Text
