import Mathlib.Data.List.DropRight
import PluginReadme.Text.Blank

/-!
# Trimmed texts

Trimming cuts a text into matching characters, a trimmed text, and matching characters again
(`exists_trim`). The middle part is determined by that (`trim_append`), so a trimmed text stays as
it is. What follows a text that is not blank does not change what is dropped at its front.
-/

namespace PluginReadme.Text

variable {p : Char → Bool} {t : Text}

/-! ## One end -/

theorem dropEndWhile_append_takeEndWhile (p : Char → Bool) (t : Text) :
    dropEndWhile p t ++ takeEndWhile p t = t :=
  List.rdropWhile_append_rtakeWhile

theorem forall_mem_takeWhile (p : Char → Bool) (t : Text) : ∀ c ∈ t.takeWhile p, p c = true :=
  List.all_eq_true.mp List.all_takeWhile

theorem forall_mem_takeEndWhile (p : Char → Bool) (t : Text) :
    ∀ c ∈ takeEndWhile p t, p c = true :=
  fun _ ↦ List.mem_rtakeWhile_imp

theorem head_dropWhile (p : Char → Bool) (t : Text) : ∀ c ∈ (t.dropWhile p).head?, p c = false := by
  intro c hc
  have h := List.head?_dropWhile_not p t
  rw [Option.mem_def.mp hc] at h
  exact h

theorem last_dropEndWhile (p : Char → Bool) (t : Text) :
    ∀ c ∈ (dropEndWhile p t).getLast?, p c = false := by
  intro c hc
  rw [dropEndWhile, List.getLast?_reverse] at hc
  exact head_dropWhile p t.reverse c hc

theorem dropWhile_eq_self (h : ∀ c ∈ t.head?, p c = false) : t.dropWhile p = t := by
  cases t with
  | nil => rfl
  | cons c rest =>
    have hc : p c = false := h c rfl
    rw [List.dropWhile_cons_of_neg (by simp [hc])]

theorem dropEndWhile_eq_self (h : ∀ c ∈ t.getLast?, p c = false) : dropEndWhile p t = t := by
  rw [dropEndWhile, dropWhile_eq_self, List.reverse_reverse]
  intro c hc
  exact h c (by rwa [List.head?_reverse] at hc)

theorem dropEndWhile_append_of_all {tail : Text} (h : ∀ c ∈ tail, p c = true) :
    dropEndWhile p (t ++ tail) = dropEndWhile p t := by
  rw [dropEndWhile, List.reverse_append, List.dropWhile_append_of_pos]
  · rfl
  · intro c hc
    exact h c (List.mem_reverse.mp hc)

theorem dropEndWhile_eq_nil_iff : dropEndWhile p t = [] ↔ ∀ c ∈ t, p c = true :=
  List.rdropWhile_eq_nil_iff

theorem dropWhile_append_of_exists (tail : Text) (h : ∃ c ∈ t, p c = false) :
    (t ++ tail).dropWhile p = t.dropWhile p ++ tail := by
  have hne : t.dropWhile p ≠ [] := by
    obtain ⟨c, hc, hpc⟩ := h
    rw [Ne, List.dropWhile_eq_nil_iff]
    intro hall
    rw [hall c hc] at hpc
    exact Bool.noConfusion hpc
  rw [List.dropWhile_append, if_neg (by simpa using hne)]

theorem takeEndWhile_append_of_exists (front : Text) (h : ∃ c ∈ t, p c = false) :
    takeEndWhile p (front ++ t) = takeEndWhile p t := by
  have hne : (t.reverse.takeWhile p).length ≠ t.reverse.length := by
    obtain ⟨c, hc, hpc⟩ := h
    intro hlength
    have hwhole := (List.takeWhile_prefix p).eq_of_length hlength
    have hall := forall_mem_takeWhile p t.reverse c (by rw [hwhole]; exact List.mem_reverse.mpr hc)
    rw [hpc] at hall
    exact Bool.noConfusion hall
  rw [takeEndWhile, takeEndWhile, List.reverse_append, List.takeWhile_append, if_neg hne]

/-! ## Both ends -/

/-- No matching character stands at either end. -/
structure IsTrimmed (p : Char → Bool) (t : Text) : Prop where
  head : ∀ c ∈ t.head?, p c = false
  last : ∀ c ∈ t.getLast?, p c = false

/-- What was trimmed is trimmed. -/
theorem isTrimmed_trim (p : Char → Bool) (t : Text) : IsTrimmed p (trim p t) where
  head := by
    intro c hc
    have hsplit := dropEndWhile_append_takeEndWhile p (t.dropWhile p)
    apply head_dropWhile p t
    rw [← hsplit, List.head?_append]
    exact Option.mem_def.mpr (by rw [← trim, Option.mem_def.mp hc, Option.some_or])
  last := last_dropEndWhile p _

/-- Only matching characters are dropped. -/
theorem exists_trim (p : Char → Bool) (t : Text) :
    ∃ front tail : Text, t = front ++ trim p t ++ tail ∧ (∀ c ∈ front, p c = true) ∧
      ∀ c ∈ tail, p c = true := by
  refine ⟨t.takeWhile p, takeEndWhile p (t.dropWhile p), ?_, forall_mem_takeWhile p t,
    forall_mem_takeEndWhile p _⟩
  rw [trim, List.append_assoc, dropEndWhile_append_takeEndWhile, List.takeWhile_append_dropWhile]

/-- Trimming takes off what matches around a trimmed text. -/
theorem trim_append {front tail : Text} (hfront : ∀ c ∈ front, p c = true)
    (htail : ∀ c ∈ tail, p c = true) (h : IsTrimmed p t) : trim p (front ++ t ++ tail) = t := by
  rw [trim, List.append_assoc, List.dropWhile_append_of_pos hfront]
  cases t with
  | nil =>
    rw [List.nil_append, List.dropWhile_eq_nil_iff.mpr htail]
    rfl
  | cons c rest =>
    rw [dropWhile_eq_self (by simpa using h.head), dropEndWhile_append_of_all htail,
      dropEndWhile_eq_self h.last]

theorem trim_eq_self (h : IsTrimmed p t) : trim p t = t := by
  have hempty : ∀ c ∈ ([] : Text), p c = true := by simp
  simpa using trim_append hempty hempty h

theorem trim_eq_nil_iff : trim p t = [] ↔ ∀ c ∈ t, p c = true := by
  rw [trim, dropEndWhile_eq_nil_iff]
  constructor
  · intro h c hc
    rw [← List.takeWhile_append_dropWhile (p := p) (l := t), List.mem_append] at hc
    exact hc.elim (forall_mem_takeWhile p t c) (h c)
  · intro h c hc
    exact h c ((List.dropWhile_suffix p).subset hc)

theorem mem_of_mem_trim {c : Char} (h : c ∈ trim p t) : c ∈ t := by
  obtain ⟨front, tail, ht, -, -⟩ := exists_trim p t
  rw [ht]
  exact List.mem_append_left _ (List.mem_append_right _ h)

/-! ## Prefixes -/

/-- A beginning none of whose characters follows the text is found in the text itself. -/
theorem startsWith_append {start : Text} (tail : Text) (h : ∀ c ∈ start, c ∉ tail) :
    startsWith start (t ++ tail) = startsWith start t := by
  induction start generalizing t with
  | nil => rfl
  | cons c start ih =>
    cases t with
    | nil =>
      cases tail with
      | nil => rfl
      | cons d tail =>
        have hcd : c ≠ d := fun heq ↦ h c List.mem_cons_self (heq ▸ List.mem_cons_self)
        simp [startsWith, List.isPrefixOf, hcd]
    | cons d rest =>
      have hrest := ih (t := rest) fun e he ↦ h e (List.mem_cons_of_mem c he)
      simp only [startsWith] at hrest
      simp only [startsWith, List.cons_append, List.isPrefixOf, hrest]

/-! ## Runs of blanks -/

theorem mem_of_mem_collapseFrom {least : Nat} {run : Text} {c : Char}
    (h : c ∈ collapseFrom least run t) : c ∈ run ∨ c ∈ t ∨ c = ' ' := by
  induction t generalizing run with
  | nil =>
    rw [collapseFrom] at h
    split at h <;> simp_all
  | cons d rest ih =>
    have hrest : c ∈ collapseFrom least [] rest → c ∈ rest ∨ c = ' ' := fun hmem ↦
      (ih hmem).resolve_left (List.not_mem_nil)
    rw [collapseFrom] at h
    split_ifs at h
    · rcases ih h with hrun | hmem
      · rcases List.mem_cons.mp hrun with rfl | hrun
        · exact Or.inr (Or.inl List.mem_cons_self)
        · exact Or.inl hrun
      · exact Or.inr (hmem.imp (List.mem_cons_of_mem d) id)
    all_goals
      simp only [List.mem_cons, List.mem_append, List.mem_reverse] at h ⊢
      tauto

/-- A character that is not blank stays the last one. -/
theorem getLast_collapseFrom {least : Nat} (hleast : 0 < least) (run : Text) (hne : t ≠ [])
    (h : ∀ c ∈ t.getLast?, isBlank c = false) :
    (collapseFrom least run t).getLast? = t.getLast? := by
  induction t generalizing run with
  | nil => exact absurd rfl hne
  | cons c rest ih =>
    by_cases hrest : rest = []
    · subst hrest
      have hc : isBlank c = false := h c rfl
      have hend : collapseFrom least [] [] = [] := by simp [collapseFrom, Nat.ne_of_gt hleast]
      rw [collapseFrom, hc, hend]
      split_ifs <;> simp_all
    · rw [List.getLast?_cons_of_ne_nil hrest] at h ⊢
      have hnext (front : Text) :
          (front ++ collapseFrom least [] rest).getLast? = rest.getLast? := by
        rw [List.getLast?_append, ih [] hrest h, List.getLast?_eq_some_getLast hrest]
        rfl
      rw [collapseFrom]
      split_ifs
      · exact ih _ hrest h
      · exact hnext [c]
      · exact hnext [' ', c]
      · rw [List.append_cons]
        exact hnext _

/-- A trimmed text stays so when its blanks are collapsed. -/
theorem IsTrimmed.collapseRuns (h : IsTrimmed isBlank t) (hne : t ≠ []) :
    IsTrimmed isBlank (collapseRuns t) ∧ collapseRuns t ≠ [] := by
  obtain ⟨c, rest, rfl⟩ := List.exists_cons_of_ne_nil hne
  have hc : isBlank c = false := h.head c rfl
  have hcons : Text.collapseRuns (c :: rest) = c :: collapseFrom 2 [] rest := by
    rw [Text.collapseRuns, collapseFrom, hc]
    rfl
  have hlast : (Text.collapseRuns (c :: rest)).getLast? = (c :: rest).getLast? :=
    getLast_collapseFrom (by omega) [] hne h.last
  refine ⟨⟨?_, ?_⟩, ?_⟩
  · rw [hcons]
    exact h.head
  · rw [hlast]
    exact h.last
  · rw [hcons]
    exact List.cons_ne_nil c _

end PluginReadme.Text
