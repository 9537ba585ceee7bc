import PluginReadme.Markup.Escape
import PluginReadme.Proofs.Text.Cut
import PluginReadme.Proofs.Text.Scan

/-!
# What escaping keeps

Escaping writes the five characters as entities and everything else as it is. It can be undone
(`escape_injective`), keeps the number of every character that no entity is written with
(`count_escape`), and puts no blank at either end (`isTrimmed_escape`). Where only tags outside of
code are escaped, the same characters keep their number (`count_escapeLine`).
-/

namespace PluginReadme.Markup

variable {c : Char} {t : Text}

theorem escape_cons (c : Char) (t : Text) : escape (c :: t) = escapedChar c ++ escape t := rfl

theorem escape_append (front tail : Text) : escape (front ++ tail) = escape front ++ escape tail :=
  List.flatMap_append

/-- The characters that are escaped, and those that their entities are written with. -/
def entityChars : Text := "<>\"'&amplgtquo#39;"

/-- A character stays as it is, or becomes an entity that begins with an ampersand. -/
theorem escapedChar_cases (c : Char) : escapedChar c = [c] ∧ c ≠ '&' ∨
    c ∈ entityChars ∧ ∃ name : Text, escapedChar c = '&' :: name ++ [';'] ∧ name ⊆ entityChars := by
  unfold escapedChar
  split_ifs with hand hless hgreater hdouble hsingle
  · exact .inr ⟨eq_of_beq hand ▸ by decide, "amp".toList, rfl, by decide⟩
  · exact .inr ⟨eq_of_beq hless ▸ by decide, "lt".toList, rfl, by decide⟩
  · exact .inr ⟨eq_of_beq hgreater ▸ by decide, "gt".toList, rfl, by decide⟩
  · exact .inr ⟨eq_of_beq hdouble ▸ by decide, "quot".toList, rfl, by decide⟩
  · exact .inr ⟨eq_of_beq hsingle ▸ by decide, "#39".toList, rfl, by decide⟩
  · exact .inl ⟨rfl, by simpa using hand⟩

theorem escapedChar_of_not_mem (h : c ∉ entityChars) : escapedChar c = [c] := by
  rcases escapedChar_cases c with ⟨heq, -⟩ | ⟨hc, -⟩
  · exact heq
  · exact absurd hc h

theorem head_escape_iff (h : c ∉ entityChars) : (escape t).head? = some c ↔ t.head? = some c := by
  cases t with
  | nil => rfl
  | cons d rest =>
    rcases escapedChar_cases d with ⟨heq, -⟩ | ⟨hd, name, heq, -⟩
    · rw [escape_cons, heq]
      rfl
    · have hand : '&' ≠ c := fun heq ↦ h (heq ▸ by decide)
      have hne : d ≠ c := fun heq ↦ h (heq ▸ hd)
      simp [escape_cons, heq, hand, hne]

/-- No bracket is left by itself. -/
theorem brackets_not_mem_escape (t : Text) : '<' ∉ escape t ∧ '>' ∉ escape t := by
  have hchar (c : Char) : '<' ∉ escapedChar c ∧ '>' ∉ escapedChar c := by
    unfold escapedChar
    split_ifs with hand hless hgreater
    all_goals first | decide | skip
    exact ⟨fun hmem ↦ hless (beq_iff_eq.mpr (List.mem_singleton.mp hmem).symm),
      fun hmem ↦ hgreater (beq_iff_eq.mpr (List.mem_singleton.mp hmem).symm)⟩
  constructor
  all_goals
    intro hmem
    obtain ⟨c, -, hc⟩ := List.mem_flatMap.mp hmem
  · exact (hchar c).1 hc
  · exact (hchar c).2 hc

/-! ## Counting -/

theorem count_escapedChar (h : c ∉ entityChars) (d : Char) :
    (escapedChar d).count c = [d].count c := by
  rcases escapedChar_cases d with ⟨heq, -⟩ | ⟨hd, name, heq, hname⟩
  · rw [heq]
  · have hentity : c ∉ '&' :: name ++ [';'] := by
      intro hmem
      rcases List.mem_append.mp hmem with hmem | hmem
      · rcases List.mem_cons.mp hmem with rfl | hmem
        · exact h (by decide)
        · exact h (hname hmem)
      · exact h (List.mem_singleton.mp hmem ▸ by decide)
    have hself : c ∉ [d] := fun hmem ↦ h (List.mem_singleton.mp hmem ▸ hd)
    rw [heq, List.count_eq_zero.mpr hentity, List.count_eq_zero.mpr hself]

/-- Escaping keeps every character that no entity is written with. -/
theorem count_escape (h : c ∉ entityChars) (t : Text) : (escape t).count c = t.count c := by
  induction t with
  | nil => rfl
  | cons d rest ih =>
    have hcons : (d :: rest).count c = [d].count c + rest.count c :=
      @List.count_append _ _ c [d] rest
    rw [escape_cons, List.count_append, count_escapedChar h, ih, hcons]

theorem mem_escape_iff (h : c ∉ entityChars) : c ∈ escape t ↔ c ∈ t := by
  rw [← List.count_pos_iff, count_escape h, List.count_pos_iff]

/-! ## Undoing -/

/-- From an escaped text its first character can be told. -/
theorem escapedChar_append_inj {d : Char} {front tail : Text}
    (h : escapedChar c ++ front = escapedChar d ++ tail) : c = d ∧ front = tail := by
  unfold escapedChar at h
  split_ifs at h <;> simp_all <;> exact absurd h.1.symm (by assumption)

theorem escapedChar_ne_nil (c : Char) : escapedChar c ≠ [] := by
  rcases escapedChar_cases c with ⟨heq, -⟩ | ⟨-, name, heq, -⟩ <;> simp [heq]

theorem escape_eq_nil_iff : escape t = [] ↔ t = [] := by
  cases t with
  | nil => rfl
  | cons c rest => simp [escape_cons, escapedChar_ne_nil]

/-- Different texts are escaped differently. -/
theorem escape_injective : Function.Injective escape := by
  intro s t h
  induction s generalizing t with
  | nil => exact (escape_eq_nil_iff.mp h.symm).symm
  | cons c s ih =>
    cases t with
    | nil => exact escape_eq_nil_iff.mp h
    | cons d t =>
      obtain ⟨rfl, hrest⟩ := escapedChar_append_inj h
      rw [ih hrest]

/-! ## Blanks -/

theorem isBlank_ampersand : isBlank '&' = false := by decide

theorem isBlank_semicolon : isBlank ';' = false := by decide

/-- Escaping puts no blank at either end. -/
theorem isTrimmed_escape (h : Text.IsTrimmed isBlank t) : Text.IsTrimmed isBlank (escape t) where
  head := by
    cases t with
    | nil => exact h.head
    | cons c rest =>
      have hc : isBlank c = false := h.head c rfl
      rcases escapedChar_cases c with ⟨heq, -⟩ | ⟨-, name, heq, -⟩
      · rw [escape_cons, heq]
        simpa using hc
      · rw [escape_cons, heq]
        simpa using isBlank_ampersand
  last := by
    rcases List.eq_nil_or_concat' t with rfl | ⟨front, c, rfl⟩
    · exact h.last
    · have hc : isBlank c = false := h.last c (by simp)
      rw [escape_append, escape_cons]
      rcases escapedChar_cases c with ⟨heq, -⟩ | ⟨-, name, heq, -⟩
      · rw [heq]
        simpa [escape] using hc
      · have hend : escape front ++ ('&' :: name ++ [';'] ++ escape []) =
            escape front ++ '&' :: name ++ [';'] := by simp [escape]
        rw [heq, hend, List.getLast?_concat]
        exact fun d hd ↦ Option.some.inj hd ▸ isBlank_semicolon

/-! ## Lines -/

/-- Escaping works line by line. -/
theorem escape_join (ls : List Text) :
    escape (Text.join ['\n'] ls) = Text.join ['\n'] (ls.map escape) := by
  induction ls with
  | nil => rfl
  | cons line ls ih =>
    by_cases hnil : ls = []
    · rw [hnil, List.map_singleton, Text.join_singleton, Text.join_singleton]
    · calc
        escape (Text.join ['\n'] (line :: ls)) =
            escape line ++ ['\n'] ++ escape (Text.join ['\n'] ls) := by
          rw [Text.join_cons hnil, escape_append, escape_append]
          rfl
        _ = escape line ++ ['\n'] ++ Text.join ['\n'] (ls.map escape) := by rw [ih]
        _ = Text.join ['\n'] ((line :: ls).map escape) := by
          rw [List.map_cons, Text.join_cons (by simpa using hnil)]

/-! ## Tags -/

theorem rawTag_eq_some {before : Option Char} {tag : Text} {extra : Nat}
    (h : rawTag before t = some (tag, extra)) : tag = t.take (extra + 1) := by
  unfold rawTag at h
  split at h
  · obtain ⟨length, -, heq⟩ := Option.map_eq_some_iff.mp h
    obtain ⟨rfl, rfl⟩ := Prod.mk.inj heq
    rfl
  · obtain ⟨length, -, heq⟩ := Option.map_eq_some_iff.mp h
    obtain ⟨rfl, rfl⟩ := Prod.mk.inj heq
    rfl
  · exact absurd h (by simp)

/-- Escaping tags keeps every character that no entity is written with. -/
theorem count_escapeTags (h : c ∉ entityChars) (t : Text) : (escapeTags t).count c = t.count c :=
  Scan.count_substitute (fun _ _ _ _ htag ↦ by rw [count_escape h, rawTag_eq_some htag]) t

theorem codeSpan_eq_some {before : Option Char} {span : Text} {extra : Nat}
    (h : codeSpan before t = some (span, extra)) : span = t.take (extra + 1) := by
  unfold codeSpan at h
  split at h
  · dsimp only at h
    split_ifs at h
    obtain ⟨rfl, rfl⟩ := Prod.mk.inj (Option.some.inj h)
    rfl
  · exact absurd h (by simp)

theorem count_escapeLine (h : c ∉ entityChars) (line : Text) :
    (escapeLine line).count c = line.count c := by
  have hkeeps : Scan.Keeps codeSpan id c := fun _ _ _ _ hspan ↦ by rw [codeSpan_eq_some hspan, id]
  rw [escapeLine, Scan.count_flatMap_stretches fun t ↦ count_escapeTags h t]
  exact Scan.count_substitute hkeeps line

theorem mem_escapeLine_iff (h : c ∉ entityChars) : c ∈ escapeLine t ↔ c ∈ t := by
  rw [← List.count_pos_iff, count_escapeLine h, List.count_pos_iff]

end PluginReadme.Markup
