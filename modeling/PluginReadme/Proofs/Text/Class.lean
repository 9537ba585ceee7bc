import Mathlib.Data.List.Basic
import PluginReadme.Text.Blank
import PluginReadme.Text.Case
import PluginReadme.Text.Class

/-!
# Blanks, word characters and case

The blanks are finitely many (`toNat_mem_blankCodes`), which settles what else a blank can be: it
belongs to no word. The characters that count as ASCII letters without regard to case are the
letters themselves and four more (`foldCase_cases`), all of them word characters. A beginning is
there without regard to case exactly if the text starts with characters that count as its letters
(`afterFolded?_eq_some_iff`).
-/

namespace PluginReadme

variable {c : Char} {t rest start : Text}

/-! ## Blanks -/

def blankCodes : List Nat :=
  [0x09, 0x0A, 0x0B, 0x0C, 0x0D, 0x1C, 0x1D, 0x1E, 0x1F, 0x20, 0x85, 0xA0, 0x1680, 0x2000, 0x2001,
    0x2002, 0x2003, 0x2004, 0x2005, 0x2006, 0x2007, 0x2008, 0x2009, 0x200A, 0x2028, 0x2029, 0x202F,
    0x205F, 0x3000]

theorem toNat_mem_blankCodes (h : isBlank c = true) : c.toNat ∈ blankCodes := by
  simp only [isBlank, Bool.or_eq_true, Bool.and_eq_true, decide_eq_true_eq, beq_iff_eq] at h
  simp only [blankCodes, List.mem_cons, List.not_mem_nil, or_false]
  omega

/-- A property of all blanks can be looked up. -/
theorem forall_isBlank {p : Char → Bool} (h : ∀ n ∈ blankCodes, p (Char.ofNat n) = true)
    (hc : isBlank c = true) : p c = true := by
  have hp := h c.toNat (toNat_mem_blankCodes hc)
  rwa [Char.ofNat_toNat] at hp

theorem isWordChar_of_isBlank (h : isBlank c = true) : isWordChar c = false := by
  have hword : (!isWordChar c) = true :=
    forall_isBlank (p := fun c ↦ !isWordChar c) (by decide +kernel) h
  simpa using hword

theorem isBlank_of_isWordChar (h : isWordChar c = true) : isBlank c = false := by
  rw [Bool.eq_false_iff]
  intro hblank
  rw [isWordChar_of_isBlank hblank] at h
  exact Bool.noConfusion h

/-! ## Without regard to case -/

/-- The characters beyond ASCII that count as ASCII letters. -/
def foldedLetters : Text :=
  [Char.ofNat 0x130, Char.ofNat 0x131, Char.ofNat 0x17F, Char.ofNat 0x212A]

/-- Only capitals and a few letters beyond ASCII count as another letter. -/
theorem foldCase_cases (c : Char) : c.isUpper = true ∨ c ∈ foldedLetters ∨ foldCase c = c := by
  have hchar {n : Nat} (h : c.toNat = n) : c = Char.ofNat n := by
    rw [← h, Char.ofNat_toNat]
  unfold foldCase
  dsimp only
  split_ifs with hupper hdot hlong hkelvin
  · left
    rw [Bool.and_eq_true, decide_eq_true_eq, decide_eq_true_eq] at hupper
    exact decide_eq_true
      ⟨UInt32.le_iff_toNat_le.mpr hupper.1, UInt32.le_iff_toNat_le.mpr hupper.2⟩
  · right
    left
    rw [Bool.or_eq_true, beq_iff_eq, beq_iff_eq] at hdot
    rcases hdot with h | h
    · rw [hchar h]
      decide
    · rw [hchar h]
      decide
  · right
    left
    rw [hchar (beq_iff_eq.mp hlong)]
    decide
  · right
    left
    rw [hchar (beq_iff_eq.mp hkelvin)]
    decide
  · exact Or.inr (Or.inr rfl)

/-- Only a colon counts as a colon. -/
theorem foldCase_eq_colon_iff : foldCase c = ':' ↔ c = ':' := by
  constructor
  · intro h
    unfold foldCase at h
    dsimp only at h
    split_ifs at h with hupper
    · rw [Bool.and_eq_true, decide_eq_true_eq, decide_eq_true_eq] at hupper
      have hall : ∀ n < 0x5B, 0x41 ≤ n → Char.ofNat (n + 0x20) ≠ ':' := by decide
      exact absurd h (hall c.toNat (Nat.lt_succ_of_le hupper.2) hupper.1)
    · exact absurd h (by decide)
    · exact absurd h (by decide)
    · exact absurd h (by decide)
    · exact h
  · rintro rfl
    decide

theorem isWordChar_of_isAlpha (h : c.isAlpha = true) : isWordChar c = true := by
  have hascii : c.toNat < 0x80 := by
    rcases (Bool.or_eq_true _ _).mp h with hupper | hlower
    · have hbound := (of_decide_eq_true hupper).2
      exact Nat.lt_of_le_of_lt (UInt32.le_iff_toNat_le.mp hbound) (by decide)
    · have hbound := of_decide_eq_true ((Bool.and_eq_true _ _).mp hlower).2
      exact Nat.lt_of_le_of_lt (UInt32.le_iff_toNat_le.mp hbound) (by decide)
  rw [isWordChar, if_pos hascii, Char.isAlphanum, h]
  rfl

/-- A letter in any case is a word character. -/
theorem isWordChar_of_foldCase (h : (foldCase c).isLower = true) : isWordChar c = true := by
  rcases foldCase_cases c with hupper | hfolded | hsame
  · apply isWordChar_of_isAlpha
    exact (Bool.or_eq_true _ _).mpr (Or.inl hupper)
  · have hall : foldedLetters.all isWordChar = true := by decide +kernel
    exact List.all_eq_true.mp hall c hfolded
  · rw [hsame] at h
    apply isWordChar_of_isAlpha
    exact (Bool.or_eq_true _ _).mpr (Or.inr h)

/-! ## Beginnings -/

namespace Text

/-- The beginning is there, up to the case of its letters. -/
theorem exists_append_of_afterFolded? (h : afterFolded? start t = some rest) :
    ∃ front, t = front ++ rest ∧ front.map foldCase = start := by
  induction start generalizing t with
  | nil =>
    rw [afterFolded?, Option.some.injEq] at h
    exact ⟨[], h, rfl⟩
  | cons a start ih =>
    cases t with
    | nil => exact absurd h (by simp [afterFolded?])
    | cons c t =>
      rw [afterFolded?] at h
      split_ifs at h with hc
      obtain ⟨front, rfl, hfront⟩ := ih h
      exact ⟨c :: front, rfl, by rw [List.map_cons, hc, hfront]⟩

theorem afterFolded?_append (front rest : Text) :
    afterFolded? (front.map foldCase) (front ++ rest) = some rest := by
  induction front with
  | nil => rfl
  | cons c front ih => rw [List.map_cons, List.cons_append, afterFolded?, if_pos rfl, ih]

/-- A beginning is found in letters of either case. -/
theorem afterFolded?_eq_some_iff :
    afterFolded? start t = some rest ↔ ∃ front, t = front ++ rest ∧ front.map foldCase = start := by
  refine ⟨exists_append_of_afterFolded?, ?_⟩
  rintro ⟨front, rfl, rfl⟩
  exact afterFolded?_append front rest

end Text

end PluginReadme
