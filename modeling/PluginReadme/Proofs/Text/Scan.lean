import Mathlib.Data.List.Infix
import PluginReadme.Text.Scan

/-!
# Marks in a text

A text in which no mark is read anywhere stays as it is when it is written anew
(`substitute_of_isFree`), and a text that is one mark becomes what is written for it
(`substitute_of_whole`). A recogniser that only looks ahead reads on behind a mark as if nothing
stood before it (`pieces_append_of_mark`). The offsets of a mark are those of the place where it is
read (`exists_of_mem_hits`), no two marks share a character (`pairwise_hits`), and a place where one
can be read belongs to one (`exists_hit_of_read`). If every mark is written with fewer of some
character than it takes, then that character becomes rarer unless the text is free of marks
(`isFree_or_count_lt`): a substitution that keeps the number of the character keeps the text.
-/

namespace PluginReadme.Scan

variable {α : Type} {read : Recogniser α} {write : α → Text} {front t back : Text}

/-! ## Free texts -/

/-- No mark is read at any place of the text, whatever stands before it. -/
def IsFree (read : Recogniser α) (t : Text) : Prop :=
  ∀ before tail, tail <:+ t → read before tail = none

theorem isFree_nil_iff : IsFree read [] ↔ ∀ before, read before [] = none := by
  simp [IsFree]

theorem isFree_cons_iff {c : Char} :
    IsFree read (c :: t) ↔ (∀ before, read before (c :: t) = none) ∧ IsFree read t := by
  constructor
  · intro h
    exact ⟨fun before ↦ h before _ (List.suffix_refl _),
      fun before tail htail ↦ h before tail (htail.trans (List.suffix_cons c t))⟩
  · rintro ⟨hread, hrest⟩ before tail htail
    rcases List.suffix_cons_iff.mp htail with rfl | htail
    · exact hread before
    · exact hrest before tail htail

/-- Characters that begin no mark may stand in front. -/
theorem isFree_append_left_iff
    (hfront : ∀ c ∈ front, ∀ before rest, read before (c :: rest) = none) :
    IsFree read (front ++ t) ↔ IsFree read t := by
  induction front with
  | nil => rfl
  | cons c front ih =>
    rw [List.cons_append, isFree_cons_iff, ih fun d hd ↦ hfront d (List.mem_cons_of_mem c hd)]
    exact and_iff_right fun before ↦ hfront c List.mem_cons_self before _

/-- What stands at the end makes no mark that was not there before. -/
theorem isFree_append_right (hback : IsFree read back)
    (hread : ∀ before tail, read before tail = none → read before (tail ++ back) = none)
    (h : IsFree read t) : IsFree read (t ++ back) := by
  induction t with
  | nil => exact hback
  | cons c t ih =>
    obtain ⟨hc, ht⟩ := isFree_cons_iff.mp h
    exact isFree_cons_iff.mpr ⟨fun before ↦ hread before _ (hc before), ih ht⟩

/-! ## Places of marks -/

/-- Every hit is a mark that is read at its place. -/
theorem exists_of_mem_hitsFrom {skip place : Nat} {before : Option Char} {hit : Hit α}
    (h : hit ∈ hitsFrom read skip place before t) :
    ∃ front c rest extra, t = front ++ c :: rest ∧ hit.start = place + front.length ∧
      hit.stop = hit.start + extra + 1 ∧
      read (front.getLast?.or before) (c :: rest) = some (hit.value, extra) := by
  induction t generalizing skip place before with
  | nil => exact absurd h (by cases skip <;> simp [hitsFrom])
  | cons c t ih =>
    have hlater {skip : Nat} (h : hit ∈ hitsFrom read skip (place + 1) (some c) t) :
        ∃ front d rest extra, c :: t = front ++ d :: rest ∧ hit.start = place + front.length ∧
          hit.stop = hit.start + extra + 1 ∧
          read (front.getLast?.or before) (d :: rest) = some (hit.value, extra) := by
      obtain ⟨front, d, rest, extra, rfl, hstart, hstop, hread⟩ := ih h
      refine ⟨c :: front, d, rest, extra, rfl, ?_, hstop, ?_⟩
      · rw [hstart, List.length_cons]
        omega
      · rw [List.getLast?_cons, Option.some_or]
        rwa [Option.or_some] at hread
    cases skip with
    | succ skip => exact hlater h
    | zero =>
      rw [hitsFrom] at h
      split at h
      · next value extra hread =>
        rcases List.mem_cons.mp h with rfl | h
        · exact ⟨[], c, t, extra, rfl, rfl, rfl, hread⟩
        · exact hlater h
      · exact hlater h

/-- A mark stands where it is read between the characters before it and the rest. -/
theorem exists_of_mem_hits {hit : Hit α} (h : hit ∈ hits read t) :
    ∃ front rest extra, t = front ++ rest ∧ hit.start = front.length ∧
      hit.stop = hit.start + extra + 1 ∧ read front.getLast? rest = some (hit.value, extra) := by
  obtain ⟨front, c, rest, extra, rfl, hstart, hstop, hread⟩ := exists_of_mem_hitsFrom h
  rw [Nat.zero_add] at hstart
  rw [Option.or_none] at hread
  exact ⟨front, c :: rest, extra, rfl, hstart, hstop, hread⟩

theorem le_start_of_mem_hitsFrom {skip place : Nat} {before : Option Char} {hit : Hit α}
    (h : hit ∈ hitsFrom read skip place before t) : place + skip ≤ hit.start := by
  induction t generalizing skip place before with
  | nil => exact absurd h (by cases skip <;> simp [hitsFrom])
  | cons c t ih =>
    cases skip with
    | succ skip =>
      have hlater := ih h
      omega
    | zero =>
      rw [hitsFrom] at h
      split at h
      · rcases List.mem_cons.mp h with rfl | h
        · exact Nat.le_refl place
        · have hlater := ih h
          omega
      · have hlater := ih h
        omega

/-- Marks do not overlap, and they come in the order of the text. -/
theorem pairwise_hits (read : Recogniser α) (t : Text) :
    (hits read t).Pairwise fun a b ↦ a.stop ≤ b.start := by
  have hfrom (skip place : Nat) (before : Option Char) :
      (hitsFrom read skip place before t).Pairwise fun a b ↦ a.stop ≤ b.start := by
    induction t generalizing skip place before with
    | nil => cases skip <;> exact List.Pairwise.nil
    | cons c t ih =>
      cases skip with
      | succ skip => exact ih skip (place + 1) (some c)
      | zero =>
        rw [hitsFrom]
        split
        · next extra _ =>
          refine List.Pairwise.cons (fun hit hhit ↦ ?_) (ih extra (place + 1) (some c))
          have hlater := le_start_of_mem_hitsFrom hhit
          dsimp only
          omega
        · exact ih 0 (place + 1) (some c)
  exact hfrom 0 0 none

/-- Hits do not overlap. -/
theorem stop_le_start_of_mem_hits {a b : Hit α} (ha : a ∈ hits read t) (hb : b ∈ hits read t)
    (h : a.start < b.start) : a.stop ≤ b.start := by
  obtain ⟨i, hi, rfl⟩ := List.mem_iff_getElem.mp ha
  obtain ⟨j, hj, rfl⟩ := List.mem_iff_getElem.mp hb
  have horder := List.pairwise_iff_getElem.mp (pairwise_hits read t)
  rcases Nat.lt_trichotomy i j with hlt | rfl | hgt
  · exact horder i j hi hj hlt
  · exact absurd h (Nat.lt_irrefl _)
  · have hback := horder j i hj hi hgt
    obtain ⟨-, -, extra, -, -, hstop, -⟩ := exists_of_mem_hits hb
    omega

/-- A mark that is read at a place is a hit, unless an earlier one takes its characters. -/
theorem exists_hitFrom_of_read {value : α} {skip extra : Nat} {before : Option Char} (place : Nat)
    (hne : back ≠ []) (hskip : skip ≤ front.length)
    (h : read (front.getLast?.or before) back = some (value, extra)) :
    (∃ hit ∈ hitsFrom read skip place before (front ++ back), hit.start = place + front.length ∧
      hit.stop = place + front.length + extra + 1) ∨
    ∃ hit ∈ hitsFrom read skip place before (front ++ back),
      hit.start < place + front.length ∧ place + front.length < hit.stop := by
  induction front generalizing skip place before with
  | nil =>
    obtain ⟨c, back, rfl⟩ := List.exists_cons_of_ne_nil hne
    obtain rfl : skip = 0 := Nat.le_zero.mp hskip
    rw [List.nil_append, hitsFrom, show read before (c :: back) = some (value, extra) from h]
    exact .inl ⟨_, List.mem_cons_self, rfl, rfl⟩
  | cons c front ih =>
    have hnext : place + (c :: front).length = place + 1 + front.length := by
      rw [List.length_cons]
      omega
    have hread : read (front.getLast?.or (some c)) back = some (value, extra) := by
      rwa [List.getLast?_cons, Option.some_or, ← Option.or_some] at h
    rw [hnext, List.cons_append]
    cases skip with
    | succ skip => exact ih _ (Nat.le_of_succ_le_succ hskip) hread
    | zero =>
      rw [hitsFrom]
      split
      · next found length _ =>
        by_cases hinside : length ≤ front.length
        · rcases ih _ hinside hread with ⟨hit, hhit, hplace⟩ | ⟨hit, hhit, hplace⟩
          · exact .inl ⟨hit, List.mem_cons_of_mem _ hhit, hplace⟩
          · exact .inr ⟨hit, List.mem_cons_of_mem _ hhit, hplace⟩
        · right
          refine ⟨_, List.mem_cons_self, ?_, ?_⟩
          · dsimp only
            omega
          · dsimp only
            omega
      · exact ih _ (Nat.zero_le _) hread

/-- Where a mark can be read, it is taken, unless the place belongs to a mark that begins before. -/
theorem exists_hit_of_read {value : α} {extra : Nat} (hne : back ≠ [])
    (h : read front.getLast? back = some (value, extra)) :
    (∃ hit ∈ hits read (front ++ back), hit.start = front.length ∧
      hit.stop = front.length + extra + 1) ∨
    ∃ hit ∈ hits read (front ++ back), hit.start < front.length ∧ front.length < hit.stop := by
  have hread : read (front.getLast?.or none) back = some (value, extra) := by
    rwa [Option.or_none]
  have hfrom := exists_hitFrom_of_read 0 hne (Nat.zero_le _) hread
  rwa [Nat.zero_add] at hfrom

/-! ## Substitution -/

def written (write : α → Text) : Piece α → Text
  | .plain c => [c]
  | .mark value => write value

theorem substitute_eq_flatMap (read : Recogniser α) (write : α → Text) (t : Text) :
    substitute read write t = (pieces read t).flatMap (written write) :=
  rfl

theorem flatMap_written_plain (write : α → Text) (t : Text) :
    (t.map Piece.plain).flatMap (written write) = t := by
  rw [List.flatMap_map]
  exact List.flatMap_singleton' t

theorem piecesFrom_of_isFree (h : IsFree read t) (before : Option Char) :
    piecesFrom read 0 before t = t.map Piece.plain := by
  induction t generalizing before with
  | nil => rfl
  | cons c rest ih =>
    obtain ⟨hc, hrest⟩ := isFree_cons_iff.mp h
    rw [piecesFrom, hc before]
    simp only [ih hrest, List.map_cons]

/-- A text without marks is written as it is. -/
theorem substitute_of_isFree (h : IsFree read t) : substitute read write t = t := by
  rw [substitute_eq_flatMap, pieces, piecesFrom_of_isFree h, flatMap_written_plain]

/-- The characters that belong to a mark are passed over. -/
theorem exists_piecesFrom_drop (read : Recogniser α) (skip : Nat) (before : Option Char)
    (t : Text) : ∃ last, piecesFrom read skip before t = piecesFrom read 0 last (t.drop skip) := by
  induction t generalizing skip before with
  | nil => exact ⟨before, by cases skip <;> simp [piecesFrom]⟩
  | cons c rest ih =>
    cases skip with
    | zero => exact ⟨before, rfl⟩
    | succ skip => exact ih skip (some c)

theorem pieces_of_whole {value : α} {extra : Nat} (h : read none t = some (value, extra))
    (hlength : t.length ≤ extra + 1) (hne : t ≠ []) : pieces read t = [.mark value] := by
  obtain ⟨c, rest, rfl⟩ := List.exists_cons_of_ne_nil hne
  obtain ⟨last, hlast⟩ := exists_piecesFrom_drop read extra (some c) rest
  rw [List.drop_eq_nil_of_le (by simpa using hlength)] at hlast
  rw [pieces, piecesFrom, h]
  simp only [hlast, piecesFrom]

/-- A text that is one mark is written as that mark. -/
theorem substitute_of_whole {value : α} {extra : Nat} (h : read none t = some (value, extra))
    (hlength : t.length ≤ extra + 1) (hne : t ≠ []) : substitute read write t = write value := by
  rw [substitute_eq_flatMap, pieces_of_whole h hlength hne, List.flatMap_singleton, written]

/-- Where every mark can be written, the whole text can. -/
theorem substituteE_eq_ok {ε : Type} {writeE : α → Except ε Text}
    (h : ∀ value, writeE value = .ok (write value)) (t : Text) :
    substituteE read writeE t = .ok (substitute read write t) := by
  have hparts (ps : List (Piece α)) (f : Piece α → Except ε Text)
      (hf : ∀ p, f p = .ok (written write p)) :
      ps.mapM f = .ok (ps.map (written write)) := by
    induction ps with
    | nil => rfl
    | cons p ps ih =>
      rw [List.mapM_cons, ih, hf]
      rfl
  rw [substituteE, hparts, substitute_eq_flatMap, List.flatMap_def]
  · rfl
  · rintro (c | value)
    · rfl
    · exact h value

theorem substituteE_of_isFree {ε : Type} {writeE : α → Except ε Text} (h : IsFree read t) :
    substituteE read writeE t = .ok t := by
  have hparts (s : Text) (f : Piece α → Except ε Text) (hf : ∀ c, f (.plain c) = .ok [c]) :
      (s.map Piece.plain).mapM f = .ok (s.map fun c ↦ [c]) := by
    induction s with
    | nil => rfl
    | cons c s ih =>
      rw [List.map_cons, List.mapM_cons, ih, hf]
      rfl
  rw [substituteE, pieces, piecesFrom_of_isFree h, hparts _ _ fun _ ↦ rfl]
  exact congrArg Except.ok (List.flatMap_def ▸ List.flatMap_singleton' t)

/-! ## Marks in order -/

/-- What is read depends on the text alone, not on the character before it. -/
def LooksAhead (read : Recogniser α) : Prop := ∀ before t, read before t = read none t

theorem piecesFrom_eq_pieces (hread : LooksAhead read) (before : Option Char) (t : Text) :
    piecesFrom read 0 before t = pieces read t := by
  cases t with
  | nil => rfl
  | cons c rest => rw [pieces, piecesFrom, piecesFrom, hread]

theorem pieces_cons_of_none {c : Char} (hread : LooksAhead read) (h : read none (c :: t) = none) :
    pieces read (c :: t) = .plain c :: pieces read t := by
  rw [pieces, piecesFrom, h]
  simp only [piecesFrom_eq_pieces hread]

/-- Characters that begin no mark are plain. -/
theorem pieces_append_of_forall (hread : LooksAhead read)
    (hfront : ∀ c ∈ front, ∀ rest, read none (c :: rest) = none) (t : Text) :
    pieces read (front ++ t) = front.map Piece.plain ++ pieces read t := by
  induction front with
  | nil => rfl
  | cons c front ih =>
    obtain ⟨hc, hfront⟩ := List.forall_mem_cons.mp hfront
    rw [List.cons_append, pieces_cons_of_none hread (hc _), ih hfront]
    rfl

/-- Behind a mark pieces are read anew. -/
theorem pieces_append_of_mark {mark : Text} {value : α} {extra : Nat} (hread : LooksAhead read)
    (h : read none (mark ++ t) = some (value, extra)) (hlength : mark.length = extra + 1) :
    pieces read (mark ++ t) = .mark value :: pieces read t := by
  cases mark with
  | nil => exact absurd hlength (by simp)
  | cons c mark =>
    obtain ⟨last, hlast⟩ := exists_piecesFrom_drop read extra (some c) (mark ++ t)
    rw [List.drop_left' (Nat.succ.inj hlength), piecesFrom_eq_pieces hread] at hlast
    rw [List.cons_append, pieces, piecesFrom, ← List.cons_append, h]
    simp only [hlast]

def markOf? : Piece α → Option α
  | .plain _ => none
  | .mark value => some value

def marks (read : Recogniser α) (t : Text) : List α := (pieces read t).filterMap markOf?

theorem filterMap_markOf?_plain (t : Text) :
    (t.map (Piece.plain (α := α))).filterMap markOf? = [] := by
  rw [List.filterMap_map]
  exact List.filterMap_eq_nil_iff.mpr fun _ _ ↦ rfl

theorem marks_of_isFree (h : IsFree read t) : marks read t = [] := by
  rw [marks, pieces, piecesFrom_of_isFree h, filterMap_markOf?_plain]

/-- A text without marks is free of them. -/
theorem marks_eq_nil_iff (hread : LooksAhead read) (hempty : read none [] = none) :
    marks read t = [] ↔ IsFree read t := by
  refine ⟨fun hnil ↦ ?_, marks_of_isFree⟩
  induction t with
  | nil => exact isFree_nil_iff.mpr fun before ↦ (hread before []).trans hempty
  | cons c rest ih =>
    cases h : read none (c :: rest) with
    | none =>
      rw [marks, pieces_cons_of_none hread h] at hnil
      exact isFree_cons_iff.mpr ⟨fun before ↦ (hread before _).trans h, ih hnil⟩
    | some found =>
      rw [marks, pieces, piecesFrom, h] at hnil
      exact absurd hnil (List.cons_ne_nil _ _)

theorem marks_append_of_pieces (h : pieces read (front ++ t) =
    front.map Piece.plain ++ pieces read t) : marks read (front ++ t) = marks read t := by
  rw [marks, h, List.filterMap_append, filterMap_markOf?_plain]
  rfl

/-- Behind a mark the marks of the rest are read. -/
theorem marks_append_of_mark {mark : Text} {value : α} {extra : Nat} (hread : LooksAhead read)
    (h : read none (mark ++ t) = some (value, extra)) (hlength : mark.length = extra + 1) :
    marks read (mark ++ t) = value :: marks read t := by
  rw [marks, pieces_append_of_mark hread h hlength]
  rfl

/-- Plain characters and a mark are written one after the other. -/
theorem substitute_of_pieces {rest : Text} {value : α}
    (h : pieces read t = front.map Piece.plain ++ .mark value :: pieces read rest) :
    substitute read write t = front ++ (write value ++ substitute read write rest) := by
  rw [substitute_eq_flatMap, h, List.flatMap_append, flatMap_written_plain]
  rfl

theorem marks_of_pieces {rest : Text} {value : α}
    (h : pieces read t = front.map Piece.plain ++ .mark value :: pieces read rest) :
    marks read t = value :: marks read rest := by
  rw [marks, h, List.filterMap_append, filterMap_markOf?_plain]
  rfl

/-! ## Counting -/

/-- Every mark is written with fewer of the character than it takes from the text. -/
def Spends (read : Recogniser α) (write : α → Text) (c : Char) : Prop :=
  ∀ before t value extra, read before t = some (value, extra) →
    (write value).count c < (t.take (extra + 1)).count c

/-- Unless there are no marks, writing them leaves fewer of the character. -/
theorem isFree_or_count_lt {c : Char} (hread : LooksAhead read) (hempty : read none [] = none)
    (hspends : Spends read write c) (t : Text) :
    IsFree read t ∨ (substitute read write t).count c < t.count c := by
  -- Where a mark is read, the text after it is shorter but not the tail of the text.
  have hfrom (before : Option Char) (t : Text) : IsFree read t ∨
      ((piecesFrom read 0 before t).flatMap (written write)).count c < t.count c := by
    induction hlength : t.length using Nat.strong_induction_on generalizing before t with
    | h n ih =>
      cases t with
      | nil => exact .inl (isFree_nil_iff.mpr fun before ↦ (hread before []).trans hempty)
      | cons d rest =>
        rw [List.length_cons] at hlength
        rw [piecesFrom]
        split
        · next value extra hmark =>
          right
          obtain ⟨last, hlast⟩ := exists_piecesFrom_drop read extra (some d) rest
          have hvalue := hspends before (d :: rest) value extra hmark
          have hrest : ((piecesFrom read 0 last (rest.drop extra)).flatMap
              (written write)).count c ≤ (rest.drop extra).count c := by
            rcases ih _ (by rw [List.length_drop]; omega) last (rest.drop extra) rfl with h | h
            · rw [piecesFrom_of_isFree h, flatMap_written_plain]
            · exact h.le
          have hsplit := congrArg (List.count c) (List.take_append_drop (extra + 1) (d :: rest))
          rw [List.count_append, List.drop_succ_cons] at hsplit
          rw [List.flatMap_cons, List.count_append, hlast, written]
          omega
        · next hmark =>
          have hnone (before : Option Char) : read before (d :: rest) = none := by
            rw [hread, ← hread]
            exact hmark
          rcases ih _ (by omega) (some d) rest rfl with h | h
          · exact .inl (isFree_cons_iff.mpr ⟨hnone, h⟩)
          · right
            have hsplit : (d :: rest).count c = [d].count c + rest.count c :=
              @List.count_append _ _ c [d] rest
            rw [List.flatMap_cons, List.count_append, written, hsplit]
            omega
  rw [substitute_eq_flatMap]
  exact hfrom none t

/-- Every mark is written with as many of the character as it takes from the text. -/
def Keeps (read : Recogniser α) (write : α → Text) (c : Char) : Prop :=
  ∀ before t value extra, read before t = some (value, extra) →
    (write value).count c = (t.take (extra + 1)).count c

/-- Writing marks anew keeps a character that each of them keeps. -/
theorem count_substitute {c : Char} (hkeeps : Keeps read write c) (t : Text) :
    (substitute read write t).count c = t.count c := by
  have hfrom (before : Option Char) (t : Text) :
      ((piecesFrom read 0 before t).flatMap (written write)).count c = t.count c := by
    induction hlength : t.length using Nat.strong_induction_on generalizing before t with
    | h n ih =>
      cases t with
      | nil => rfl
      | cons d rest =>
        rw [List.length_cons] at hlength
        rw [piecesFrom]
        split
        · next value extra hmark =>
          obtain ⟨last, hlast⟩ := exists_piecesFrom_drop read extra (some d) rest
          have hsplit := congrArg (List.count c) (List.take_append_drop (extra + 1) (d :: rest))
          rw [List.count_append, List.drop_succ_cons] at hsplit
          calc
            ((.mark value :: piecesFrom read extra (some d) rest).flatMap (written write)).count c =
                (write value).count c +
                  ((piecesFrom read 0 last (rest.drop extra)).flatMap (written write)).count c := by
              rw [List.flatMap_cons, List.count_append, hlast, written]
            _ = ((d :: rest).take (extra + 1)).count c + (rest.drop extra).count c := by
              rw [ih _ (by rw [List.length_drop]; omega) last (rest.drop extra) rfl,
                hkeeps before (d :: rest) value extra hmark]
            _ = (d :: rest).count c := hsplit
        · have hsplit : (d :: rest).count c = [d].count c + rest.count c :=
            @List.count_append _ _ c [d] rest
          calc
            ((.plain d :: piecesFrom read 0 (some d) rest).flatMap (written write)).count c =
                [d].count c +
                  ((piecesFrom read 0 (some d) rest).flatMap (written write)).count c := by
              rw [List.flatMap_cons, List.count_append, written]
            _ = [d].count c + rest.count c := by rw [ih _ (by omega) (some d) rest rfl]
            _ = (d :: rest).count c := hsplit.symm
  exact hfrom none t

/-! ## Stretches -/

theorem stretches_map_plain (hne : t ≠ []) :
    stretches (t.map (Piece.plain (α := α))) = [.plain t] := by
  induction t with
  | nil => exact absurd rfl hne
  | cons c t ih =>
    by_cases ht : t = []
    · rw [ht]
      rfl
    · rw [List.map_cons, stretches, ih ht]
      rfl

/-- Plain characters in front of a mark are one stretch. -/
theorem stretches_append_mark (c : Char) (front : Text) (value : α) (ps : List (Piece α)) :
    stretches ((c :: front).map Piece.plain ++ .mark value :: ps) =
      .plain (c :: front) :: .mark value :: stretches ps := by
  induction front generalizing c with
  | nil => rfl
  | cons d front ih =>
    rw [List.map_cons, List.cons_append, stretches, ih]
    rfl

theorem count_addPlain {c : Char} {render : Stretch α → Text}
    (hplain : ∀ t, (render (.plain t)).count c = t.count c) (d : Char) (ss : List (Stretch α)) :
    ((addPlain d ss).flatMap render).count c = [d].count c + (ss.flatMap render).count c := by
  have hcons (t : Text) : (render (.plain (d :: t))).count c =
      [d].count c + (render (.plain t)).count c := by
    rw [hplain, hplain, ← List.singleton_append, List.count_append]
  rcases ss with _ | ⟨t | _, ss⟩
  · rw [addPlain, List.flatMap_singleton, hplain]
    · rfl
    · simp
  · calc
      ((.plain (d :: t) :: ss).flatMap render).count c =
          [d].count c + (render (.plain t)).count c + (ss.flatMap render).count c := by
        rw [List.flatMap_cons, List.count_append, hcons]
      _ = [d].count c + ((.plain t :: ss).flatMap render).count c := by
        rw [List.flatMap_cons, List.count_append, Nat.add_assoc]
  · rw [addPlain, List.flatMap_cons, List.count_append, hplain]
    simp

/-- Stretches that keep their characters are as good as pieces. -/
theorem count_flatMap_stretches {c : Char} {render : Stretch α → Text}
    (hplain : ∀ t, (render (.plain t)).count c = t.count c) (ps : List (Piece α)) :
    ((stretches ps).flatMap render).count c =
      (ps.flatMap (written fun value ↦ render (.mark value))).count c := by
  induction ps with
  | nil => rfl
  | cons piece ps ih =>
    rw [List.flatMap_cons, List.count_append, ← ih]
    cases piece with
    | plain d => rw [stretches, count_addPlain hplain, written]
    | mark value => rw [stretches, List.flatMap_cons, List.count_append, written]

end PluginReadme.Scan
