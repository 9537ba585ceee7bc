import PluginReadme.Proofs.Terminal.Message
import PluginReadme.Proofs.Text.Cut

/-!
# Tags that close

A message can be shown if every closing tag closes one that is open (`exists_shown_iff`), which
depends on its tags alone (`closes`). A tag behind plain text is read as it is, with the backslashes
that stand before it (`marks_append_tag`). Text that is escaped holds no tag that is read, whatever
tag stands behind it (`exists_marks_escaped`): escaping finds the tags that reading would find, and
where it finds none, the first bracket of the text stays what it is (`find?_written`).
-/

namespace PluginReadme.Terminal

open Scan (marks pieces)

variable {t front inside rest : Text} {opened : List Text}

/-! ## Messages that can be shown -/

/-- Every closing tag closes one that is open. A tag after an odd number of backslashes is none. -/
def closes (opened : List Text) : List (Nat × Text) → Bool
  | [] => true
  | (slashes, inside) :: rest =>
    if slashes % 2 = 1 then closes opened rest
    else
      match openedAfter opened inside with
      | .ok opened => closes opened rest
      | .error _ => false

def tagOf? : Scan.Stretch (Nat × Text) → Option (Nat × Text)
  | .plain _ => none
  | .mark value => some value

theorem filterMap_stretches (ps : List (Piece (Nat × Text))) :
    (Scan.stretches ps).filterMap tagOf? = ps.filterMap Scan.markOf? := by
  induction ps with
  | nil => rfl
  | cons piece ps ih =>
    cases piece with
    | plain c =>
      rw [Scan.stretches, List.filterMap_cons_none rfl, ← ih]
      cases Scan.stretches ps with
      | nil => rfl
      | cons stretch more => cases stretch <;> rfl
    | mark value => exact congrArg (value :: ·) ih

theorem isOk_shownFrom_shown (opened : List Text) (t : Text) (tokens : List Token) :
    (shownFrom opened (.shown t :: tokens)).isOk = (shownFrom opened tokens).isOk := by
  rw [shownFrom]
  cases shownFrom opened tokens <;> rfl

/-- A tag can be shown exactly if it leaves some styles open, and what follows can be shown then. -/
theorem isOk_shownFrom_tag (opened : List Text) (offset : Nat) (inside : Text)
    (tokens : List Token) :
    (shownFrom opened (.tag offset inside :: tokens)).isOk =
      match openedAfter opened inside with
      | .ok opened => (shownFrom opened tokens).isOk
      | .error _ => false := by
  rw [shownFrom]
  cases openedAfter opened inside <;> rfl

/-- A message can be shown exactly if every closing tag in it closes one that is open. -/
theorem isOk_shownFrom (opened : List Text) (offset : Nat)
    (ss : List (Scan.Stretch (Nat × Text))) :
    (shownFrom opened (tokensFrom offset ss)).isOk = closes opened (ss.filterMap tagOf?) := by
  induction ss generalizing opened offset with
  | nil => rfl
  | cons stretch ss ih =>
    cases stretch with
    | plain t => rw [tokensFrom, isOk_shownFrom_shown, ih, List.filterMap_cons_none rfl]
    | mark value =>
      obtain ⟨slashes, inside⟩ := value
      change _ = closes opened ((slashes, inside) :: ss.filterMap tagOf?)
      rw [tokensFrom, tokensOfTag, List.cons_append, isOk_shownFrom_shown, closes]
      split_ifs with hodd
      · rw [List.singleton_append, isOk_shownFrom_shown, ih]
      · rw [List.singleton_append, isOk_shownFrom_tag]
        simp only [ih]

/-- A message can be shown if and only if its tags close. -/
theorem exists_shown_iff (message : Text) :
    (∃ t, shown message = .ok t) ↔ closes [] (marks tag message) = true := by
  rw [marks, ← filterMap_stretches, ← isOk_shownFrom [] 0, shown, tokens, pieces]
  cases shownFrom [] (tokensFrom 0 (Scan.stretches (Scan.piecesFrom tag 0 none message))) with
  | ok t => exact iff_of_true ⟨_, rfl⟩ rfl
  | error fault =>
    refine iff_of_false ?_ (by simp [Except.isOk, Except.toBool])
    rintro ⟨t, h⟩
    cases h

/-! ## Tags behind plain text -/

/-- What may stand between the brackets of a tag that is read. -/
structure IsInside (inside : Text) : Prop where
  start : inside.head?.any isTagStart = true
  plain : ∀ c ∈ inside, (c != '[' && c != ']') = true

instance (inside : Text) : Decidable (IsInside inside) :=
  decidable_of_iff
    (inside.head?.any isTagStart = true ∧ inside.all (fun c ↦ c != '[' && c != ']') = true)
    ⟨fun h ↦ ⟨h.1, List.all_eq_true.mp h.2⟩, fun h ↦ ⟨h.start, List.all_eq_true.mpr h.plain⟩⟩

def IsPlain (t : Text) : Prop := ∀ c ∈ t, (c != '[' && c != '\\') = true

instance (t : Text) : Decidable (IsPlain t) :=
  decidable_of_iff (t.all (fun c ↦ c != '[' && c != '\\') = true) List.all_eq_true

theorem looksAhead_tag : Scan.LooksAhead tag := fun _ _ ↦ rfl

theorem IsInside.start_append (h : IsInside inside) (rest : Text) :
    (inside ++ rest).head?.any isTagStart = true := by
  have hstart := h.start
  cases inside with
  | nil => exact absurd hstart (by simp)
  | cons c inside => exact hstart

/-- The inside of a tag is read up to its bracket. -/
theorem tagInside?_append (h : IsInside inside) (rest : Text) :
    tagInside? (inside ++ ']' :: rest) = some inside := by
  unfold tagInside?
  dsimp only
  rw [Text.takeWhile_append_cons h.plain (by decide), List.drop_left, h.start_append]
  rfl

/-- Only the inside of a tag is read as one. -/
theorem eq_of_tagInside? {body : Text} (h : tagInside? body = some inside) :
    IsInside inside ∧ ∃ rest, body = inside ++ ']' :: rest := by
  unfold tagInside? at h
  dsimp only at h
  rw [Text.drop_length_takeWhile] at h
  have hbody := List.takeWhile_append_dropWhile (p := fun c ↦ c != '[' && c != ']') (l := body)
  have hchars := Text.forall_mem_takeWhile (fun c ↦ c != '[' && c != ']') body
  generalize body.takeWhile (fun c ↦ c != '[' && c != ']') = run at h hbody hchars
  generalize body.dropWhile (fun c ↦ c != '[' && c != ']') = back at h hbody
  subst hbody
  split_ifs at h with hlike
  obtain rfl := Option.some.inj h
  obtain ⟨hstart, hclosed⟩ := Bool.and_eq_true_iff.mp hlike
  obtain ⟨rest, rfl⟩ := Text.startsWith_iff.mp hclosed
  refine ⟨⟨?_, hchars⟩, rest, rfl⟩
  cases run with
  | nil => exact absurd (show isTagStart ']' = true from hstart) (by decide)
  | cons c run => exact hstart

def isBracket (c : Char) : Bool := c == '[' || c == ']'

/-- Behind its opening bracket a tag is read if it starts as a tag does and the next bracket is a
closing one. -/
theorem isSome_tagInside?_iff {body : Text} : (tagInside? body).isSome = true ↔
    body.head?.any isTagStart = true ∧ body.find? isBracket = some ']' := by
  constructor
  · intro h
    obtain ⟨inside, hread⟩ := Option.isSome_iff_exists.mp h
    obtain ⟨hinside, rest, rfl⟩ := eq_of_tagInside? hread
    have hnone : inside.find? isBracket = none := by
      rw [List.find?_eq_none]
      intro c hc hbracket
      have hplain := hinside.plain c hc
      simp_all [isBracket]
    refine ⟨hinside.start_append _, ?_⟩
    rw [List.find?_append, hnone]
    rfl
  · rintro ⟨hstart, hfind⟩
    obtain ⟨-, inside, rest, rfl, hfree⟩ := List.find?_eq_some_iff_append.mp hfind
    have hplain : ∀ c ∈ inside, (c != '[' && c != ']') = true := by
      intro c hc
      have hother := hfree c hc
      simp_all [isBracket]
    have hhead : inside.head?.any isTagStart = true := by
      cases inside with
      | nil => exact absurd (show isTagStart ']' = true from hstart) (by decide)
      | cons c inside => exact hstart
    rw [tagInside?_append ⟨hhead, hplain⟩]
    rfl

/-- Every text has some backslashes at its front, none at least. -/
theorem exists_backslashes (t : Text) :
    ∃ n back, t = List.replicate n '\\' ++ back ∧ back.head? ≠ some '\\' := by
  induction t with
  | nil => exact ⟨0, [], rfl, by simp⟩
  | cons c t ih =>
    by_cases hc : c = '\\'
    · obtain ⟨n, back, rfl, hback⟩ := ih
      exact ⟨n + 1, back, by rw [hc, List.replicate_succ, List.cons_append], hback⟩
    · exact ⟨0, c :: t, rfl, by simpa using hc⟩

theorem dropWhile_backslashes (n : Nat) (h : t.head? ≠ some '\\') :
    (List.replicate n '\\' ++ t).dropWhile (· == '\\') = t := by
  rw [List.dropWhile_append_of_pos fun c hc ↦ by rw [List.eq_of_mem_replicate hc]; rfl]
  cases t with
  | nil => rfl
  | cons c t => exact List.dropWhile_cons_of_neg fun hc ↦ h (congrArg some (beq_iff_eq.mp hc))

/-- The tag that begins a text behind backslashes. -/
def tagBehind (slashes : Nat) : Recogniser (Nat × Text) := fun _ t ↦
  match t with
  | '[' :: body => (tagInside? body).map fun inside ↦
    ((slashes, inside), slashes + inside.length + 1)
  | _ => none

theorem tag_backslashes (n : Nat) (h : t.head? ≠ some '\\') :
    tag none (List.replicate n '\\' ++ t) = tagBehind n none t := by
  have hlength : (List.replicate n '\\' ++ t).length - t.length = n := by
    rw [List.length_append, List.length_replicate, Nat.add_sub_cancel]
  unfold tag
  dsimp only
  rw [dropWhile_backslashes n h, hlength]
  rfl

/-- Backslashes and the tag behind them are one mark. -/
theorem pieces_append_tag (h : IsInside inside) (n : Nat) (rest : Text) :
    pieces tag (List.replicate n '\\' ++ '[' :: (inside ++ ']' :: rest)) =
      .mark (n, inside) :: pieces tag rest := by
  have hread : tag none (List.replicate n '\\' ++ '[' :: (inside ++ ']' :: rest)) =
      some ((n, inside), n + inside.length + 1) := by
    rw [tag_backslashes n (by simp), tagBehind, tagInside?_append h]
    rfl
  have hmark : List.replicate n '\\' ++ '[' :: (inside ++ ']' :: rest) =
      (List.replicate n '\\' ++ '[' :: (inside ++ [']'])) ++ rest := by simp
  rw [hmark] at hread ⊢
  refine Scan.pieces_append_of_mark looksAhead_tag hread ?_
  simp only [List.length_append, List.length_replicate, List.length_cons, List.length_nil]
  omega

theorem marks_append_tag (h : IsInside inside) (n : Nat) (rest : Text) :
    marks tag (List.replicate n '\\' ++ '[' :: (inside ++ ']' :: rest)) =
      (n, inside) :: marks tag rest := by
  rw [marks, pieces_append_tag h]
  rfl

/-- Behind backslashes, a character that is none and begins no tag is plain. -/
theorem pieces_backslashes_cons {c : Char} (n : Nat) (hc : c ≠ '\\')
    (h : c = '[' → tagInside? t = none) : pieces tag (List.replicate n '\\' ++ c :: t) =
      (List.replicate n '\\' ++ [c]).map Piece.plain ++ pieces tag t := by
  have hnone (m : Nat) : tag none (List.replicate m '\\' ++ c :: t) = none := by
    rw [tag_backslashes m (by simpa using hc)]
    unfold tagBehind
    split
    · next body heq =>
      obtain ⟨rfl, rfl⟩ := List.cons.inj heq
      rw [h rfl]
      rfl
    · rfl
  induction n with
  | zero => exact Scan.pieces_cons_of_none looksAhead_tag (hnone 0)
  | succ n ih =>
    have hfirst := hnone (n + 1)
    rw [List.replicate_succ, List.cons_append] at hfirst ⊢
    rw [Scan.pieces_cons_of_none looksAhead_tag hfirst, ih]
    rfl

theorem marks_backslashes_cons {c : Char} (n : Nat) (hc : c ≠ '\\')
    (h : c = '[' → tagInside? t = none) :
    marks tag (List.replicate n '\\' ++ c :: t) = marks tag t := by
  have hpieces := pieces_backslashes_cons n hc h
  have hfront : List.replicate n '\\' ++ c :: t = (List.replicate n '\\' ++ [c]) ++ t := by simp
  rw [hfront] at hpieces ⊢
  exact Scan.marks_append_of_pieces hpieces

/-- Characters that are neither brackets nor backslashes are plain. -/
theorem pieces_append_plain (hfront : IsPlain front) (t : Text) :
    pieces tag (front ++ t) = front.map Piece.plain ++ pieces tag t := by
  refine Scan.pieces_append_of_forall looksAhead_tag (fun c hc rest ↦ ?_) t
  have hplain := hfront c hc
  simp only [Bool.and_eq_true, bne_iff_ne] at hplain
  have hread := tag_backslashes (t := c :: rest) 0 (by simpa using hplain.2)
  rw [List.replicate_zero, List.nil_append] at hread
  rw [hread]
  unfold tagBehind
  split
  · next heq => exact absurd (List.cons.inj heq).1 hplain.1
  · rfl

/-- Plain text in front changes nothing about the tags. -/
theorem marks_append_plain (hfront : IsPlain front) (t : Text) :
    marks tag (front ++ t) = marks tag t :=
  Scan.marks_append_of_pieces (pieces_append_plain hfront t)

/-! ## Escaped text -/

/-- A text is backslashes, or behind backslashes it has a tag or a character where none is read. -/
theorem tag_induction {motive : Text → Prop} (slashes : ∀ n, motive (List.replicate n '\\'))
    (tag : ∀ n inside rest, IsInside inside → motive rest →
      motive (List.replicate n '\\' ++ '[' :: (inside ++ ']' :: rest)))
    (plain : ∀ n c rest, c ≠ '\\' → (c = '[' → tagInside? rest = none) → motive rest →
      motive (List.replicate n '\\' ++ c :: rest)) (t : Text) : motive t := by
  induction hlength : t.length using Nat.strong_induction_on generalizing t with
  | h size ih =>
    obtain ⟨n, back, rfl, hback⟩ := exists_backslashes t
    rw [List.length_append, List.length_replicate] at hlength
    cases back with
    | nil =>
      rw [List.append_nil]
      exact slashes n
    | cons c back =>
      have hc : c ≠ '\\' := by simpa using hback
      rw [List.length_cons] at hlength
      by_cases hnone : c = '[' → tagInside? back = none
      · exact plain n c back hc hnone (ih back.length (by omega) back rfl)
      · obtain ⟨rfl, hsome⟩ := Classical.not_imp.mp hnone
        obtain ⟨inside, hfound⟩ := Option.ne_none_iff_exists'.mp hsome
        obtain ⟨hinside, rest, rfl⟩ := eq_of_tagInside? hfound
        rw [List.length_append, List.length_cons] at hlength
        exact tag n inside rest hinside (ih rest.length (by omega) rest rfl)

def keptTag : Nat × Text → Text
  | (slashes, inside) => List.replicate (2 * slashes + 1) '\\' ++ '[' :: inside ++ [']']

/-- Escaped text, but for a backslash at its end. -/
def written (t : Text) : Text := Scan.substitute tag keptTag t

/-- Escaped text may have one more backslash at its end. -/
theorem exists_escaped (t : Text) : ∃ n, escaped t = written t ++ List.replicate n '\\' := by
  have hwritten : Scan.substitute tag (fun (slashes, inside) ↦
      List.replicate (2 * slashes + 1) '\\' ++ '[' :: inside ++ [']']) t = written t := rfl
  unfold escaped
  dsimp only
  rw [hwritten]
  split_ifs
  · exact ⟨1, rfl⟩
  · exact ⟨0, (List.append_nil _).symm⟩

theorem written_backslashes (n : Nat) :
    written (List.replicate n '\\') = List.replicate n '\\' :=
  Scan.substitute_of_isFree
    (isFree_tag fun hmem ↦ absurd (List.eq_of_mem_replicate hmem) (by decide))

/-- A tag is written behind an odd number of backslashes. -/
theorem written_tag (n : Nat) (h : IsInside inside) (rest : Text) :
    written (List.replicate n '\\' ++ '[' :: (inside ++ ']' :: rest)) =
      List.replicate (2 * n + 1) '\\' ++ '[' :: (inside ++ ']' :: written rest) := by
  rw [written, Scan.substitute_eq_flatMap, pieces_append_tag h, List.flatMap_cons,
    ← Scan.substitute_eq_flatMap]
  simp [Scan.written, keptTag, written]

/-- Everything else is written as it is. -/
theorem written_plain (n : Nat) {c : Char} (hc : c ≠ '\\') (h : c = '[' → tagInside? rest = none) :
    written (List.replicate n '\\' ++ c :: rest) = List.replicate n '\\' ++ c :: written rest := by
  calc
    written (List.replicate n '\\' ++ c :: rest) =
        ((List.replicate n '\\' ++ [c]).map Piece.plain ++ pieces tag rest).flatMap
          (Scan.written keptTag) := by
      rw [written, Scan.substitute_eq_flatMap, pieces_backslashes_cons n hc h]
    _ = (List.replicate n '\\' ++ [c]) ++ written rest := by
      rw [List.flatMap_append, Scan.flatMap_written_plain, written, Scan.substitute_eq_flatMap]
    _ = List.replicate n '\\' ++ c :: written rest := List.append_assoc _ _ _

/-- Escaped text begins as the text does, or with a backslash. -/
theorem head_written (t : Text) :
    (written t).head? = some '\\' ∨ (written t).head? = t.head? := by
  induction t using tag_induction with
  | slashes n => exact Or.inr (by rw [written_backslashes])
  | tag n inside rest hinside _ => exact Or.inl (by rw [written_tag n hinside]; rfl)
  | plain n c rest hc hnone _ =>
    right
    rw [written_plain n hc hnone]
    cases n <;> rfl

/-- Backslashes in front of tags leave the first bracket of a text. -/
theorem find?_written (t : Text) : (written t).find? isBracket = t.find? isBracket := by
  have hslashes (n : Nat) : (List.replicate n '\\').find? isBracket = none :=
    List.find?_eq_none.mpr fun c hc ↦ by rw [List.eq_of_mem_replicate hc]; decide
  induction t using tag_induction with
  | slashes n => rw [written_backslashes]
  | tag n inside rest hinside _ =>
    rw [written_tag n hinside, List.find?_append, List.find?_append, hslashes, hslashes]
    rfl
  | plain n c rest hc hnone ih =>
    rw [written_plain n hc hnone, List.find?_append, List.find?_append, List.find?_cons,
      List.find?_cons, ih]

/-- Behind a bracket that begins no tag none is read in escaped text either, for a tag that follows
begins with a bracket of its own. -/
theorem tagInside?_written (h : tagInside? t = none) (j : Nat) (rest : Text) :
    tagInside? (written t ++ (List.replicate j '\\' ++ '[' :: rest)) = none := by
  rw [← Option.not_isSome_iff_eq_none, isSome_tagInside?_iff] at h ⊢
  rintro ⟨hstart, hfind⟩
  have hnext : (List.replicate j '\\' ++ '[' :: rest).find? isBracket = some '[' := by
    rw [List.find?_append, List.find?_eq_none.mpr fun c hc ↦ by
      rw [List.eq_of_mem_replicate hc]; decide]
    rfl
  have hbracket : t.find? isBracket = some ']' := by
    rw [List.find?_append, find?_written, hnext] at hfind
    cases hfound : t.find? isBracket with
    | none =>
      rw [hfound] at hfind
      exact absurd hfind (by decide)
    | some c => rwa [hfound] at hfind
  refine h ⟨?_, hbracket⟩
  obtain ⟨c, t, rfl⟩ : ∃ c rest, t = c :: rest :=
    List.exists_cons_of_ne_nil fun hnil ↦ by rw [hnil] at hbracket; cases hbracket
  rw [List.head?_append] at hstart
  rcases head_written (c :: t) with hfirst | hfirst
  · rw [hfirst] at hstart
    exact absurd (show isTagStart '\\' = true from hstart) (by decide)
  · rwa [hfirst] at hstart

/-- In escaped text no tag is read, whatever tag stands behind it. -/
theorem exists_marks_written (h : IsInside inside) (j : Nat) (rest t : Text) :
    ∃ ms n, (∀ m ∈ ms, m.1 % 2 = 1) ∧
      marks tag (written t ++ (List.replicate j '\\' ++ '[' :: (inside ++ ']' :: rest))) =
        ms ++ (n, inside) :: marks tag rest := by
  induction t using tag_induction with
  | slashes n =>
    refine ⟨[], n + j, List.forall_mem_nil _, ?_⟩
    rw [written_backslashes, ← List.append_assoc, List.replicate_append_replicate]
    exact marks_append_tag h (n + j) rest
  | tag n found more hfound ih =>
    obtain ⟨ms, k, hodd, hmarks⟩ := ih
    refine ⟨(2 * n + 1, found) :: ms, k, List.forall_mem_cons.mpr ⟨by omega, hodd⟩, ?_⟩
    calc
      marks tag (written (List.replicate n '\\' ++ '[' :: (found ++ ']' :: more)) ++
          (List.replicate j '\\' ++ '[' :: (inside ++ ']' :: rest))) =
          marks tag (List.replicate (2 * n + 1) '\\' ++ '[' :: (found ++ ']' :: (written more ++
            (List.replicate j '\\' ++ '[' :: (inside ++ ']' :: rest))))) := by
        rw [written_tag n hfound]
        simp only [List.append_assoc, List.cons_append]
      _ = (2 * n + 1, found) :: (ms ++ (k, inside) :: marks tag rest) := by
        rw [marks_append_tag hfound, hmarks]
  | plain n c back hc hnone ih =>
    obtain ⟨ms, k, hodd, hmarks⟩ := ih
    refine ⟨ms, k, hodd, ?_⟩
    rw [written_plain n hc hnone, List.append_assoc, List.cons_append,
      marks_backslashes_cons n hc fun heq ↦ tagInside?_written (hnone heq) j _]
    exact hmarks

/-- Every tag in escaped text stands behind an odd number of backslashes, whatever tag follows the
text. -/
theorem exists_marks_escaped (h : IsInside inside) (rest t : Text) :
    ∃ ms n, (∀ m ∈ ms, m.1 % 2 = 1) ∧
      marks tag (escaped t ++ '[' :: (inside ++ ']' :: rest)) =
        ms ++ (n, inside) :: marks tag rest := by
  obtain ⟨j, hj⟩ := exists_escaped t
  rw [hj, List.append_assoc]
  exact exists_marks_written h j rest t

/-- Tags behind an odd number of backslashes open and close nothing. -/
theorem closes_append {ms : List (Nat × Text)} (hodd : ∀ m ∈ ms, m.1 % 2 = 1)
    (opened : List Text) (more : List (Nat × Text)) :
    closes opened (ms ++ more) = closes opened more := by
  induction ms with
  | nil => rfl
  | cons m ms ih =>
    obtain ⟨hm, hms⟩ := List.forall_mem_cons.mp hodd
    rw [List.cons_append, closes, if_pos hm, ih hms]

end PluginReadme.Terminal
