import PluginReadme.Proofs.Markup.Escape
import PluginReadme.Proofs.Text.Class

/-!
# Tags

A tag is a bracket, a name with or without a slash before it, and a slash or attributes before the
bracket that ends it (`IsTag`). It is read wherever it is written (`rawTag_append`), and nothing
else is read (`exists_of_rawTag`), so a text in which none is read holds none (`isFree_rawTag_iff`).
Between its two brackets there are no others: tags do not overlap, and a text is escaped from one
tag to the next (`tag_induction`).
-/

namespace PluginReadme.Markup

variable {t tag start tail rest front : Text} {c : Char}

/-! ## Tags as they are written -/

def isTagNameChar (c : Char) : Bool := c.isAlphanum || c == '-'

def isBracketless (c : Char) : Bool := c != '<' && c != '>'

/-- A letter, and then letters, digits and hyphens. -/
structure IsTagName (name : Text) : Prop where
  head : name.head?.any Char.isAlpha = true
  chars : ∀ c ∈ name, isTagNameChar c = true

/-- What stands between the opening bracket of a tag and the end of its name. -/
inductive IsTagStart : Text → Prop where
  | opening {name : Text} (hname : IsTagName name) : IsTagStart name
  | closing {name : Text} (hname : IsTagName name) : IsTagStart ('/' :: name)

/-- What stands between the name of a tag and its closing bracket. -/
inductive IsTagTail : Text → Prop where
  | bare : IsTagTail []
  | slash : IsTagTail ['/']
  | attributes {blank : Char} {rest : Text} (hblank : isBlank blank = true)
      (hrest : ∀ c ∈ rest, isBracketless c = true) : IsTagTail (blank :: rest)

/-- An opening or a closing tag. -/
inductive IsTag : Text → Prop where
  | written {start tail : Text} (hstart : IsTagStart start) (htail : IsTagTail tail) :
      IsTag ('<' :: start ++ tail ++ ['>'])

/-- A tag stands somewhere in the text. -/
def HasTag (t : Text) : Prop := ∃ tag, IsTag tag ∧ tag <:+: t

theorem isBracketless_of_isTagNameChar (h : isTagNameChar c = true) : isBracketless c = true := by
  rw [isBracketless, Bool.and_eq_true, bne_iff_ne, bne_iff_ne]
  constructor
  all_goals
    rintro rfl
    exact absurd h (by decide)

theorem isBracketless_of_isBlank (h : isBlank c = true) : isBracketless c = true :=
  forall_isBlank (by decide) h

theorem isTagNameChar_of_isBlank (h : isBlank c = true) : isTagNameChar c = false := by
  have hname : (!isTagNameChar c) = true :=
    forall_isBlank (p := fun c ↦ !isTagNameChar c) (by decide) h
  simpa using hname

theorem IsTagStart.chars (h : IsTagStart start) :
    ∀ c ∈ start, isBracketless c = true ∧ c ≠ '&' := by
  have hname {name : Text} (hname : IsTagName name) :
      ∀ c ∈ name, isBracketless c = true ∧ c ≠ '&' := by
    intro c hc
    refine ⟨isBracketless_of_isTagNameChar (hname.chars c hc), ?_⟩
    rintro rfl
    exact absurd (hname.chars _ hc) (by decide)
  cases h with
  | opening h => exact hname h
  | closing h => exact List.forall_mem_cons.mpr ⟨by decide, hname h⟩

theorem IsTagTail.chars (h : IsTagTail tail) : ∀ c ∈ tail, isBracketless c = true := by
  cases h with
  | bare => exact List.forall_mem_nil _
  | slash => exact List.forall_mem_singleton.mpr (by decide)
  | attributes hblank hrest =>
    exact List.forall_mem_cons.mpr ⟨isBracketless_of_isBlank hblank, hrest⟩

/-- Between the brackets of a tag there are no others. -/
theorem IsTag.exists_body (h : IsTag tag) :
    ∃ body, tag = '<' :: body ++ ['>'] ∧ ∀ c ∈ body, isBracketless c = true := by
  cases h with
  | @written start tail hstart htail =>
    refine ⟨start ++ tail, by simp, fun c hc ↦ ?_⟩
    rcases List.mem_append.mp hc with hc | hc
    · exact (hstart.chars c hc).1
    · exact htail.chars c hc

/-! ## What is read -/

/-- The end of a tag is read exactly where one stands. -/
theorem tagTail?_eq_some_iff {length : Nat} : tagTail? t = some length ↔
    ∃ tail rest, IsTagTail tail ∧ t = tail ++ '>' :: rest ∧ length = tail.length + 1 := by
  constructor
  · intro h
    unfold tagTail? at h
    split at h
    · next rest => exact ⟨[], rest, .bare, rfl, (Option.some.inj h).symm⟩
    · next rest => exact ⟨['/'], rest, .slash, rfl, (Option.some.inj h).symm⟩
    · next c more _ _ =>
      dsimp only at h
      split_ifs at h with hguard
      obtain ⟨hblank, hclose⟩ := Bool.and_eq_true_iff.mp hguard
      obtain ⟨rest, hrest⟩ := Text.startsWith_iff.mp hclose
      rw [Text.drop_length_takeWhile] at hrest
      have hwhole := List.takeWhile_append_dropWhile (p := isBracketless) (l := c :: more)
      have hchars := Text.forall_mem_takeWhile isBracketless more
      have hlength : length = ((c :: more).takeWhile isBracketless).length + 1 :=
        (Option.some.inj h).symm
      rw [show (c :: more).dropWhile isBracketless = '>' :: rest from hrest] at hwhole
      rw [List.takeWhile_cons_of_pos (isBracketless_of_isBlank hblank)] at hwhole hlength
      exact ⟨_, rest, .attributes hblank hchars, hwhole.symm, hlength⟩
    · exact absurd h (by simp)
  · rintro ⟨tail, rest, htail, rfl, rfl⟩
    cases htail with
    | bare => rfl
    | slash => rfl
    | @attributes blank more hblank hmore =>
      have hslash : blank ≠ '/' := by
        rintro rfl
        exact absurd hblank (by decide)
      have hclose : blank ≠ '>' := by
        rintro rfl
        exact absurd hblank (by decide)
      have hrun : (blank :: more ++ '>' :: rest).takeWhile isBracketless = blank :: more :=
        Text.takeWhile_append_cons
          (List.forall_mem_cons.mpr ⟨isBracketless_of_isBlank hblank, hmore⟩) (by decide)
      rw [List.cons_append] at hrun ⊢
      unfold tagTail?
      split
      · next heq => exact absurd (List.cons.inj heq).1 hclose
      · next heq => exact absurd (List.cons.inj heq).1 hslash
      · next heq =>
        obtain ⟨rfl, rfl⟩ := List.cons.inj heq
        have hdrop : (blank :: (more ++ '>' :: rest)).drop (blank :: more).length = '>' :: rest :=
          List.drop_left
        dsimp only
        rw [show (fun c ↦ c != '<' && c != '>') = isBracketless from rfl, hrun, hdrop, hblank]
        rfl
      · next heq => exact absurd heq (List.cons_ne_nil _ _)

theorem IsTagTail.head_append (h : IsTagTail tail) (rest : Text) :
    ∃ c more, tail ++ '>' :: rest = c :: more ∧ isTagNameChar c = false := by
  cases h with
  | bare => exact ⟨'>', rest, rfl, by decide⟩
  | slash => exact ⟨'/', '>' :: rest, rfl, by decide⟩
  | attributes hblank _ => exact ⟨_, _, rfl, isTagNameChar_of_isBlank hblank⟩

/-- The name of a tag and its end are read exactly where they stand. -/
theorem tagBody?_eq_some_iff {length : Nat} : tagBody? t = some length ↔
    ∃ name tail rest, IsTagName name ∧ IsTagTail tail ∧ t = name ++ tail ++ '>' :: rest ∧
      length = (name ++ tail).length + 1 := by
  constructor
  · intro h
    unfold tagBody? at h
    dsimp only at h
    rw [Text.drop_length_takeWhile,
      show (fun c : Char ↦ c.isAlphanum || c == '-') = isTagNameChar from rfl] at h
    have hwhole := List.takeWhile_append_dropWhile (p := isTagNameChar) (l := t)
    have hchars := Text.forall_mem_takeWhile isTagNameChar t
    generalize t.takeWhile isTagNameChar = name at h hwhole hchars
    generalize t.dropWhile isTagNameChar = more at h hwhole
    split_ifs at h with hhead
    obtain ⟨n, hn, rfl⟩ := Option.map_eq_some_iff.mp h
    obtain ⟨tail, rest, htail, rfl, rfl⟩ := tagTail?_eq_some_iff.mp hn
    refine ⟨name, tail, rest, ⟨hhead, hchars⟩, htail, ?_, ?_⟩
    · rw [← hwhole, List.append_assoc]
    · rw [List.length_append]
      omega
  · rintro ⟨name, tail, rest, hname, htail, rfl, rfl⟩
    have htailRead : tagTail? (tail ++ '>' :: rest) = some (tail.length + 1) :=
      tagTail?_eq_some_iff.mpr ⟨tail, rest, htail, rfl, rfl⟩
    have hrun : (name ++ (tail ++ '>' :: rest)).takeWhile isTagNameChar = name := by
      obtain ⟨c, more, hmore, hc⟩ := htail.head_append rest
      rw [hmore]
      exact Text.takeWhile_append_cons hname.chars hc
    rw [List.append_assoc]
    unfold tagBody?
    dsimp only
    rw [show (fun c : Char ↦ c.isAlphanum || c == '-') = isTagNameChar from rfl, hrun,
      List.drop_left, if_pos hname.head, htailRead, List.length_append]
    rfl

theorem tagBody?_append {name : Text} (hname : IsTagName name) (htail : IsTagTail tail)
    (rest : Text) :
    tagBody? (name ++ tail ++ '>' :: rest) = some ((name ++ tail).length + 1) :=
  tagBody?_eq_some_iff.mpr ⟨name, tail, rest, hname, htail, rfl, rfl⟩

theorem IsTagName.head_append {name : Text} (h : IsTagName name) (rest : Text) :
    (name ++ rest).head? ≠ some '/' := by
  have hhead := h.head
  cases name with
  | nil => exact absurd hhead (by decide)
  | cons c more =>
    intro heq
    obtain rfl : c = '/' := Option.some.inj heq
    have hletter : Char.isAlpha '/' = true := hhead
    exact absurd hletter (by decide)

theorem looksAhead_rawTag : Scan.LooksAhead rawTag := fun _ _ ↦ rfl

theorem rawTag_cons_of_ne {before : Option Char} (h : c ≠ '<') (rest : Text) :
    rawTag before (c :: rest) = none := by
  unfold rawTag
  split
  · next heq => exact absurd (List.cons.inj heq).1 h
  · next heq => exact absurd (List.cons.inj heq).1 h
  · rfl

theorem ne_less_of_isBracketless (h : isBracketless c = true) : c ≠ '<' := by
  rintro rfl
  exact absurd h (by decide)

theorem rawTag_cons_of_isBracketless (h : isBracketless c = true) (rest : Text) :
    rawTag none (c :: rest) = none :=
  rawTag_cons_of_ne (ne_less_of_isBracketless h) rest

/-- An opening bracket without a slash behind it opens a tag. -/
theorem rawTag_opening {before : Option Char} (h : rest.head? ≠ some '/') :
    rawTag before ('<' :: rest) =
      (tagBody? rest).map fun length ↦ (('<' :: rest).take (length + 1), length) := by
  unfold rawTag
  split
  · next more heq =>
    rw [(List.cons.inj heq).2] at h
    exact absurd rfl h
  · next more _ heq =>
    obtain rfl : rest = more := (List.cons.inj heq).2
    rfl
  · next hnone => exact absurd rfl (hnone rest)

/-- Where a tag is read, it is written. -/
theorem exists_of_rawTag {before : Option Char} {extra : Nat}
    (h : rawTag before t = some (tag, extra)) :
    IsTag tag ∧ tag.length = extra + 1 ∧ ∃ rest, t = tag ++ rest := by
  have htag := rawTag_eq_some h
  have hwritten {start tail : Text} (rest : Text) (hstart : IsTagStart start)
      (htail : IsTagTail tail) (ht : t = '<' :: start ++ tail ++ ['>'] ++ rest)
      (hextra : extra = (start ++ tail).length + 1) :
      IsTag tag ∧ tag.length = extra + 1 ∧ ∃ rest, t = tag ++ rest := by
    have hlength : ('<' :: start ++ tail ++ ['>']).length = extra + 1 := by
      rw [hextra]
      simp
      omega
    rw [ht, List.take_left' hlength] at htag
    rw [htag]
    exact ⟨.written hstart htail, hlength, rest, ht⟩
  unfold rawTag at h
  split at h
  · next more =>
    obtain ⟨length, hbody, heq⟩ := Option.map_eq_some_iff.mp h
    obtain ⟨name, tail, rest, hname, htail, rfl, rfl⟩ := tagBody?_eq_some_iff.mp hbody
    refine hwritten rest (.closing hname) htail (by simp) ?_
    rw [← (Prod.mk.inj heq).2]
    simp
  · next more _ =>
    obtain ⟨length, hbody, heq⟩ := Option.map_eq_some_iff.mp h
    obtain ⟨name, tail, rest, hname, htail, rfl, rfl⟩ := tagBody?_eq_some_iff.mp hbody
    refine hwritten rest (.opening hname) htail (by simp) ?_
    rw [← (Prod.mk.inj heq).2]
  · exact absurd h (by simp)

/-- Where a tag is written, it is read, whatever follows it. -/
theorem rawTag_append {before : Option Char} (h : IsTag tag) (rest : Text) :
    rawTag before (tag ++ rest) = some (tag, tag.length - 1) := by
  cases h with
  | @written start tail hstart htail =>
    cases hstart with
    | opening hname =>
      have hhead : (start ++ tail ++ '>' :: rest).head? ≠ some '/' := by
        rw [List.append_assoc]
        exact hname.head_append _
      have hsplit :
          '<' :: start ++ tail ++ ['>'] ++ rest = '<' :: (start ++ tail ++ '>' :: rest) := by
        simp
      have hlength : ('<' :: start ++ tail ++ ['>']).length = (start ++ tail).length + 1 + 1 := by
        simp
        omega
      have htake : ('<' :: start ++ tail ++ ['>'] ++ rest).take ((start ++ tail).length + 1 + 1) =
          '<' :: start ++ tail ++ ['>'] := List.take_left' hlength
      rw [hsplit] at htake ⊢
      rw [rawTag_opening hhead, tagBody?_append hname htail, Option.map_some, htake, hlength]
      rfl
    | @closing name hname =>
      have hsplit : '<' :: '/' :: name ++ tail ++ ['>'] ++ rest =
          '<' :: '/' :: (name ++ tail ++ '>' :: rest) := by simp
      have hlength : ('<' :: '/' :: name ++ tail ++ ['>']).length =
          (name ++ tail).length + 1 + 2 := by
        simp
        omega
      have htake : ('<' :: '/' :: name ++ tail ++ ['>'] ++ rest).take
          ((name ++ tail).length + 1 + 2) = '<' :: '/' :: name ++ tail ++ ['>'] :=
        List.take_left' hlength
      rw [hsplit] at htake ⊢
      rw [rawTag, tagBody?_append hname htail, Option.map_some, htake, hlength]
      rfl

/-! ## Texts with tags -/

/-- A text has no tag if none is read in it. -/
theorem isFree_rawTag_iff : Scan.IsFree rawTag t ↔ ¬ HasTag t := by
  constructor
  · rintro hfree ⟨tag, htag, front, back, hsplit⟩
    have hsuffix : tag ++ back <:+ t := ⟨front, by rw [← List.append_assoc, hsplit]⟩
    have hread : rawTag none (tag ++ back) = some (tag, tag.length - 1) := rawTag_append htag back
    rw [hfree none _ hsuffix] at hread
    exact absurd hread (by simp)
  · intro hnone before rest hrest
    cases hread : rawTag before rest with
    | none => rfl
    | some found =>
      obtain ⟨htag, -, back, rfl⟩ := exists_of_rawTag hread
      obtain ⟨front, rfl⟩ := hrest
      exact absurd ⟨found.1, htag, front, back, by simp⟩ hnone

theorem HasTag.append_left (h : HasTag t) (front : Text) : HasTag (front ++ t) := by
  obtain ⟨tag, htag, hinfix⟩ := h
  exact ⟨tag, htag, hinfix.trans (List.suffix_append front t).isInfix⟩

/-- A tag begins with its bracket, so it stands behind a text without one. -/
theorem HasTag.of_append_left (hfront : '<' ∉ front) (h : HasTag (front ++ t)) : HasTag t := by
  rw [← not_not (a := HasTag t), ← isFree_rawTag_iff]
  intro hfree
  have hplain : ∀ c ∈ front, ∀ before rest, rawTag before (c :: rest) = none :=
    fun c hc before rest ↦ rawTag_cons_of_ne (ne_of_mem_of_not_mem hc hfront) rest
  exact isFree_rawTag_iff.mp ((Scan.isFree_append_left_iff hplain).mpr hfree) h

instance : DecidablePred HasTag := fun t ↦
  decidable_of_iff (Scan.marks rawTag t ≠ []) (by
    rw [Ne, Scan.marks_eq_nil_iff looksAhead_rawTag rfl, isFree_rawTag_iff, not_not])

/-- A text begins with a character at which no tag begins, or with a tag. -/
theorem tag_induction {motive : Text → Prop} (nil : motive [])
    (plain : ∀ c rest, rawTag none (c :: rest) = none → motive rest → motive (c :: rest))
    (tag : ∀ tag rest, IsTag tag → motive rest → motive (tag ++ rest)) (t : Text) : motive t := by
  induction hlength : t.length using Nat.strong_induction_on generalizing t with
  | h n ih =>
    cases t with
    | nil => exact nil
    | cons c more =>
      rw [List.length_cons] at hlength
      cases hread : rawTag none (c :: more) with
      | none => exact plain c more hread (ih more.length (by omega) more rfl)
      | some found =>
        obtain ⟨htag, hcount, rest, hrest⟩ := exists_of_rawTag hread
        have hshorter := congrArg List.length hrest
        rw [List.length_cons, List.length_append] at hshorter
        rw [hrest]
        exact tag found.1 rest htag (ih rest.length (by omega) rest rfl)

theorem escapeTags_cons (h : rawTag none (c :: rest) = none) :
    escapeTags (c :: rest) = c :: escapeTags rest := by
  rw [escapeTags, Scan.substitute_eq_flatMap, Scan.pieces_cons_of_none looksAhead_rawTag h]
  rfl

/-- A tag is escaped as a whole. -/
theorem escapeTags_append (h : IsTag tag) (rest : Text) :
    escapeTags (tag ++ rest) = escape tag ++ escapeTags rest := by
  have hlength : tag.length = tag.length - 1 + 1 := by
    obtain ⟨body, rfl, -⟩ := h.exists_body
    simp
  rw [escapeTags, Scan.substitute_eq_flatMap,
    Scan.pieces_append_of_mark looksAhead_rawTag (rawTag_append h rest) hlength]
  rfl

/-- A text without tags stays. -/
theorem escapeTags_of_not_hasTag (h : ¬ HasTag t) : escapeTags t = t :=
  Scan.substitute_of_isFree (isFree_rawTag_iff.mpr h)

theorem escapeTags_append_of_forall (hfront : ∀ c ∈ front, isBracketless c = true) (t : Text) :
    escapeTags (front ++ t) = front ++ escapeTags t := by
  induction front with
  | nil => rfl
  | cons c front ih =>
    obtain ⟨hc, hfront⟩ := List.forall_mem_cons.mp hfront
    rw [List.cons_append, escapeTags_cons (rawTag_cons_of_isBracketless hc _), ih hfront]
    rfl

end PluginReadme.Markup
