import PluginReadme.Proofs.Markup.Exempt
import PluginReadme.Proofs.Markup.Tag

/-!
# Tags that are left

Escaping takes the brackets off a tag, and this can make a tag of what was none: where tags stand
among the attributes of another one, only the inner ones are tags before escaping, and the outer one
is a tag afterwards (`hasTag_escapeTags_iff`). A text without backticks has no tags left exactly if
none of its lines holds a tag around others. Then a second pass changes nothing but a carriage
return that the first one joined to a line feed (`noTagLeft_iff`).
-/

namespace PluginReadme.Markup

variable {t line tag start rest front inside escaped : Text} {c : Char}

/-! ## Content -/

/-- A text of tags and of characters that are no brackets. -/
inductive IsContent : Text → Prop where
  | nil : IsContent []
  | plain {c : Char} {rest : Text} (hc : isBracketless c = true) (hrest : IsContent rest) :
      IsContent (c :: rest)
  | tag {tag rest : Text} (htag : IsTag tag) (hrest : IsContent rest) : IsContent (tag ++ rest)

/-- The first bracket of content opens a tag. -/
theorem IsContent.exists_less_of_hasTag (h : IsContent inside) (htag : HasTag inside) :
    ∃ front rest, inside = front ++ '<' :: rest ∧ ∀ c ∈ front, isBracketless c = true := by
  induction h with
  | nil =>
    obtain ⟨tag, htag, hinfix⟩ := htag
    obtain ⟨body, rfl, -⟩ := htag.exists_body
    exact absurd (List.infix_nil.mp hinfix) (by simp)
  | @plain c rest hc _ ih =>
    have hless : '<' ∉ [c] := by simpa using (ne_less_of_isBracketless hc).symm
    obtain ⟨front, more, rfl, hfront⟩ := ih (HasTag.of_append_left hless htag)
    exact ⟨c :: front, more, rfl, List.forall_mem_cons.mpr ⟨hc, hfront⟩⟩
  | tag hfirst _ _ =>
    obtain ⟨body, rfl, -⟩ := hfirst.exists_body
    exact ⟨[], _, rfl, List.forall_mem_nil _⟩

/-- Content is escaped without regard to what follows it. -/
theorem IsContent.escapeTags_append (h : IsContent inside) (rest : Text) :
    escapeTags (inside ++ rest) = escapeTags inside ++ escapeTags rest := by
  induction h with
  | nil => rfl
  | plain hc _ ih =>
    rw [List.cons_append, escapeTags_cons (rawTag_cons_of_isBracketless hc _), ih,
      escapeTags_cons (rawTag_cons_of_isBracketless hc _)]
    rfl
  | tag htag _ ih =>
    rw [List.append_assoc, Markup.escapeTags_append htag, ih, Markup.escapeTags_append htag,
      List.append_assoc]

theorem isBracketless_of_mem_escape (h : c ∈ escape t) : isBracketless c = true := by
  obtain ⟨hless, hgreater⟩ := brackets_not_mem_escape t
  rw [isBracketless, Bool.and_eq_true, bne_iff_ne, bne_iff_ne]
  exact ⟨ne_of_mem_of_not_mem h hless, ne_of_mem_of_not_mem h hgreater⟩

/-- Once the tags in it are escaped, a content has no brackets left. -/
theorem IsContent.isBracketless_of_mem_escapeTags (h : IsContent inside) :
    ∀ c ∈ escapeTags inside, isBracketless c = true := by
  induction h with
  | nil => exact List.forall_mem_nil _
  | plain hc _ ih =>
    rw [escapeTags_cons (rawTag_cons_of_isBracketless hc _)]
    exact List.forall_mem_cons.mpr ⟨hc, ih⟩
  | tag htag _ ih =>
    rw [Markup.escapeTags_append htag]
    exact List.forall_mem_append.mpr ⟨fun c hc ↦ isBracketless_of_mem_escape hc, ih⟩

/-- An escaped tag begins with an entity. -/
theorem IsTag.exists_escape (h : IsTag tag) : ∃ rest, escape tag = '&' :: rest := by
  obtain ⟨body, rfl, -⟩ := h.exists_body
  exact ⟨_, rfl⟩

theorem IsContent.eq_nil_of_escapeTags (h : IsContent inside) (heq : escapeTags inside = []) :
    inside = [] := by
  cases h with
  | nil => rfl
  | plain hc _ =>
    rw [escapeTags_cons (rawTag_cons_of_isBracketless hc _)] at heq
    exact absurd heq (List.cons_ne_nil _ _)
  | tag htag _ =>
    obtain ⟨rest, hrest⟩ := htag.exists_escape
    rw [Markup.escapeTags_append htag, hrest] at heq
    exact absurd heq (List.cons_ne_nil _ _)

/-- What was escaped to a text without brackets in front of a closing one was content. -/
theorem exists_content_of_escapeTags {more : Text} (h : escapeTags t = escaped ++ '>' :: more)
    (hescaped : ∀ c ∈ escaped, isBracketless c = true) : ∃ inside after,
      t = inside ++ '>' :: after ∧ IsContent inside ∧ escapeTags inside = escaped := by
  induction t using tag_induction generalizing escaped with
  | nil => exact absurd h.symm (by simp [escapeTags, Scan.substitute, Scan.pieces, Scan.piecesFrom])
  | plain c rest hread ih =>
    rw [escapeTags_cons hread] at h
    cases escaped with
    | nil =>
      obtain ⟨rfl, -⟩ := List.cons.inj h
      exact ⟨[], rest, rfl, .nil, rfl⟩
    | cons d escaped =>
      obtain ⟨rfl, hrest⟩ := List.cons.inj h
      obtain ⟨hc, hescaped⟩ := List.forall_mem_cons.mp hescaped
      obtain ⟨inside, after, rfl, hinside, rfl⟩ := ih hrest hescaped
      refine ⟨c :: inside, after, rfl, .plain hc hinside, ?_⟩
      rw [escapeTags_cons (rawTag_cons_of_isBracketless hc _)]
  | tag tag rest htag ih =>
    rw [escapeTags_append htag] at h
    -- The closing bracket is none of the escaped ones, so it stands behind the whole tag.
    have hbehind :
        ∃ back, escaped = escape tag ++ back ∧ escapeTags rest = back ++ '>' :: more := by
      rcases List.append_eq_append_iff.mp h with ⟨back, hback, hrest⟩ | ⟨cut, hcut, hrest⟩
      · exact ⟨back, hback, hrest⟩
      · cases cut with
        | nil => exact ⟨[], by simpa using hcut.symm, hrest.symm⟩
        | cons d cut =>
          obtain rfl : '>' = d := (List.cons.inj hrest).1
          have hmem : '>' ∈ escape tag := by rw [hcut]; simp
          exact absurd (isBracketless_of_mem_escape hmem) (by decide)
    obtain ⟨back, rfl, hrest⟩ := hbehind
    obtain ⟨inside, after, rfl, hinside, rfl⟩ :=
      ih hrest (List.forall_mem_append.mp hescaped).2
    exact ⟨tag ++ inside, after, (List.append_assoc ..).symm, .tag htag hinside,
      escapeTags_append htag inside⟩

/-- What stands in front of the first entity was there before. -/
theorem IsContent.exists_append_of_escapeTags (h : IsContent inside)
    (hfront : ∀ c ∈ front, c ≠ '&') (heq : escapeTags inside = front ++ rest) :
    ∃ back, inside = front ++ back ∧ IsContent back ∧ escapeTags back = rest := by
  induction h generalizing front with
  | nil =>
    obtain ⟨rfl, rfl⟩ := List.append_eq_nil_iff.mp heq.symm
    exact ⟨[], rfl, .nil, rfl⟩
  | @plain c more hc hmore ih =>
    cases front with
    | nil => exact ⟨c :: more, rfl, .plain hc hmore, heq⟩
    | cons d front =>
      rw [escapeTags_cons (rawTag_cons_of_isBracketless hc _)] at heq
      obtain ⟨rfl, hrest⟩ := List.cons.inj heq
      obtain ⟨back, rfl, hback⟩ := ih (List.forall_mem_cons.mp hfront).2 hrest
      exact ⟨back, rfl, hback⟩
  | @tag tag more htag hmore _ =>
    cases front with
    | nil => exact ⟨tag ++ more, rfl, .tag htag hmore, heq⟩
    | cons d front =>
      obtain ⟨entity, hentity⟩ := htag.exists_escape
      rw [Markup.escapeTags_append htag, hentity] at heq
      exact absurd (List.cons.inj heq).1.symm (hfront d List.mem_cons_self)

/-! ## Tags among attributes -/

/-- Where the attributes of a tag would stand, there are other tags. -/
def HasNestedTag (t : Text) : Prop :=
  ∃ before start blank inside after,
    t = before ++ '<' :: (start ++ blank :: inside ++ '>' :: after) ∧
    IsTagStart start ∧ isBlank blank = true ∧ IsContent inside ∧ HasTag inside

theorem HasNestedTag.append_left (h : HasNestedTag t) (front : Text) :
    HasNestedTag (front ++ t) := by
  obtain ⟨before, start, blank, inside, after, rfl, hnested⟩ := h
  exact ⟨front ++ before, start, blank, inside, after, by simp, hnested⟩

/-- A tag is read wherever one stands. -/
theorem rawTag_ne_none {before : Option Char} (h : IsTag tag) :
    rawTag before (tag ++ rest) ≠ none := by
  rw [rawTag_append h]
  exact Option.some_ne_none _

/-- A bracket behind a text makes no tag at its beginning. -/
theorem rawTag_append_less (h : rawTag none (c :: front) = none) (rest : Text) :
    rawTag none (c :: front ++ '<' :: rest) = none := by
  cases hread : rawTag none (c :: front ++ '<' :: rest) with
  | none => rfl
  | some found =>
    obtain ⟨htag, -, back, hback⟩ := exists_of_rawTag hread
    rcases List.append_eq_append_iff.mp hback with ⟨cut, hcut, hrest⟩ | ⟨more, hmore, -⟩
    · cases cut with
      | nil =>
        rw [List.append_nil] at hcut
        rw [← hcut, ← List.append_nil found.1] at h
        exact absurd h (rawTag_ne_none htag)
      | cons d cut =>
        obtain rfl : '<' = d := (List.cons.inj hrest).1
        obtain ⟨body, hbody, hchars⟩ := htag.exists_body
        have hinner : front ++ '<' :: cut = body ++ ['>'] := by
          rw [hcut] at hbody
          exact (List.cons.inj hbody).2
        have hmem : '<' ∈ body ++ ['>'] := hinner ▸ List.mem_append_right front List.mem_cons_self
        rw [List.mem_append, List.mem_singleton] at hmem
        rcases hmem with hmem | hmem
        · exact absurd rfl (ne_less_of_isBracketless (hchars _ hmem))
        · exact absurd hmem (by decide)
    · rw [hmore] at h
      exact absurd h (rawTag_ne_none htag)

/-- What stands in front of a bracket is escaped without regard to what follows. -/
theorem escapeTags_append_less (front rest : Text) :
    escapeTags (front ++ '<' :: rest) = escapeTags front ++ escapeTags ('<' :: rest) := by
  induction front using tag_induction with
  | nil => rfl
  | plain c front hread ih =>
    have hbehind : rawTag none (c :: (front ++ '<' :: rest)) = none := rawTag_append_less hread rest
    rw [List.cons_append, escapeTags_cons hbehind, ih, escapeTags_cons hread]
    rfl
  | tag tag front htag ih =>
    rw [List.append_assoc, escapeTags_append htag, ih, escapeTags_append htag, List.append_assoc]

/-- A tag that begins where none began had tags among its attributes. -/
theorem hasNestedTag_of_prefix (hread : rawTag none (c :: rest) = none) (htag : IsTag tag)
    (h : tag <+: c :: escapeTags rest) : HasNestedTag (c :: rest) := by
  cases htag with
  | @written start tail hstart htail =>
    obtain ⟨more, hmore⟩ := h
    obtain ⟨rfl, hrest⟩ : '<' = c ∧ start ++ tail ++ '>' :: more = escapeTags rest := by
      simpa using hmore
    have hchars : ∀ c ∈ start ++ tail, isBracketless c = true :=
      List.forall_mem_append.mpr ⟨fun c hc ↦ (hstart.chars c hc).1, htail.chars⟩
    obtain ⟨inside, after, rfl, hinside, hescaped⟩ :=
      exists_content_of_escapeTags hrest.symm hchars
    -- Nothing is read here, so what was escaped is not the same as what was there.
    have hne : inside ≠ start ++ tail := by
      rintro rfl
      have htag : IsTag ('<' :: start ++ tail ++ ['>']) := .written hstart htail
      have hthere : rawTag none ('<' :: start ++ tail ++ ['>'] ++ after) ≠ none :=
        rawTag_ne_none htag
      exact hthere (by simpa using hread)
    have hfront : ∀ c ∈ start, c ≠ '&' := fun c hc ↦ (hstart.chars c hc).2
    cases htail with
    | bare =>
      obtain ⟨back, rfl, hback, hnil⟩ := hinside.exists_append_of_escapeTags hfront hescaped
      exact absurd (by rw [hback.eq_nil_of_escapeTags hnil]) hne
    | slash =>
      have hslash : ∀ c ∈ start ++ ['/'], c ≠ '&' :=
        List.forall_mem_append.mpr ⟨hfront, List.forall_mem_singleton.mpr (by decide)⟩
      rw [← List.append_nil (start ++ ['/'])] at hescaped
      obtain ⟨back, rfl, hback, hnil⟩ := hinside.exists_append_of_escapeTags hslash hescaped
      exact absurd (by rw [hback.eq_nil_of_escapeTags hnil, List.append_nil]) hne
    | @attributes blank attributes hblank hattributes =>
      have hblankNe : blank ≠ '&' := by
        rintro rfl
        exact absurd hblank (by decide)
      have hspaced : ∀ c ∈ start ++ [blank], c ≠ '&' :=
        List.forall_mem_append.mpr ⟨hfront, List.forall_mem_singleton.mpr hblankNe⟩
      rw [List.append_cons] at hescaped
      obtain ⟨back, rfl, hback, hattributes⟩ :=
        hinside.exists_append_of_escapeTags hspaced hescaped
      by_cases hnested : HasTag back
      · exact ⟨[], start, blank, back, after, by simp, hstart, hblank, hback, hnested⟩
      · rw [escapeTags_of_not_hasTag hnested] at hattributes
        exact absurd (by rw [hattributes, ← List.append_cons]) hne

/-- No tag is read where tags stand among the attributes of another one. -/
theorem escapeTags_nested {blank : Char} {after : Text} (hstart : IsTagStart start)
    (hblank : isBlank blank = true) (hinside : IsContent inside) (htag : HasTag inside) :
    escapeTags ('<' :: (start ++ blank :: inside ++ '>' :: after)) =
      '<' :: (start ++ blank :: escapeTags inside ++ '>' :: escapeTags after) := by
  have hfront : ∀ c ∈ start ++ [blank], isBracketless c = true :=
    List.forall_mem_append.mpr ⟨fun c hc ↦ (hstart.chars c hc).1,
      List.forall_mem_singleton.mpr (isBracketless_of_isBlank hblank)⟩
  have hnone : rawTag none ('<' :: (start ++ blank :: inside ++ '>' :: after)) = none := by
    cases hread : rawTag none ('<' :: (start ++ blank :: inside ++ '>' :: after)) with
    | none => rfl
    | some found =>
      obtain ⟨hfound, -, more, hmore⟩ := exists_of_rawTag hread
      obtain ⟨body, hbody, hchars⟩ := hfound.exists_body
      obtain ⟨front, rest, rfl, hplain⟩ := hinside.exists_less_of_hasTag htag
      have heq : (start ++ [blank] ++ front) ++ '<' :: (rest ++ '>' :: after) =
          body ++ '>' :: more := by
        rw [hbody] at hmore
        simpa using hmore
      have hclash := Text.append_cons_inj (List.forall_mem_append.mpr ⟨hfront, hplain⟩)
        (by decide) hchars (by decide) heq
      exact absurd hclash.2.1 (by decide)
  have hsplit : start ++ blank :: inside ++ '>' :: after =
      (start ++ [blank]) ++ (inside ++ '>' :: after) := by simp
  have hclose : rawTag none ('>' :: after) = none := rawTag_cons_of_ne (by decide) after
  rw [escapeTags_cons hnone, hsplit, escapeTags_append_of_forall hfront, hinside.escapeTags_append,
    escapeTags_cons hclose]
  simp

/-- Escaping leaves a tag exactly where one is nested in another. -/
theorem hasTag_escapeTags_iff : HasTag (escapeTags t) ↔ HasNestedTag t := by
  constructor
  · intro h
    induction t using tag_induction with
    | nil => exact absurd h (by decide)
    | plain c rest hread ih =>
      rw [escapeTags_cons hread] at h
      obtain ⟨tag, htag, hinfix⟩ := h
      rcases List.infix_cons_iff.mp hinfix with hprefix | hinfix
      · exact hasNestedTag_of_prefix hread htag hprefix
      · exact (ih ⟨tag, htag, hinfix⟩).append_left [c]
    | tag tag rest htag ih =>
      rw [escapeTags_append htag] at h
      exact (ih (h.of_append_left (brackets_not_mem_escape tag).1)).append_left tag
  · rintro ⟨before, start, blank, inside, after, rfl, hstart, hblank, hinside, htag⟩
    rw [escapeTags_append_less, escapeTags_nested hstart hblank hinside htag]
    have hleft : IsTag ('<' :: start ++ blank :: escapeTags inside ++ ['>']) :=
      .written hstart (.attributes hblank hinside.isBracketless_of_mem_escapeTags)
    exact HasTag.append_left ⟨_, hleft, [], escapeTags after, by simp⟩ (escapeTags before)

instance : DecidablePred HasNestedTag := fun _ ↦ decidable_of_iff _ hasTag_escapeTags_iff

/-! ## The last character of a line -/

/-- A carriage return at the end of a line neither makes a tag nor unmakes one. -/
theorem hasTag_dropFinalReturn_iff : HasTag (Text.dropFinalReturn line) ↔ HasTag line := by
  rcases Text.dropFinalReturn_cases line with heq | heq
  · rw [heq]
  · generalize Text.dropFinalReturn line = front at heq
    rw [heq]
    refine exists_congr fun tag ↦ and_congr_right fun htag ↦ ?_
    rw [List.infix_concat_iff]
    refine (or_iff_right fun hsuffix ↦ ?_).symm
    obtain ⟨body, rfl, -⟩ := htag.exists_body
    obtain ⟨before, hbefore⟩ := hsuffix
    rw [← List.append_assoc] at hbefore
    exact absurd (List.append_inj_right' hbefore rfl) (by decide)

/-- A text that is escaped ends as it did, or a tag ended it. -/
theorem getLast_escapeTags (t : Text) : (escapeTags t).getLast? = t.getLast? ∨
    (escapeTags t).getLast? = some ';' ∧ t.getLast? = some '>' := by
  induction t using tag_induction with
  | nil => exact .inl rfl
  | plain c rest hread ih =>
    rw [escapeTags_cons hread, List.getLast?_cons, List.getLast?_cons]
    rcases ih with h | ⟨h, hrest⟩
    · exact .inl (by rw [h])
    · exact .inr ⟨by rw [h, Option.getD_some], by rw [hrest, Option.getD_some]⟩
  | tag tag rest htag ih =>
    obtain ⟨body, rfl, -⟩ := htag.exists_body
    have hend : (escape ('<' :: body ++ ['>'])).getLast? = some ';' := by
      rw [escape_append, List.getLast?_append]
      rfl
    rw [escapeTags_append htag, List.getLast?_append, List.getLast?_append, hend,
      List.getLast?_concat]
    rcases ih with h | ⟨h, hrest⟩
    · rw [h]
      cases rest.getLast? with
      | none => exact .inr ⟨rfl, rfl⟩
      | some c => exact .inl rfl
    · exact .inr ⟨by rw [h, Option.some_or], by rw [hrest, Option.some_or]⟩

theorem getLast_escapeTags_eq_return_iff :
    (escapeTags line).getLast? = some '\r' ↔ line.getLast? = some '\r' := by
  rcases getLast_escapeTags line with h | ⟨h, hline⟩
  · rw [h]
  · rw [h, hline]
    decide

/-! ## Texts without code -/

theorem escapeLine_of_not_mem (h : '\x60' ∉ line) : escapeLine line = escapeTags line := by
  have hplain : ∀ c ∈ line, ∀ rest, codeSpan none (c :: rest) = none :=
    fun c hc rest ↦ codeSpan_cons_of_ne (ne_of_mem_of_not_mem hc h) rest
  have hpieces := Scan.pieces_append_of_forall looksAhead_codeSpan hplain []
  rw [List.append_nil, show Scan.pieces codeSpan [] = [] from rfl, List.append_nil] at hpieces
  rw [escapeLine, hpieces]
  by_cases hnil : line = []
  · subst hnil
    rfl
  · rw [Scan.stretches_map_plain hnil, List.flatMap_singleton]

theorem escapeRawTags_of_not_mem (h : '\x60' ∉ t) :
    escapeRawTags t = Text.join ['\n'] ((Text.lines t).map escapeTags) := by
  have hline : ∀ line ∈ Text.lines t, '\x60' ∉ line :=
    fun line hline hmem ↦ h (Text.mem_of_mem_lines hline hmem)
  have hescaped :=
    escapeLinesFrom_append (fun line hl ↦ isFence_of_not_mem (hline line hl)) false []
  rw [List.append_nil, show escapeLinesFrom false [] = [] from rfl, List.append_nil] at hescaped
  rw [escapeRawTags, hescaped]
  exact congrArg (Text.join ['\n'])
    (List.map_congr_left fun line hl ↦ escapeLine_of_not_mem (hline line hl))

theorem mem_escapeTags_iff (h : c ∉ entityChars) : c ∈ escapeTags t ↔ c ∈ t := by
  rw [← List.count_pos_iff, count_escapeTags h, List.count_pos_iff]

/-- The lines are escaped one by one, and all but the last may lose a carriage return. -/
theorem lines_escapeRawTags {ls : List Text} (h : '\x60' ∉ t)
    (hlines : Text.lines t = ls ++ [line]) :
    Text.lines (escapeRawTags t) =
      ls.map (fun l ↦ Text.dropFinalReturn (escapeTags l)) ++ [escapeTags line] := by
  have hfeed : ∀ l ∈ ls ++ [line], '\n' ∉ escapeTags l := fun l hl ↦
    mt (mem_escapeTags_iff (by decide)).mp (Text.feed_not_mem_of_mem_lines (hlines ▸ hl))
  obtain ⟨hls, hline⟩ := List.forall_mem_append.mp hfeed
  calc
    Text.lines (escapeRawTags t) =
        Text.lines (Text.join ['\n'] (ls.map escapeTags ++ [escapeTags line])) := by
      rw [escapeRawTags_of_not_mem h, hlines, List.map_append, List.map_singleton]
    _ = (ls.map escapeTags).map Text.dropFinalReturn ++ [escapeTags line] :=
      Text.lines_join_feed (List.forall_mem_map.mpr hls) (hline line List.mem_cons_self)
    _ = ls.map (fun l ↦ Text.dropFinalReturn (escapeTags l)) ++ [escapeTags line] := by
      rw [List.map_map]
      rfl

/-- No line has a tag left exactly if none held a tag around others. -/
theorem forall_not_hasTag_iff (h : '\x60' ∉ t) :
    (∀ line ∈ Text.lines (escapeRawTags t), ¬ HasTag line) ↔
      ∀ line ∈ Text.lines t, ¬ HasNestedTag line := by
  obtain ⟨ls, line, hlines⟩ := (List.eq_nil_or_concat' _).resolve_left (Text.lines_ne_nil t)
  rw [lines_escapeRawTags h hlines, hlines]
  simp only [List.forall_mem_append, List.forall_mem_map, List.forall_mem_singleton,
    hasTag_dropFinalReturn_iff, hasTag_escapeTags_iff]

/-- Every tag that is escaped takes a bracket out of the text. -/
theorem not_hasTag_of_isPrefix (h : line <+: escapeTags line) : ¬ HasTag line := by
  have hspends : Scan.Spends rawTag escape '<' := by
    intro before t tag extra hread
    obtain ⟨htag, hlength, rest, rfl⟩ := exists_of_rawTag hread
    obtain ⟨body, hbody, -⟩ := htag.exists_body
    rw [List.count_eq_zero.mpr (brackets_not_mem_escape tag).1, List.take_left' hlength, hbody]
    exact List.count_pos_iff.mpr List.mem_cons_self
  rcases Scan.isFree_or_count_lt looksAhead_rawTag rfl hspends line with hfree | hlt
  · exact isFree_rawTag_iff.mp hfree
  · exact absurd hlt (h.sublist.count_le '<').not_gt

/-- A text that escaping leaves as it is has no tags. -/
theorem forall_not_hasTag_of_escapeRawTags_eq (h : '\x60' ∉ t) (heq : escapeRawTags t = t) :
    ∀ line ∈ Text.lines t, ¬ HasTag line := by
  obtain ⟨ls, line, hlines⟩ := (List.eq_nil_or_concat' _).resolve_left (Text.lines_ne_nil t)
  have hsame := lines_escapeRawTags h hlines
  rw [heq, hlines] at hsame
  obtain ⟨hls, hline⟩ := List.append_inj' hsame rfl
  have hsameLine : ∀ l ∈ ls, Text.dropFinalReturn (escapeTags l) = l :=
    List.map_inj_left.mp (hls.symm.trans (List.map_id ls).symm)
  rw [hlines, List.forall_mem_append, List.forall_mem_singleton]
  constructor
  · intro l hl
    have hprefix := Text.dropFinalReturn_isPrefix (escapeTags l)
    rw [hsameLine l hl] at hprefix
    exact not_hasTag_of_isPrefix hprefix
  · exact not_hasTag_of_isPrefix (List.singleton_inj.mp hline ▸ List.prefix_refl line)

/-- A text stays as it is if it has no tags, and no carriage return ends one of its lines. -/
theorem escapeRawTags_eq_self_iff (h : '\x60' ∉ t) : escapeRawTags t = t ↔
    (∀ line ∈ Text.lines t, ¬ HasTag line) ∧ Text.hasCarriageReturn t = false := by
  have hjoin (hnone : ∀ line ∈ Text.lines t, ¬ HasTag line) :
      escapeRawTags t = Text.join ['\n'] (Text.lines t) := by
    rw [escapeRawTags_of_not_mem h,
      List.map_congr_left fun line hline ↦ escapeTags_of_not_hasTag (hnone line hline),
      List.map_id']
  constructor
  · intro heq
    have hnone := forall_not_hasTag_of_escapeRawTags_eq h heq
    exact ⟨hnone, Text.join_lines_eq_self_iff.mp ((hjoin hnone).symm.trans heq)⟩
  · rintro ⟨hnone, hreturn⟩
    rw [hjoin hnone, Text.join_lines_eq_self_iff.mpr hreturn]

/-- Escaping leaves no carriage return before a line feed exactly if no line but the last ends with
one. -/
theorem hasCarriageReturn_escapeRawTags_iff (h : '\x60' ∉ t) :
    Text.hasCarriageReturn (escapeRawTags t) = false ↔ Text.FeedSafe (Text.lines t) := by
  have hfeed : ∀ line ∈ (Text.lines t).map escapeTags, '\n' ∉ line :=
    List.forall_mem_map.mpr fun _ hline ↦
      mt (mem_escapeTags_iff (by decide)).mp (Text.feed_not_mem_of_mem_lines hline)
  have hsafe : Text.FeedSafe ((Text.lines t).map escapeTags) ↔ Text.FeedSafe (Text.lines t) := by
    simp only [Text.FeedSafe, List.pairwise_map, Ne, getLast_escapeTags_eq_return_iff]
  rw [escapeRawTags_of_not_mem h, ← hsafe]
  exact ⟨Text.feedSafe_of_hasCarriageReturn_join hfeed, Text.hasCarriageReturn_join_feed hfeed⟩

/-- Only a tag around others is left, and only such a tag or a carriage return that was joined to a
line feed is changed by a second pass. -/
theorem noTagLeft_iff (h : '\x60' ∉ t) :
    ((∀ line ∈ Text.lines (escapeRawTags t), ¬ HasTag line) ↔
      ∀ line ∈ Text.lines t, ¬ HasNestedTag line) ∧
    (escapeRawTags (escapeRawTags t) = escapeRawTags t ↔
      (∀ line ∈ Text.lines t, ¬ HasNestedTag line) ∧ Text.FeedSafe (Text.lines t)) := by
  have hescaped : '\x60' ∉ escapeRawTags t := not_mem_escapeRawTags (by decide) (by decide) h
  rw [escapeRawTags_eq_self_iff hescaped, hasCarriageReturn_escapeRawTags_iff h,
    forall_not_hasTag_iff h]
  exact ⟨Iff.rfl, Iff.rfl⟩

/-- Tags side by side are all escaped, in one pass. -/
theorem noTagLeft_side_by_side : '\x60' ∉ "<b title=x>a</b>\n1 < 2 <br/>".toList ∧
    (∀ line ∈ Text.lines (escapeRawTags "<b title=x>a</b>\n1 < 2 <br/>"), ¬ HasTag line) ∧
    escapeRawTags (escapeRawTags "<b title=x>a</b>\n1 < 2 <br/>") =
      escapeRawTags "<b title=x>a</b>\n1 < 2 <br/>" := by
  have hbacktick : '\x60' ∉ "<b title=x>a</b>\n1 < 2 <br/>".toList := by decide
  have hnested : ∀ line ∈ Text.lines "<b title=x>a</b>\n1 < 2 <br/>", ¬ HasNestedTag line := by
    decide
  have hsafe : Text.FeedSafe (Text.lines "<b title=x>a</b>\n1 < 2 <br/>") :=
    Text.feedSafe_of_forall (by decide)
  exact ⟨hbacktick, (noTagLeft_iff hbacktick).1.mpr hnested,
    (noTagLeft_iff hbacktick).2.mpr ⟨hnested, hsafe⟩⟩

/-- A tag around another one is left, and escaped by a second pass. -/
theorem nestedTag_left : '\x60' ∉ "<b <i>>".toList ∧
    escapeRawTags "<b <i>>" = "<b &lt;i&gt;>".toList ∧
    (¬ ∀ line ∈ Text.lines (escapeRawTags "<b <i>>"), ¬ HasTag line) ∧
    escapeRawTags (escapeRawTags "<b <i>>") ≠ escapeRawTags "<b <i>>" := by
  decide

end PluginReadme.Markup
