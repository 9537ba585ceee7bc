import PluginReadme.Markup.Render
import PluginReadme.Proofs.Markup.Groups

/-!
# Paragraphs

Blank lines cut a text into parts, and nothing else does: a text is one part exactly if none of its
lines but the first and the last is blank (`partsFrom_join`, `exists_not_isBlank_of_partsFrom`).
What holds no blanks joins the part that it stands next to.
-/

namespace PluginReadme.Markup

variable {c : Char} {blanks t front back first part : Text} {others : List Text}

/-! ## Parts -/

theorem partsFrom_cons_of_isBlank (h : isBlank c = true) (blanks t : Text) :
    partsFrom blanks (c :: t) = partsFrom (c :: blanks) t := by
  rw [partsFrom, if_pos h]

theorem partsFrom_ne_nil (blanks t : Text) : partsFrom blanks t ≠ [] := by
  induction t generalizing blanks with
  | nil => exact List.cons_ne_nil [] []
  | cons c rest ih =>
    rw [partsFrom]
    split_ifs
    · exact ih (c :: blanks)
    · exact List.cons_ne_nil _ _
    · obtain ⟨first, others, hrest⟩ := List.exists_cons_of_ne_nil (ih [])
      rw [hrest]
      exact List.cons_ne_nil _ _

/-- A character that is not blank begins a part if a blank line stands before it. -/
theorem partsFrom_cons_of_parts (h : isBlank c = false) (ht : partsFrom [] t = first :: others) :
    partsFrom blanks (c :: t) =
      if 2 ≤ blanks.count '\n' then [] :: (c :: first) :: others
      else (blanks.reverse ++ c :: first) :: others := by
  rw [partsFrom, if_neg (by simp [h]), ht]
  rfl

/-- What has no blanks goes with the first part. -/
theorem partsFrom_append_left (hfront : ∀ c ∈ front, isBlank c = false)
    (ht : partsFrom [] t = first :: others) :
    partsFrom [] (front ++ t) = (front ++ first) :: others := by
  induction front with
  | nil => exact ht
  | cons c front ih =>
    obtain ⟨hc, hrest⟩ := List.forall_mem_cons.mp hfront
    rw [List.cons_append, partsFrom_cons_of_parts hc (ih hrest)]
    rfl

/-- The text ends with a character that is not blank, or there is nothing at all. -/
def EndsWithInk (blanks t : Text) : Prop :=
  (t = [] → blanks = []) ∧ ∀ c ∈ t.getLast?, isBlank c = false

theorem EndsWithInk.ne_nil_of_isBlank (h : EndsWithInk blanks (c :: t)) (hc : isBlank c = true) :
    t ≠ [] := by
  rintro rfl
  have hlast := h.2 c rfl
  rw [hc] at hlast
  exact Bool.noConfusion hlast

theorem EndsWithInk.tail (h : EndsWithInk blanks (c :: t)) :
    ∀ d ∈ t.getLast?, isBlank d = false := by
  intro d hd
  refine h.2 d ?_
  rw [List.getLast?_cons, hd]
  rfl

theorem EndsWithInk.cons (h : EndsWithInk blanks (c :: t)) (hc : isBlank c = true) :
    EndsWithInk (c :: blanks) t :=
  ⟨fun hnil ↦ absurd hnil (h.ne_nil_of_isBlank hc), h.tail⟩

theorem EndsWithInk.restart (h : EndsWithInk blanks (c :: t)) : EndsWithInk [] t :=
  ⟨fun _ ↦ rfl, h.tail⟩

/-- What holds no blanks joins the last part of a text that ends without blanks. -/
theorem exists_partsFrom_append_right (hback : ∀ c ∈ back, isBlank c = false)
    (ht : EndsWithInk blanks t) : ∃ (init : List Text) (last : Text),
      partsFrom blanks t = init ++ [last] ∧ partsFrom blanks (t ++ back) = init ++ [last ++ back] ∧
        last.getLast? = t.getLast? := by
  induction t generalizing blanks with
  | nil =>
    obtain rfl := ht.1 rfl
    refine ⟨[], [], rfl, ?_, rfl⟩
    have hparts := partsFrom_append_left hback (t := []) rfl
    simpa using hparts
  | cons c t ih =>
    cases hc : isBlank c with
    | true =>
      obtain ⟨init, last, hinit, happend, hlast⟩ := ih (ht.cons hc)
      refine ⟨init, last, ?_, ?_, ?_⟩
      · rw [partsFrom_cons_of_isBlank hc, hinit]
      · rw [List.cons_append, partsFrom_cons_of_isBlank hc, happend]
      · rw [hlast, List.getLast?_cons_of_ne_nil (ht.ne_nil_of_isBlank hc)]
    | false =>
      obtain ⟨init, last, hinit, happend, hlast⟩ := ih ht.restart
      cases init with
      | nil =>
        rw [List.cons_append, partsFrom_cons_of_parts hc hinit, partsFrom_cons_of_parts hc happend]
        split_ifs
        · exact ⟨[[]], c :: last, rfl, rfl, by rw [List.getLast?_cons, hlast, List.getLast?_cons]⟩
        · refine ⟨[], blanks.reverse ++ c :: last, rfl, by simp, ?_⟩
          rw [List.getLast?_append, List.getLast?_cons, hlast, List.getLast?_cons]
          rfl
      | cons first more =>
        rw [List.cons_append, partsFrom_cons_of_parts hc hinit, partsFrom_cons_of_parts hc happend]
        have hne : t ≠ [] := by
          rintro rfl
          simpa [partsFrom] using congrArg List.length hinit
        have hcons : last.getLast? = (c :: t).getLast? :=
          hlast.trans (List.getLast?_cons_of_ne_nil hne).symm
        split_ifs
        · exact ⟨[] :: (c :: first) :: more, last, rfl, rfl, hcons⟩
        · exact ⟨(blanks.reverse ++ c :: first) :: more, last, rfl, rfl, hcons⟩

/-! ## Texts of one part -/

/-- A text that is one part is all of that part. -/
theorem eq_of_partsFrom (ht : EndsWithInk blanks t) (h : partsFrom blanks t = [part]) :
    part = blanks.reverse ++ t := by
  induction t generalizing blanks part with
  | nil =>
    obtain rfl := ht.1 rfl
    exact (List.singleton_inj.mp h).symm
  | cons c t ih =>
    cases hc : isBlank c with
    | true =>
      rw [partsFrom_cons_of_isBlank hc] at h
      rw [ih (ht.cons hc) h, List.reverse_cons, List.append_assoc, List.singleton_append]
    | false =>
      obtain ⟨first, others, hrest⟩ := List.exists_cons_of_ne_nil (partsFrom_ne_nil [] t)
      rw [partsFrom_cons_of_parts hc hrest] at h
      split_ifs at h
      · exact absurd (congrArg List.length h) (by simp)
      · obtain ⟨rfl, rfl⟩ := List.cons.inj h
        rw [ih ht.restart hrest]
        rfl

/-- Blanks that hold a blank line cut off a part. -/
theorem partsFrom_ne_singleton (ht : EndsWithInk blanks t) (hblanks : 2 ≤ blanks.count '\n') :
    partsFrom blanks t ≠ [part] := by
  induction t generalizing blanks with
  | nil =>
    obtain rfl := ht.1 rfl
    simp at hblanks
  | cons c t ih =>
    cases hc : isBlank c with
    | true =>
      rw [partsFrom_cons_of_isBlank hc]
      exact ih (ht.cons hc) (hblanks.trans List.count_le_count_cons)
    | false =>
      obtain ⟨first, others, hrest⟩ := List.exists_cons_of_ne_nil (partsFrom_ne_nil [] t)
      rw [partsFrom_cons_of_parts hc hrest, if_pos hblanks]
      exact fun h ↦ absurd (congrArg List.length h) (by simp)

/-- In a text of one part only the first line can be blank, and only if no line stands before it. -/
theorem exists_not_isBlank_of_partsFrom {line : Text} {ls : List Text} (ht : EndsWithInk blanks t)
    (h : partsFrom blanks t = [part]) (hlines : Text.splitOn '\n' t = line :: ls) :
    (∀ other ∈ ls, ∃ c ∈ other, isBlank c = false) ∧
      (1 ≤ blanks.count '\n' → ∃ c ∈ line, isBlank c = false) := by
  induction t generalizing blanks part line ls with
  | nil =>
    obtain rfl := ht.1 rfl
    obtain ⟨rfl, rfl⟩ := List.cons.inj hlines
    exact ⟨by simp, fun hcount ↦ absurd hcount (by simp)⟩
  | cons c t ih =>
    obtain ⟨first, more, hmore⟩ := List.exists_cons_of_ne_nil (Text.splitOn_ne_nil '\n' t)
    cases hc : isBlank c with
    | true =>
      rw [partsFrom_cons_of_isBlank hc] at h
      obtain ⟨hothers, hfirst⟩ := ih (ht.cons hc) h hmore
      by_cases hfeed : c = '\n'
      · subst hfeed
        rw [Text.splitOn, if_pos rfl, hmore] at hlines
        obtain ⟨rfl, rfl⟩ := List.cons.inj hlines
        rw [List.count_cons_self] at hfirst
        refine ⟨List.forall_mem_cons.mpr ⟨hfirst (by omega), hothers⟩, fun hcount ↦ ?_⟩
        exact absurd h (partsFrom_ne_singleton (ht.cons hc) (by rw [List.count_cons_self]; omega))
      · rw [Text.splitOn, if_neg hfeed, hmore] at hlines
        obtain ⟨rfl, rfl⟩ := List.cons.inj hlines
        rw [List.count_cons_of_ne hfeed] at hfirst
        refine ⟨hothers, fun hcount ↦ ?_⟩
        obtain ⟨d, hd, hblank⟩ := hfirst hcount
        exact ⟨d, List.mem_cons_of_mem c hd, hblank⟩
    | false =>
      have hfeed : c ≠ '\n' := by rintro rfl; exact absurd hc (by decide)
      obtain ⟨head, tail, hrest⟩ := List.exists_cons_of_ne_nil (partsFrom_ne_nil [] t)
      rw [partsFrom_cons_of_parts hc hrest] at h
      split_ifs at h
      · exact absurd (congrArg List.length h) (by simp)
      · obtain ⟨rfl, rfl⟩ := List.cons.inj h
        rw [Text.splitOn, if_neg hfeed, hmore] at hlines
        obtain ⟨rfl, rfl⟩ := List.cons.inj hlines
        exact ⟨(ih ht.restart hrest hmore).1, fun _ ↦ ⟨c, List.mem_cons_self, hc⟩⟩

/-- A line that ends without blanks goes on with what follows it. -/
theorem partsFrom_line_append {line rest : Text} (hfeed : '\n' ∉ line)
    (hline : EndsWithInk blanks line) (hblanks : blanks.count '\n' ≤ 1)
    (hrest : partsFrom [] rest = first :: others) :
    partsFrom blanks (line ++ rest) = (blanks.reverse ++ line ++ first) :: others := by
  induction line generalizing blanks with
  | nil =>
    obtain rfl := hline.1 rfl
    exact hrest
  | cons c line ih =>
    have hc' : c ≠ '\n' := fun heq ↦ hfeed (heq ▸ List.mem_cons_self)
    have hline' : '\n' ∉ line := fun hmem ↦ hfeed (List.mem_cons_of_mem c hmem)
    cases hc : isBlank c with
    | true =>
      rw [List.cons_append, partsFrom_cons_of_isBlank hc,
        ih hline' (hline.cons hc) (by rwa [List.count_cons_of_ne hc'])]
      simp
    | false =>
      rw [List.cons_append, partsFrom_cons_of_parts hc (ih hline' hline.restart (by simp)),
        if_neg (by omega)]
      simp

/-- Trimmed lines that are not blank make one part. -/
theorem partsFrom_join {ls : List Text} (hne : ls ≠ []) (hblanks : blanks.count '\n' ≤ 1)
    (hls : ∀ line ∈ ls, '\n' ∉ line ∧ line ≠ [] ∧ Text.IsTrimmed isBlank line) :
    partsFrom blanks (Text.join ['\n'] ls) = [blanks.reverse ++ Text.join ['\n'] ls] := by
  induction ls generalizing blanks with
  | nil => exact absurd rfl hne
  | cons line ls ih =>
    obtain ⟨⟨hfeed, hline, htrimmed⟩, hrest⟩ := List.forall_mem_cons.mp hls
    have hink : EndsWithInk blanks line := ⟨fun hnil ↦ absurd hnil hline, htrimmed.last⟩
    by_cases hnil : ls = []
    · have hparts : partsFrom blanks (line ++ []) = [blanks.reverse ++ line ++ []] :=
        partsFrom_line_append hfeed hink hblanks rfl
      simpa [hnil, Text.join_singleton] using hparts
    · have hfeedParts : partsFrom [] ('\n' :: Text.join ['\n'] ls) =
          ['\n' :: Text.join ['\n'] ls] := by
        rw [partsFrom_cons_of_isBlank (by decide), ih hnil (by decide) hrest]
        rfl
      calc
        partsFrom blanks (Text.join ['\n'] (line :: ls)) =
            partsFrom blanks (line ++ '\n' :: Text.join ['\n'] ls) := by
          rw [Text.join_cons hnil, List.append_assoc, List.singleton_append]
        _ = [blanks.reverse ++ line ++ '\n' :: Text.join ['\n'] ls] :=
          partsFrom_line_append hfeed hink hblanks hfeedParts
        _ = [blanks.reverse ++ Text.join ['\n'] (line :: ls)] := by
          rw [Text.join_cons hnil, List.append_assoc, List.append_assoc, List.singleton_append]

/-! ## Paragraphs of parts -/

/-- A text that is one part becomes one paragraph. -/
theorem wrap_of_partsFrom (h : partsFrom [] t = [t]) (ht : Text.IsTrimmed isBlank t)
    (hne : t ≠ []) : wrap t = paragraph t := by
  rw [wrap, h, List.map_singleton, Text.strip, Text.trim_eq_self ht,
    List.filter_cons_of_pos (by simpa using hne)]
  exact Text.join_singleton _ _

/-- A block of code stands on its own. -/
theorem paragraph_of_pre (t : Text) : paragraph ("<pre><code>" ++ t) = "<pre><code>" ++ t := by
  rw [paragraph, if_pos]
  rw [List.any_eq_true]
  exact ⟨"<pre".toList, by decide, rfl⟩

theorem replaceFrom_of_not_mem {new : Text} (h : '\n' ∉ t) :
    Text.replaceFrom ['\n'] new 0 t = t := by
  induction t with
  | nil => rfl
  | cons c t ih =>
    have hc : '\n' ≠ c := fun heq ↦ h (heq ▸ List.mem_cons_self)
    rw [Text.replaceFrom, if_neg (by simpa [List.isPrefixOf] using hc),
      ih fun hmem ↦ h (List.mem_cons_of_mem c hmem)]

/-- A span of code stands in a paragraph. -/
theorem paragraph_of_code (h : '\n' ∉ t) :
    paragraph ("<code>" ++ t) = element "p" ("<code>" ++ t) := by
  have hstart : blockStarts.any (fun start ↦ Text.startsWith start ("<code>" ++ t)) = false := rfl
  rw [paragraph, hstart, if_neg Bool.false_ne_true]
  congr 1
  exact replaceFrom_of_not_mem (by
    intro hmem
    rcases List.mem_append.mp hmem with hmem | hmem
    · exact absurd hmem (by decide)
    · exact h hmem)

/-- A part that does not begin with an angle bracket does not stand on its own. -/
theorem paragraph_of_head_ne (h : t.head? ≠ some '<') :
    paragraph t = element "p" (Text.replaceAll "\n" "<br>" t) := by
  have hstarts : ∀ start ∈ blockStarts, start.head? = some '<' := by decide
  rw [paragraph, if_neg]
  rw [List.any_eq_true]
  rintro ⟨start, hstart, hprefix⟩
  obtain ⟨rest, rfl⟩ := Text.startsWith_iff.mp hprefix
  exact h (by rw [List.head?_append, hstarts start hstart]; rfl)

theorem suffix_join_append_singleton (glue : Text) (ls : List Text) (line : Text) :
    line <:+ Text.join glue (ls ++ [line]) := by
  induction ls with
  | nil => rw [List.nil_append, Text.join_singleton]
  | cons first ls ih =>
    rw [List.cons_append, Text.join_cons (by simp)]
    exact ih.trans (List.suffix_append _ _)

/-- The end of a text whose last part is a paragraph. -/
theorem suffix_wrap {init : List Text} {last : Text} (h : partsFrom [] t = init ++ [last])
    (hne : Text.strip last ≠ []) (hhead : (Text.strip last).head? ≠ some '<') :
    ("</p>" : Text) <:+ wrap t := by
  have hlast : [Text.strip last].filter (fun part ↦ !part.isEmpty) = [Text.strip last] :=
    List.filter_cons_of_pos (by simpa using hne)
  have hparts : (((init ++ [last]).map Text.strip).filter fun part ↦ !part.isEmpty).map paragraph =
      ((init.map Text.strip).filter fun part ↦ !part.isEmpty).map paragraph ++
        [paragraph (Text.strip last)] := by
    rw [List.map_append, List.filter_append, List.map_append, List.map_singleton, hlast,
      List.map_singleton]
  rw [wrap, h, hparts, paragraph_of_head_ne hhead]
  refine List.IsSuffix.trans ?_ (suffix_join_append_singleton _ _ _)
  exact ⟨'<' :: "p".toList ++ '>' :: Text.replaceAll "\n" "<br>" (Text.strip last),
    by simp [element]⟩

/-! ## Counting -/

theorem count_partsFrom (hc : isBlank c = false) (hblanks : ∀ d ∈ blanks, isBlank d = true)
    (t : Text) : (partsFrom blanks t).flatten.count c = t.count c := by
  induction t generalizing blanks with
  | nil => rfl
  | cons d t ih =>
    cases hd : isBlank d with
    | true =>
      have hne : d ≠ c := by rintro rfl; rw [hc] at hd; exact Bool.noConfusion hd
      rw [partsFrom_cons_of_isBlank hd, ih (List.forall_mem_cons.mpr ⟨hd, hblanks⟩),
        List.count_cons_of_ne hne]
    | false =>
      obtain ⟨first, others, hrest⟩ := List.exists_cons_of_ne_nil (partsFrom_ne_nil [] t)
      have hih := ih (by simp : ∀ d ∈ ([] : Text), isBlank d = true)
      have hnone : blanks.reverse.count c = 0 := by
        rw [List.count_eq_zero, List.mem_reverse]
        intro hmem
        rw [hblanks c hmem] at hc
        exact Bool.noConfusion hc
      rw [hrest, List.flatten_cons, List.count_append] at hih
      rw [partsFrom_cons_of_parts hd hrest]
      split_ifs
      · simp only [List.flatten_cons, List.count_append, List.count_cons, List.count_nil]
        omega
      · simp only [List.flatten_cons, List.count_append, List.count_cons, hnone]
        omega

theorem count_strip (hc : isBlank c = false) (t : Text) : (Text.strip t).count c = t.count c := by
  have hzero {run : Text} (hrun : ∀ d ∈ run, isBlank d = true) : run.count c = 0 :=
    List.count_eq_zero.mpr fun hmem ↦ by rw [hrun c hmem] at hc; exact Bool.noConfusion hc
  obtain ⟨front, tail, ht, hfront, htail⟩ := Text.exists_trim isBlank t
  conv_rhs => rw [ht, List.count_append, List.count_append, hzero hfront, hzero htail]
  rw [Nat.zero_add, Nat.add_zero]
  rfl

theorem count_replaceFrom {new : Text} (hnew : new.count c = 0) (hc : c ≠ '\n') (t : Text) :
    (Text.replaceFrom ['\n'] new 0 t).count c = t.count c := by
  induction t with
  | nil => rfl
  | cons d t ih =>
    rw [Text.replaceFrom]
    split_ifs with hprefix
    · have hd : '\n' = d := by simpa [List.isPrefixOf] using hprefix
      rw [List.count_append, hnew, Nat.zero_add, ← hd, List.count_cons_of_ne (Ne.symm hc)]
      exact ih
    · rw [List.count_cons, List.count_cons, ih]

theorem count_paragraph (hc : c ∈ keptSigns) (hfeed : c ≠ '\n') (t : Text) :
    (paragraph t).count c = t.count c := by
  rw [paragraph]
  split_ifs
  · rfl
  · rw [count_element hc (by decide)]
    exact count_replaceFrom (count_of_isSignless hc (by decide)) hfeed t

/-- Paragraphs keep the signs that are read across lines. -/
theorem count_wrap (hc : c ∈ keptSigns) (hfeed : c ≠ '\n') (t : Text) :
    (wrap t).count c = t.count c := by
  have hink : isBlank c = false := by
    have hkept : keptSigns.all (fun d ↦ d == '\n' || !isBlank d) = true := by decide
    simpa [hfeed] using List.all_eq_true.mp hkept c hc
  have hglue : ("\n\n" : Text).count c = 0 := by
    rw [List.count_eq_zero]
    intro hmem
    exact hfeed (by simpa using hmem)
  have hparts (ps : List Text) : ((((ps.map Text.strip).filter fun part ↦ !part.isEmpty).map
      paragraph).flatten).count c = ps.flatten.count c := by
    induction ps with
    | nil => rfl
    | cons part ps ih =>
      have hpart := count_strip hink part
      rw [List.map_cons, List.filter_cons, List.flatten_cons, List.count_append]
      split_ifs with hempty
      · calc
          ((paragraph (Text.strip part) :: _).flatten).count c =
              (paragraph (Text.strip part)).count c + ps.flatten.count c := by
            rw [List.flatten_cons, List.count_append, ih]
          _ = part.count c + ps.flatten.count c := by rw [count_paragraph hc hfeed, hpart]
      · have hnil : Text.strip part = [] := by simpa using hempty
        rw [hnil, List.count_nil] at hpart
        rw [ih, ← hpart, Nat.zero_add]
  rw [wrap, count_join hglue, hparts, count_partsFrom hink (by simp)]

end PluginReadme.Markup
