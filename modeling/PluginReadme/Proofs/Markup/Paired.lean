import PluginReadme.Proofs.Markup.Enclosed
import PluginReadme.Proofs.Markup.Lines

/-!
# Paired backticks

The backticks of a text are paired if each one begins or ends a code that is not empty. Such a text
is read the same way line by line and as a whole: its codes are the spans that escaping leaves as
they are (`Paired.marks_codeSpan`) and the code spans that become elements
(`Paired.marks_enclosedBy`), and there is no fence in it. Texts with paired backticks can be put
together, and no pass over lines parts a pair or brings another one between
(`PairedLines.grouped`).
-/

namespace PluginReadme.Markup

variable {code front tail s t line : Text} {codes more ls rest collected : List Text}

/-- The backticks of the text enclose the codes in this order, and no other backtick is there. -/
inductive Paired : List Text → Text → Prop where
  | plain {t : Text} (h : '\x60' ∉ t) : Paired [] t
  | span {front code tail : Text} {codes : List Text} (hfront : '\x60' ∉ front) (hne : code ≠ [])
      (hcode : '\x60' ∉ code) (htail : Paired codes tail) :
      Paired (code :: codes) (front ++ (spanned code ++ tail))

theorem paired_spanned (hne : code ≠ []) (hcode : '\x60' ∉ code) :
    Paired [code] (spanned code) := by
  have hspan := Paired.span List.not_mem_nil hne hcode (.plain List.not_mem_nil)
  rwa [List.append_nil] at hspan

namespace Paired

theorem not_mem (h : Paired [] t) : '\x60' ∉ t := by
  cases h
  assumption

/-! ## Texts put together -/

theorem append_left (hfront : '\x60' ∉ front) (h : Paired codes t) : Paired codes (front ++ t) := by
  cases h with
  | plain ht => exact .plain (by simp [hfront, ht])
  | span hother hne hcode htail =>
    rw [← List.append_assoc]
    exact .span (by simp [hfront, hother]) hne hcode htail

theorem append (h : Paired codes s) (ht : Paired more t) : Paired (codes ++ more) (s ++ t) := by
  induction h with
  | plain hs => exact ht.append_left hs
  | span hfront hne hcode _ ih =>
    rw [List.append_assoc, List.append_assoc]
    exact .span hfront hne hcode ih

theorem append_right (htail : '\x60' ∉ tail) (h : Paired codes t) : Paired codes (t ++ tail) := by
  have happend := h.append (.plain htail)
  rwa [List.append_nil] at happend

theorem of_append_left (hfront : '\x60' ∉ front) (h : Paired codes (front ++ t)) :
    Paired codes t := by
  generalize hwhole : front ++ t = whole at h
  cases h with
  | plain hnot =>
    rw [← hwhole, List.mem_append] at hnot
    exact .plain fun hmem ↦ hnot (.inr hmem)
  | @span other code tail codes hother hne hcode htail =>
    rcases List.append_eq_append_iff.mp hwhole with ⟨gap, rfl, rfl⟩ | ⟨gap, rfl, hgap⟩
    · exact .span (fun hmem ↦ hother (List.mem_append_right _ hmem)) hne hcode htail
    · -- The code begins with a backtick, so nothing of it stands in the front.
      cases gap with
      | nil =>
        obtain rfl : spanned code ++ tail = t := hgap
        have hspan := Paired.span List.not_mem_nil hne hcode htail
        exact hspan
      | cons c gap =>
        obtain ⟨rfl, -⟩ := List.cons.inj hgap
        exact absurd (List.mem_append_right _ List.mem_cons_self) hfront

theorem of_append_right (htail : '\x60' ∉ tail) (h : Paired codes (t ++ tail)) :
    Paired codes t := by
  generalize hwhole : t ++ tail = whole at h
  induction h generalizing t with
  | plain hnot =>
    rw [← hwhole, List.mem_append] at hnot
    exact .plain fun hmem ↦ hnot (.inl hmem)
  | @span front code rest codes hfront hne hcode hrest ih =>
    rw [← List.append_assoc] at hwhole
    rcases List.append_eq_append_iff.mp hwhole with ⟨gap, hgap, rfl⟩ | ⟨gap, rfl, hgap⟩
    · -- The code ends with a backtick, so nothing of it stands in the tail.
      rcases List.eq_nil_or_concat' gap with rfl | ⟨gap, c, rfl⟩
      · rw [List.append_nil] at hgap
        rw [← hgap, ← List.append_nil (spanned code)]
        exact .span hfront hne hcode (ih rfl)
      · have hlast := congrArg List.getLast? hgap
        rw [List.getLast?_append, ← List.append_assoc, List.getLast?_concat, spanned,
          List.getLast?_concat] at hlast
        obtain rfl : '\x60' = c := Option.some.inj hlast
        exact absurd (by simp) htail
    · rw [List.append_assoc]
      exact .span hfront hne hcode (ih hgap.symm)

theorem strip (h : Paired codes t) : Paired codes (Text.strip t) := by
  have hblank {blanks : Text} (hblanks : ∀ c ∈ blanks, isBlank c = true) : '\x60' ∉ blanks :=
    fun hmem ↦ absurd (hblanks _ hmem) (by decide)
  obtain ⟨front, tail, ht, hfront, htail⟩ := Text.exists_trim isBlank t
  rw [ht] at h
  exact (h.of_append_right (hblank htail)).of_append_left (hblank hfront)

theorem element {tag : Text} (htag : '\x60' ∉ tag) (h : Paired codes t) :
    Paired codes (element tag t) := by
  have hsplit : Markup.element tag t = '<' :: tag ++ ['>'] ++ (t ++ ("</" ++ tag ++ ">")) := by
    simp [Markup.element]
  rw [hsplit]
  exact (h.append_right (by simp [htag])).append_left (by simp [htag])

/-! ## What is read -/

/-- Paired backticks enclose the codes that are read. -/
theorem marks_enclosedBy (h : Paired codes t) : Scan.marks (enclosedBy '\x60' 1) t = codes := by
  have hread := looksAhead_enclosedBy '\x60' 1
  induction h with
  | plain ht => exact Scan.marks_of_isFree (isFree_enclosedBy_of_not_mem Nat.one_pos ht)
  | @span front code tail codes hfront hne hcode htail ih =>
    have hplain : ∀ c ∈ front, ∀ rest, enclosedBy '\x60' 1 none (c :: rest) = none :=
      fun c hc rest ↦ enclosedBy_of_head_ne Nat.one_pos
        fun hhead ↦ hfront (Option.some.inj hhead ▸ hc)
    calc
      Scan.marks (enclosedBy '\x60' 1) (front ++ (spanned code ++ tail)) =
          Scan.marks (enclosedBy '\x60' 1) (spanned code ++ tail) :=
        Scan.marks_append_of_pieces (Scan.pieces_append_of_forall hread hplain _)
      _ = code :: Scan.marks (enclosedBy '\x60' 1) tail :=
        Scan.marks_append_of_mark hread (enclosedBy_spanned_append hne hcode tail)
          (length_spanned code)
      _ = code :: codes := by rw [ih]

theorem pieces_codeSpan_append (hfront : '\x60' ∉ front) (t : Text) :
    Scan.pieces codeSpan (front ++ t) = front.map Piece.plain ++ Scan.pieces codeSpan t :=
  Scan.pieces_append_of_forall looksAhead_codeSpan
    (fun _ hc rest ↦ codeSpan_cons_of_ne (ne_of_mem_of_not_mem hc hfront) rest) t

/-- Paired backticks are read as spans of their codes. -/
theorem marks_codeSpan (h : Paired codes t) : Scan.marks codeSpan t = codes.map spanned := by
  induction h with
  | @plain t ht =>
    have hnil := Scan.marks_append_of_pieces (pieces_codeSpan_append ht [])
    rw [List.append_nil] at hnil
    exact hnil
  | @span front code tail codes hfront hne hcode htail ih =>
    rw [Scan.marks_append_of_pieces (pieces_codeSpan_append hfront _),
      Scan.marks_append_of_mark looksAhead_codeSpan (codeSpan_spanned_append hcode tail)
        (length_spanned code), ih, List.map_cons]

/-- Escaping tags outside of the codes leaves the codes as they are. -/
theorem escapeLine (h : Paired codes line) : Paired codes (escapeLine line) := by
  have htags {front : Text} (hfront : '\x60' ∉ front) : '\x60' ∉ escapeTags front := by
    rwa [← List.count_eq_zero, count_escapeTags (by decide), List.count_eq_zero]
  induction h with
  | plain ht => exact .plain fun hmem ↦ ht ((mem_escapeLine_iff (by decide)).mp hmem)
  | @span front code tail codes hfront hne hcode htail ih =>
    have hpieces : Scan.pieces codeSpan (front ++ (spanned code ++ tail)) =
        front.map Piece.plain ++ .mark (spanned code) :: Scan.pieces codeSpan tail := by
      rw [pieces_codeSpan_append hfront, Scan.pieces_append_of_mark looksAhead_codeSpan
        (codeSpan_spanned_append hcode tail) (length_spanned code)]
    have hsplit : Markup.escapeLine (front ++ (spanned code ++ tail)) =
        escapeTags front ++ (spanned code ++ Markup.escapeLine tail) := by
      rw [Markup.escapeLine, hpieces]
      cases front with
      | nil => rfl
      | cons c front =>
        rw [Scan.stretches_append_mark]
        rfl
    rw [hsplit]
    exact .span (htags hfront) hne hcode ih

/-- Two backticks do not begin the text: the first of them would begin an empty code. -/
theorem ne_cons_cons (h : Paired codes t) (htail : tail.head? ≠ some '\x60') (rest : Text) :
    t ++ tail ≠ '\x60' :: '\x60' :: rest := by
  intro heq
  cases h with
  | plain ht =>
    cases t with
    | nil => exact htail (by rw [← List.nil_append tail, heq]; rfl)
    | cons c t => exact ht ((List.cons.inj heq).1 ▸ List.mem_cons_self)
  | @span front code _ _ hfront hne hcode _ =>
    cases front with
    | nil =>
      obtain ⟨c, code, rfl⟩ := List.exists_cons_of_ne_nil hne
      obtain ⟨rfl, -⟩ := List.cons.inj (List.cons.inj heq).2
      exact hcode List.mem_cons_self
    | cons c front => exact hfront ((List.cons.inj heq).1 ▸ List.mem_cons_self)

/-- No fence stands in the text, whatever follows it. -/
theorem pieces_codeBlock_append (h : Paired codes t) (htail : tail.head? ≠ some '\x60') :
    Scan.pieces codeBlock (t ++ tail) = t.map Piece.plain ++ Scan.pieces codeBlock tail := by
  have hplain {front : Text} (hfront : '\x60' ∉ front) (rest : Text) :
      Scan.pieces codeBlock (front ++ rest) =
        front.map Piece.plain ++ Scan.pieces codeBlock rest :=
    Scan.pieces_append_of_forall looksAhead_codeBlock
      (fun _ hc rest ↦ codeBlock_cons_of_ne (ne_of_mem_of_not_mem hc hfront) rest) rest
  have hcons {rest : Text} (hrest : ∀ more, rest ≠ '\x60' :: '\x60' :: more) :
      Scan.pieces codeBlock ('\x60' :: rest) = .plain '\x60' :: Scan.pieces codeBlock rest :=
    Scan.pieces_cons_of_none looksAhead_codeBlock
      (codeBlock_eq_none fun ⟨more, heq⟩ ↦ hrest more (List.cons.inj heq).2.symm)
  induction h with
  | plain ht => exact hplain ht tail
  | @span front code rest codes hfront hne hcode hrest ih =>
    have hopen (more other : Text) : code ++ more ≠ '\x60' :: '\x60' :: other := by
      obtain ⟨c, code, rfl⟩ := List.exists_cons_of_ne_nil hne
      exact fun heq ↦ hcode ((List.cons.inj heq).1 ▸ List.mem_cons_self)
    have hsplit : front ++ (spanned code ++ rest) ++ tail =
        front ++ '\x60' :: (code ++ '\x60' :: (rest ++ tail)) := by simp [spanned]
    calc
      Scan.pieces codeBlock (front ++ (spanned code ++ rest) ++ tail) =
          front.map Piece.plain ++ .plain '\x60' ::
            Scan.pieces codeBlock (code ++ '\x60' :: (rest ++ tail)) := by
        rw [hsplit, hplain hfront, hcons (hopen _)]
      _ = front.map Piece.plain ++ .plain '\x60' :: (code.map Piece.plain ++
            .plain '\x60' :: (rest.map Piece.plain ++ Scan.pieces codeBlock tail)) := by
        rw [hplain hcode, hcons (hrest.ne_cons_cons htail), ih]
      _ = (front ++ (spanned code ++ rest)).map Piece.plain ++ Scan.pieces codeBlock tail := by
        simp [spanned]

/-- Paired backticks make no block. -/
theorem pieces_codeBlock (h : Paired codes t) : Scan.pieces codeBlock t = t.map Piece.plain := by
  have hpieces := h.pieces_codeBlock_append (show ([] : Text).head? ≠ some '\x60' by simp)
  rwa [List.append_nil, show Scan.pieces codeBlock [] = [] from rfl, List.append_nil] at hpieces

/-- A text with paired backticks keeps them when blocks are read. -/
theorem codeBlocks_eq (h : Paired codes t) : codeBlocks t = t := by
  rw [codeBlocks, Scan.substitute_eq_flatMap, h.pieces_codeBlock, Scan.flatMap_written_plain]

theorem marks_codeBlock (h : Paired codes t) : Scan.marks codeBlock t = [] := by
  rw [Scan.marks, h.pieces_codeBlock, Scan.filterMap_markOf?_plain]

theorem isFence_eq_false (h : Paired codes line) : Fence.isFence line = false := by
  rw [Fence.isFence, Bool.eq_false_iff]
  intro hfence
  obtain ⟨rest, hrest⟩ := Text.startsWith_iff.mp hfence
  have hne := h.strip.ne_cons_cons (show ([] : Text).head? ≠ some '\x60' by simp) ('\x60' :: rest)
  rw [List.append_nil] at hne
  exact hne hrest

/-- A line with codes that stands for no video keeps them, as a heading too. -/
theorem renderedLine {options : Options} (h : Paired codes line)
    (hvideo : '\x60' ∈ line → Video.ofLine? (Text.strip line) = none) :
    Paired codes (renderedLine options line) := by
  by_cases hmem : '\x60' ∈ line
  · have hplain : renderLine options line = Text.strip line := by
      rcases renderLine_cases options line with hplain | ⟨v, hsome, -⟩
      · exact hplain
      · exact absurd ((hvideo hmem).symm.trans hsome) (by simp)
    rw [Markup.renderedLine, hplain]
    rcases headingLine_cases (Text.strip line) with
      heq | ⟨more, tag, title, hmore, htag, hline, heq⟩
    · rw [heq]
      exact h.strip
    · have hsigns : '\x60' ∉ '#' :: more := by
        have hnot : '\x60' ∉ more := not_mem_of_isSignless (by decide) hmore
        simpa using hnot
      have htitle : Paired codes title := (hline ▸ h.strip).of_append_left hsigns
      rw [heq]
      exact htitle.element (not_mem_of_isSignless (by decide) htag)
  · obtain rfl : codes = [] := by
      cases h with
      | plain => rfl
      | span => exact absurd (by simp [spanned]) hmem
    refine .plain fun hrendered ↦ hmem (List.count_pos_iff.mp ?_)
    exact Nat.lt_of_lt_of_le (List.count_pos_iff.mpr hrendered)
      (count_renderedLine_le (by decide) options line)

end Paired

/-! ## Lines -/

/-- The backticks of each line are paired; the codes of all lines are these, in order. -/
inductive PairedLines : List Text → List Text → Prop where
  | nil : PairedLines [] []
  | cons {codes more ls : List Text} {line : Text} (hline : Paired codes line)
      (hrest : PairedLines more ls) : PairedLines (codes ++ more) (line :: ls)

namespace PairedLines

theorem singleton (h : Paired codes line) : PairedLines codes [line] := by
  have hcons := PairedLines.cons h .nil
  rwa [List.append_nil] at hcons

theorem append (h : PairedLines codes ls) (hrest : PairedLines more rest) :
    PairedLines (codes ++ more) (ls ++ rest) := by
  induction h with
  | nil => exact hrest
  | cons hline _ ih =>
    rw [List.append_assoc]
    exact .cons hline ih

theorem of_forall (h : ∀ line ∈ ls, '\x60' ∉ line) : PairedLines [] ls := by
  induction ls with
  | nil => exact .nil
  | cons line ls ih =>
    obtain ⟨hline, hrest⟩ := List.forall_mem_cons.mp h
    have hcons := PairedLines.cons (.plain hline) (ih hrest)
    exact hcons

/-- Each line may be written with something around it. -/
theorem flatMap {write : Text → Text}
    (hwrite : ∀ {codes line}, Paired codes line → Paired codes (write line))
    (h : PairedLines codes ls) : Paired codes (ls.flatMap write) := by
  induction h with
  | nil => exact .plain List.not_mem_nil
  | cons hline _ ih => exact (hwrite hline).append ih

theorem map {write : Text → Text}
    (hwrite : ∀ line ∈ ls, ∀ codes, Paired codes line → Paired codes (write line))
    (h : PairedLines codes ls) : PairedLines codes (ls.map write) := by
  induction h with
  | nil => exact .nil
  | cons hline _ ih =>
    obtain ⟨hfirst, hothers⟩ := List.forall_mem_cons.mp hwrite
    exact .cons (hfirst _ hline) (ih hothers)

theorem join {glue : Text} (hglue : '\x60' ∉ glue) (h : PairedLines codes ls) :
    Paired codes (Text.join glue ls) := by
  induction h with
  | nil => exact .plain List.not_mem_nil
  | @cons codes more ls line hline hrest ih =>
    by_cases hnil : ls = []
    · subst hnil
      cases hrest
      rw [List.append_nil, Text.join_singleton]
      exact hline
    · rw [Text.join_cons hnil]
      exact (hline.append_right hglue).append ih

theorem closeQuote (h : PairedLines codes collected.reverse) :
    PairedLines codes (closeQuote collected) := by
  unfold Markup.closeQuote
  split_ifs with hempty
  · rw [List.isEmpty_iff.mp hempty] at h
    exact h
  · exact .singleton ((h.join (by decide)).element (by decide))

/-- Putting quotes together keeps backticks paired. -/
theorem quotesFrom (hcollected : PairedLines codes collected.reverse) (h : PairedLines more ls) :
    PairedLines (codes ++ more) (quotesFrom collected ls) := by
  induction ls generalizing collected codes more with
  | nil =>
    cases h
    rw [List.append_nil]
    exact hcollected.closeQuote
  | cons line ls ih =>
    cases h with
    | @cons some others _ _ hline hrest =>
      cases hquote : Text.after? "> " line with
      | none =>
        have hnone : PairedLines [] ([] : List Text).reverse := .nil
        rw [quotesFrom_cons_of_none hquote]
        exact hcollected.closeQuote.append (.cons hline (ih hnone hrest))
      | some quoted =>
        rw [quotesFrom_cons_of_some hquote, ← List.append_assoc]
        rw [Text.after?_eq_some_iff.mp hquote] at hline
        refine ih ?_ hrest
        rw [List.reverse_cons]
        exact hcollected.append (.singleton (hline.of_append_left (by decide)))

theorem listHtml (kind : ListKind) (h : PairedLines codes ls) :
    Paired codes (listHtml kind ls) := by
  have htag : '\x60' ∉ kind.tag := by cases kind <;> decide
  exact (h.flatMap fun hitem ↦ hitem.element (by decide)).element htag

theorem closeList {current : OpenList} (h : PairedLines codes (openItems current).reverse) :
    PairedLines codes (closeList current) := by
  rcases current with _ | ⟨kind, items⟩
  · exact h
  · exact .singleton (h.listHtml kind)

/-- Putting lists together keeps backticks paired. -/
theorem listsFrom {current : OpenList} (hcurrent : PairedLines codes (openItems current).reverse)
    (h : PairedLines more ls) : PairedLines (codes ++ more) (listsFrom current ls) := by
  induction ls generalizing current codes more with
  | nil =>
    cases h
    rw [List.append_nil]
    exact hcurrent.closeList
  | cons line ls ih =>
    cases h with
    | @cons some others _ _ hline hrest =>
      cases hitem : item? line with
      | none =>
        have hnone : PairedLines [] (openItems none).reverse := .nil
        rw [listsFrom_cons_of_none hitem]
        exact hcurrent.closeList.append (.cons hline (ih hnone hrest))
      | some found =>
        obtain ⟨mark, hmark, rfl⟩ := exists_append_of_item? hitem
        have hcontent := PairedLines.singleton (hline.of_append_left hmark)
        obtain ⟨closed, items, hcons, ⟨rfl, rfl⟩ | ⟨rfl, rfl⟩⟩ :=
          exists_listsFrom_cons hitem current
        · rw [hcons]
          exact hcurrent.closeList.append (ih hcontent hrest)
        · rw [hcons, ← List.append_assoc]
          refine ih ?_ hrest
          rw [openItems, List.reverse_cons]
          exact hcurrent.append hcontent

/-- Quotes and lists keep the codes of their lines, in order. -/
theorem grouped (h : PairedLines codes ls) : PairedLines codes (grouped ls) :=
  have hquotes : PairedLines [] ([] : List Text).reverse := .nil
  have hlists : PairedLines [] (openItems none).reverse := .nil
  hlists.listsFrom (hquotes.quotesFrom h)

end PairedLines

end PluginReadme.Markup
