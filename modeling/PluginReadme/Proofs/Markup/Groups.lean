import PluginReadme.Proofs.Markup.Escape
import PluginReadme.Proofs.Markup.Item

/-!
# Quotes and lists

A line that is neither quoted nor an item stays as it is and parts the lines before it from those
after it (`grouped_append_cons`). Any other line becomes part of an element, which begins with an
angle bracket although the line did not (`exists_grouped_of_not_standsAlone`). No sign of the marks
that are read across lines is written (`count_grouped_le`).
-/

namespace PluginReadme.Markup

variable {c : Char} {line t : Text} {ls rest collected : List Text}

/-! ## Quotes and lists -/

/-- The line is neither quoted nor an item of a list. -/
def StandsAlone (line : Text) : Prop := Text.after? "> " line = none ∧ item? line = none

def grouped (ls : List Text) : List Text := lists (quotes ls)

theorem quotesFrom_cons_of_none (h : Text.after? "> " line = none) :
    quotesFrom collected (line :: rest) = closeQuote collected ++ line :: quotes rest := by
  simp only [quotesFrom, h]
  rfl

theorem quotesFrom_cons_of_some {quoted : Text} (h : Text.after? "> " line = some quoted) :
    quotesFrom collected (line :: rest) = quotesFrom (quoted :: collected) rest := by
  simp only [quotesFrom, h]

theorem listsFrom_cons_of_none {current : OpenList} (h : item? line = none) :
    listsFrom current (line :: rest) = closeList current ++ line :: lists rest := by
  simp only [listsFrom, h]
  rfl

/-- An item continues the list that is open, or closes it and opens another one. -/
theorem exists_listsFrom_cons {kind : ListKind} {item : Text} (h : item? line = some (kind, item))
    (current : OpenList) : ∃ closed items,
      (∀ rest, listsFrom current (line :: rest) =
        closed ++ listsFrom (some (kind, item :: items)) rest) ∧
      (closed = closeList current ∧ items = [] ∨ closed = [] ∧ current = some (kind, items)) := by
  rcases current with _ | ⟨other, items⟩
  · exact ⟨[], [], fun rest ↦ by simp only [listsFrom, h]; rfl, .inl ⟨rfl, rfl⟩⟩
  · by_cases hkind : kind = other
    · subst hkind
      exact ⟨[], items, fun rest ↦ by simp only [listsFrom, h, if_true]; rfl, .inr ⟨rfl, rfl⟩⟩
    · exact ⟨closeList (some (other, items)), [],
        fun rest ↦ by simp only [listsFrom, h, if_neg hkind], .inl ⟨rfl, rfl⟩⟩

/-- A line that is not quoted ends a quote, and nothing before it matters afterwards. -/
theorem quotesFrom_append_cons (h : Text.after? "> " line = none) (collected ls rest : List Text) :
    quotesFrom collected (ls ++ line :: rest) = quotesFrom collected ls ++ line :: quotes rest := by
  induction ls generalizing collected with
  | nil => exact quotesFrom_cons_of_none h
  | cons first ls ih =>
    rw [List.cons_append]
    cases hfirst : Text.after? "> " first with
    | none =>
      calc
        quotesFrom collected (first :: (ls ++ line :: rest)) =
            closeQuote collected ++ first :: quotesFrom [] (ls ++ line :: rest) :=
          quotesFrom_cons_of_none hfirst
        _ = closeQuote collected ++ first :: (quotesFrom [] ls ++ line :: quotes rest) := by
          rw [ih]
        _ = quotesFrom collected (first :: ls) ++ line :: quotes rest := by
          rw [quotesFrom_cons_of_none hfirst, List.append_assoc, List.cons_append]
          rfl
    | some quoted => rw [quotesFrom_cons_of_some hfirst, quotesFrom_cons_of_some hfirst, ih]

/-- A line that is no item ends a list, and nothing before it matters afterwards. -/
theorem listsFrom_append_cons (h : item? line = none) (current : OpenList) (ls rest : List Text) :
    listsFrom current (ls ++ line :: rest) = listsFrom current ls ++ line :: lists rest := by
  induction ls generalizing current with
  | nil => exact listsFrom_cons_of_none h
  | cons first ls ih =>
    cases hfirst : item? first with
    | none =>
      calc
        listsFrom current (first :: (ls ++ line :: rest)) =
            closeList current ++ first :: listsFrom none (ls ++ line :: rest) :=
          listsFrom_cons_of_none hfirst
        _ = closeList current ++ first :: (listsFrom none ls ++ line :: lists rest) := by
          rw [ih]
        _ = listsFrom current (first :: ls) ++ line :: lists rest := by
          rw [listsFrom_cons_of_none hfirst, List.append_assoc, List.cons_append]
          rfl
    | some found =>
      obtain ⟨closed, items, hcons, -⟩ := exists_listsFrom_cons hfirst current
      rw [List.cons_append, hcons, hcons, ih, List.append_assoc]

/-- A line that stands alone parts the lines around it. -/
theorem grouped_append_cons (h : StandsAlone line) (ls rest : List Text) :
    grouped (ls ++ line :: rest) = grouped ls ++ line :: grouped rest := by
  rw [grouped, quotes, quotesFrom_append_cons h.1, lists, listsFrom_append_cons h.2]
  rfl

theorem grouped_nil : grouped [] = [] := rfl

theorem grouped_cons (h : StandsAlone line) (rest : List Text) :
    grouped (line :: rest) = line :: grouped rest :=
  grouped_append_cons h [] rest

/-- Lines that stand alone stay. -/
theorem grouped_of_forall (h : ∀ line ∈ ls, StandsAlone line) : grouped ls = ls := by
  induction ls with
  | nil => rfl
  | cons line ls ih =>
    obtain ⟨hline, hrest⟩ := List.forall_mem_cons.mp h
    rw [grouped_cons hline, ih hrest]

theorem standsAlone_nil : StandsAlone [] := ⟨rfl, rfl⟩

theorem standsAlone_of_backtick (rest : Text) : StandsAlone ('\x60' :: rest) := ⟨rfl, rfl⟩

/-- Empty lines around others stay where they are. -/
theorem grouped_padded (before after : Nat) (ls : List Text) :
    grouped (List.replicate before [] ++ ls ++ List.replicate after []) =
      List.replicate before [] ++ grouped ls ++ List.replicate after [] := by
  have hfront (ls : List Text) : grouped (List.replicate before [] ++ ls) =
      List.replicate before [] ++ grouped ls := by
    induction before with
    | zero => rfl
    | succ n ih => rw [List.replicate_succ, List.cons_append, grouped_cons standsAlone_nil, ih]; rfl
  have hback : grouped (ls ++ List.replicate after []) =
      grouped ls ++ List.replicate after [] := by
    cases after with
    | zero => simp
    | succ n =>
      have hblank : ∀ line ∈ List.replicate n ([] : Text), StandsAlone line := by
        intro line hline
        rw [List.eq_of_mem_replicate hline]
        exact standsAlone_nil
      rw [List.replicate_succ, grouped_append_cons standsAlone_nil, grouped_of_forall hblank]
  rw [List.append_assoc, hfront, hback, List.append_assoc]

/-! ## Elements in the place of lines -/

/-- The text begins and ends as an element does. -/
structure IsElement (t : Text) : Prop where
  head : t.head? = some '<'
  last : t.getLast? = some '>'

theorem isElement_element (tag inside : Text) : IsElement (element tag inside) where
  head := rfl
  last := by
    rw [element, List.getLast?_append]
    rfl

theorem IsElement.isTrimmed (h : IsElement t) : Text.IsTrimmed isBlank t where
  head := fun _ hc ↦ Option.some.inj (h.head.symm.trans hc) ▸ by decide
  last := fun _ hc ↦ Option.some.inj (h.last.symm.trans hc) ▸ by decide

theorem IsElement.ne_nil (h : IsElement t) : t ≠ [] := fun hnil ↦ by simpa [hnil] using h.head

theorem IsElement.standsAlone (h : IsElement t) : StandsAlone t := by
  obtain ⟨rest, rfl⟩ := List.head?_eq_some_iff.mp h.head
  exact ⟨rfl, rfl⟩

/-- A quote begins and ends as an element does. -/
theorem isElement_quoteHtml (ls : List Text) : IsElement (quoteHtml ls) := isElement_element _ _

/-- A list begins and ends as an element does. -/
theorem isElement_listHtml (kind : ListKind) (items : List Text) :
    IsElement (listHtml kind items) :=
  isElement_element _ _

theorem exists_quotesFrom (h : collected ≠ []) (ls : List Text) :
    ∃ first more, quotesFrom collected ls = first :: more ∧ IsElement first := by
  induction ls generalizing collected with
  | nil =>
    refine ⟨quoteHtml collected.reverse, [], ?_, isElement_quoteHtml _⟩
    simp [quotesFrom, closeQuote, h]
  | cons line ls ih =>
    rw [quotesFrom]
    split
    · exact ih (List.cons_ne_nil _ _)
    · refine ⟨quoteHtml collected.reverse, line :: quotesFrom [] ls, ?_, isElement_quoteHtml _⟩
      simp [closeQuote, h]

theorem exists_listsFrom (kind : ListKind) (items ls : List Text) :
    ∃ first more, listsFrom (some (kind, items)) ls = first :: more ∧ IsElement first := by
  induction ls generalizing kind items with
  | nil => exact ⟨listHtml kind items.reverse, [], rfl, isElement_listHtml _ _⟩
  | cons line ls ih =>
    cases hitem : item? line with
    | none =>
      exact ⟨_, _, listsFrom_cons_of_none hitem, isElement_listHtml kind items.reverse⟩
    | some found =>
      obtain ⟨closed, others, hcons, ⟨rfl, rfl⟩ | ⟨rfl, -⟩⟩ :=
        exists_listsFrom_cons hitem (some (kind, items))
      · exact ⟨_, _, hcons ls, isElement_listHtml kind items.reverse⟩
      · obtain ⟨first, more, hmore, hfirst⟩ := ih found.1 (found.2 :: others)
        exact ⟨first, more, (hcons ls).trans hmore, hfirst⟩

/-- A quoted line or an item becomes part of an element. -/
theorem exists_grouped_of_not_standsAlone (h : ¬ StandsAlone line) (rest : List Text) :
    ∃ first more, grouped (line :: rest) = first :: more ∧ IsElement first := by
  cases hquote : Text.after? "> " line with
  | some quoted =>
    obtain ⟨first, more, hquotes, hfirst⟩ := exists_quotesFrom (List.cons_ne_nil quoted []) rest
    refine ⟨first, lists more, ?_, hfirst⟩
    rw [grouped, quotes, quotesFrom, hquote]
    simp only [hquotes]
    exact listsFrom_append_cons hfirst.standsAlone.2 none [] more
  | none =>
    cases hitem : item? line with
    | none => exact absurd ⟨hquote, hitem⟩ h
    | some found =>
      obtain ⟨closed, items, hcons, ⟨rfl, rfl⟩ | ⟨-, hnone⟩⟩ := exists_listsFrom_cons hitem none
      · obtain ⟨first, more, hlists, hfirst⟩ := exists_listsFrom found.1 [found.2] (quotes rest)
        refine ⟨first, more, ?_, hfirst⟩
        rw [grouped, show quotes (line :: rest) = line :: quotes rest from
          quotesFrom_append_cons hquote [] [] rest, lists, hcons]
        exact hlists
      · exact absurd hnone (by simp)

theorem grouped_ne_nil (h : ls ≠ []) : grouped ls ≠ [] := by
  obtain ⟨line, rest, rfl⟩ := List.exists_cons_of_ne_nil h
  by_cases hline : StandsAlone line
  · rw [grouped_cons hline]
    exact List.cons_ne_nil _ _
  · obtain ⟨first, more, hgrouped, -⟩ := exists_grouped_of_not_standsAlone hline rest
    rw [hgrouped]
    exact List.cons_ne_nil _ _

/-- After quotes were put together, a line is one of the lines or an element. -/
theorem mem_quotesFrom (h : line ∈ quotesFrom collected ls) : line ∈ ls ∨ IsElement line := by
  have hclose (collected : List Text) : line ∈ closeQuote collected → IsElement line := by
    intro hmem
    unfold closeQuote at hmem
    split_ifs at hmem
    · exact absurd hmem List.not_mem_nil
    · exact List.mem_singleton.mp hmem ▸ isElement_quoteHtml _
  induction ls generalizing collected with
  | nil => exact .inr (hclose collected h)
  | cons first ls ih =>
    cases hfirst : Text.after? "> " first with
    | none =>
      rw [quotesFrom_cons_of_none hfirst, List.mem_append, List.mem_cons] at h
      rcases h with h | rfl | h
      · exact .inr (hclose collected h)
      · exact .inl List.mem_cons_self
      · exact (ih h).imp_left (List.mem_cons_of_mem first)
    | some quoted =>
      rw [quotesFrom_cons_of_some hfirst] at h
      exact (ih h).imp_left (List.mem_cons_of_mem first)

theorem mem_closeList {current : OpenList} (h : line ∈ closeList current) : IsElement line := by
  rcases current with _ | ⟨kind, items⟩
  · exact absurd h List.not_mem_nil
  · exact List.mem_singleton.mp h ▸ isElement_listHtml _ _

/-- After lists were put together, a line is one of the lines or an element. -/
theorem mem_listsFrom {current : OpenList} (h : line ∈ listsFrom current ls) :
    line ∈ ls ∨ IsElement line := by
  induction ls generalizing current with
  | nil => exact .inr (mem_closeList h)
  | cons first ls ih =>
    cases hfirst : item? first with
    | none =>
      rw [listsFrom_cons_of_none hfirst, List.mem_append, List.mem_cons] at h
      rcases h with h | rfl | h
      · exact .inr (mem_closeList h)
      · exact .inl List.mem_cons_self
      · exact (ih h).imp_left (List.mem_cons_of_mem first)
    | some found =>
      obtain ⟨closed, items, hcons, hclosed⟩ := exists_listsFrom_cons hfirst current
      rw [hcons, List.mem_append] at h
      rcases h with h | h
      · rcases hclosed with ⟨rfl, -⟩ | ⟨rfl, -⟩
        · exact .inr (mem_closeList h)
        · exact absurd h List.not_mem_nil
      · exact (ih h).imp_left (List.mem_cons_of_mem first)

/-- Every line that quotes and lists leave is a line that was there or an element. -/
theorem mem_grouped (h : line ∈ grouped ls) : line ∈ ls ∨ IsElement line := by
  rcases mem_listsFrom h with h | h
  · exact mem_quotesFrom h
  · exact .inr h

/-! ## Signs that no pass writes -/

/-- Line feeds and the signs of the marks that are read across lines: no pass over lines writes one
of them into a line. -/
def keptSigns : Text := "\n\x60[*"

def isSignless (t : Text) : Bool := t.all fun c ↦ !keptSigns.contains c

theorem not_mem_of_isSignless (hc : c ∈ keptSigns) (h : isSignless t = true) : c ∉ t := by
  intro hmem
  have hother := List.all_eq_true.mp h c hmem
  rw [Bool.not_eq_true', ← Bool.not_eq_true, List.contains_iff_mem] at hother
  exact hother hc

theorem count_of_isSignless (hc : c ∈ keptSigns) (h : isSignless t = true) : t.count c = 0 :=
  List.count_eq_zero.mpr (not_mem_of_isSignless hc h)

/-- Elements keep the signs that are read across lines. -/
theorem count_element {tag : Text} (hc : c ∈ keptSigns) (htag : isSignless tag = true)
    (inside : Text) : (element tag inside).count c = inside.count c := by
  have hless : ['<'].count c = 0 := count_of_isSignless hc (by decide)
  have hgreater : ['>'].count c = 0 := count_of_isSignless hc (by decide)
  have hclose : ("</" : Text).count c = 0 := count_of_isSignless hc (by decide)
  have hend : (">" : Text).count c = 0 := count_of_isSignless hc (by decide)
  have hsplit : element tag inside = ['<'] ++ tag ++ ['>'] ++ inside ++ "</" ++ tag ++ ">" := by
    simp [element]
  rw [hsplit]
  simp only [List.count_append, hless, hgreater, hclose, hend, count_of_isSignless hc htag,
    Nat.zero_add, Nat.add_zero]

theorem count_join {glue : Text} (hglue : glue.count c = 0) (ls : List Text) :
    (Text.join glue ls).count c = ls.flatten.count c := by
  induction ls with
  | nil => rfl
  | cons line ls ih =>
    by_cases hnil : ls = []
    · simp [hnil, Text.join_singleton]
    · calc
        (Text.join glue (line :: ls)).count c =
            line.count c + glue.count c + (Text.join glue ls).count c := by
          rw [Text.join_cons hnil, List.count_append, List.count_append]
        _ = line.count c + ls.flatten.count c := by rw [hglue, Nat.add_zero, ih]
        _ = (line :: ls).flatten.count c := by rw [List.flatten_cons, List.count_append]

theorem count_flatten_reverse (ls : List Text) : ls.reverse.flatten.count c = ls.flatten.count c :=
  ((List.reverse_perm ls).flatten).count_eq c

theorem count_quoteHtml (hc : c ∈ keptSigns) (ls : List Text) :
    (quoteHtml ls).count c = ls.flatten.count c := by
  rw [quoteHtml, count_element hc (by decide), count_join (count_of_isSignless hc (by decide))]

theorem count_closeQuote (hc : c ∈ keptSigns) (collected : List Text) :
    (closeQuote collected).flatten.count c = collected.flatten.count c := by
  unfold closeQuote
  split_ifs with h
  · rw [List.isEmpty_iff.mp h]
  · rw [List.flatten_singleton, count_quoteHtml hc, count_flatten_reverse]

theorem count_quotesFrom_le (hc : c ∈ keptSigns) (collected ls : List Text) :
    (quotesFrom collected ls).flatten.count c ≤
      collected.flatten.count c + ls.flatten.count c := by
  induction ls generalizing collected with
  | nil => exact (count_closeQuote hc collected).le
  | cons line ls ih =>
    rw [List.flatten_cons, List.count_append]
    cases hquote : Text.after? "> " line with
    | none =>
      have hrest : (quotes ls).flatten.count c ≤ ls.flatten.count c := by
        simpa [quotes] using ih []
      calc
        (quotesFrom collected (line :: ls)).flatten.count c =
            collected.flatten.count c + (line.count c + (quotes ls).flatten.count c) := by
          rw [quotesFrom_cons_of_none hquote, List.flatten_append, List.count_append,
            count_closeQuote hc, List.flatten_cons, List.count_append]
        _ ≤ collected.flatten.count c + (line.count c + ls.flatten.count c) := by omega
    | some quoted =>
      have hrest := ih (quoted :: collected)
      obtain rfl := Text.after?_eq_some_iff.mp hquote
      rw [List.flatten_cons, List.count_append] at hrest
      rw [quotesFrom_cons_of_some hquote, List.count_append]
      omega

/-- In front of the content of an item stands its mark, which has no backtick. -/
theorem exists_append_of_item? {kind : ListKind} {item : Text}
    (h : item? line = some (kind, item)) :
    ∃ mark, '\x60' ∉ mark ∧ line = mark ++ item := by
  have hblank {blanks : Text} (hitem : IsSetOff blanks item) : '\x60' ∉ blanks :=
    fun hmem ↦ absurd (hitem.isBlank _ hmem) (by decide)
  cases item?_eq_some_iff.mp h with
  | @ordered number blanks _ _ hnumber hitem =>
    have hdecimal : '\x60' ∉ number := fun hmem ↦ absurd (hnumber _ hmem) (by decide)
    refine ⟨number ++ '.' :: blanks, ?_, by simp⟩
    simpa using ⟨hdecimal, hblank hitem⟩
  | @unordered mark blanks _ hmark hitem =>
    refine ⟨mark :: blanks, ?_, rfl⟩
    rcases hmark with rfl | rfl
    · simpa using hblank hitem
    · simpa using hblank hitem

theorem count_listHtml (hc : c ∈ keptSigns) (kind : ListKind) (items : List Text) :
    (listHtml kind items).count c = items.flatten.count c := by
  have htag : isSignless kind.tag = true := by cases kind <;> decide
  rw [listHtml, count_element hc htag]
  induction items with
  | nil => rfl
  | cons item items ih =>
    calc
      ((item :: items).flatMap (element "li")).count c =
          (element "li" item).count c + (items.flatMap (element "li")).count c := by
        rw [List.flatMap_cons, List.count_append]
      _ = item.count c + items.flatten.count c := by rw [count_element hc (by decide), ih]
      _ = (item :: items).flatten.count c := by rw [List.flatten_cons, List.count_append]

def openItems : OpenList → List Text
  | some (_, items) => items
  | none => []

theorem count_closeList (hc : c ∈ keptSigns) (current : OpenList) :
    (closeList current).flatten.count c = (openItems current).flatten.count c := by
  rcases current with _ | ⟨kind, items⟩
  · rfl
  · rw [closeList, List.flatten_singleton, count_listHtml hc, count_flatten_reverse, openItems]

theorem count_listsFrom_le (hc : c ∈ keptSigns) (current : OpenList) (ls : List Text) :
    (listsFrom current ls).flatten.count c ≤
      (openItems current).flatten.count c + ls.flatten.count c := by
  induction ls generalizing current with
  | nil => exact (count_closeList hc current).le
  | cons line ls ih =>
    rw [List.flatten_cons, List.count_append]
    cases hitem : item? line with
    | none =>
      have hrest : (lists ls).flatten.count c ≤ ls.flatten.count c := by
        simpa [lists, openItems] using ih none
      calc
        (listsFrom current (line :: ls)).flatten.count c =
            (openItems current).flatten.count c + (line.count c + (lists ls).flatten.count c) := by
          rw [listsFrom_cons_of_none hitem, List.flatten_append, List.count_append,
            count_closeList hc, List.flatten_cons, List.count_append]
        _ ≤ (openItems current).flatten.count c + (line.count c + ls.flatten.count c) := by omega
    | some found =>
      obtain ⟨closed, items, hcons, hclosed⟩ := exists_listsFrom_cons hitem current
      have hrest := ih (some (found.1, found.2 :: items))
      obtain ⟨mark, -, hmark⟩ := exists_append_of_item? hitem
      have hline := congrArg (List.count c) hmark
      rw [List.count_append] at hline
      rw [hcons, List.flatten_append, List.count_append]
      rw [openItems, List.flatten_cons, List.count_append] at hrest
      rcases hclosed with ⟨rfl, rfl⟩ | ⟨rfl, rfl⟩
      · rw [count_closeList hc]
        simp only [List.flatten_nil, List.count_nil] at hrest
        omega
      · simp only [List.flatten_nil, List.count_nil, openItems]
        omega

/-- Putting quotes and lists together adds none of the signs that are read across lines. -/
theorem count_grouped_le (hc : c ∈ keptSigns) (ls : List Text) :
    (grouped ls).flatten.count c ≤ ls.flatten.count c := by
  have hquotes := count_quotesFrom_le hc [] ls
  have hlists := count_listsFrom_le hc none (quotes ls)
  simp only [List.flatten_nil, List.count_nil, openItems, Nat.zero_add] at hquotes hlists
  exact hlists.trans hquotes

theorem not_mem_of_count_le {out : Text} (hle : out.count c ≤ t.count c) (h : c ∉ t) :
    c ∉ out := by
  rw [List.count_eq_zero.mpr h] at hle
  exact List.count_eq_zero.mp (Nat.le_zero.mp hle)

/-- Lines that have no more line feeds in all than lines without any have none themselves. -/
theorem feed_not_mem_of_count_le {out : List Text}
    (hle : out.flatten.count '\n' ≤ ls.flatten.count '\n') (hls : ∀ line ∈ ls, '\n' ∉ line)
    (h : line ∈ out) : '\n' ∉ line := by
  have hnone : '\n' ∉ ls.flatten := by
    rw [List.mem_flatten]
    rintro ⟨other, hother, hmem⟩
    exact hls other hother hmem
  intro hmem
  exact not_mem_of_count_le hle hnone (List.mem_flatten.mpr ⟨line, h, hmem⟩)

/-- Quotes and lists are put together on one line each. -/
theorem feed_not_mem_of_mem_grouped (hls : ∀ line ∈ ls, '\n' ∉ line) (h : line ∈ grouped ls) :
    '\n' ∉ line :=
  feed_not_mem_of_count_le (count_grouped_le (by decide) ls) hls h

theorem length_quotesFrom_le (collected ls : List Text) :
    (quotesFrom collected ls).length ≤ (closeQuote collected).length + ls.length := by
  induction ls generalizing collected with
  | nil => exact Nat.le_refl _
  | cons line ls ih =>
    cases hquote : Text.after? "> " line with
    | none =>
      have hrest := ih []
      rw [show (closeQuote []).length = 0 from rfl] at hrest
      rw [quotesFrom_cons_of_none hquote, List.length_append, List.length_cons, List.length_cons,
        quotes]
      omega
    | some quoted =>
      have hrest := ih (quoted :: collected)
      rw [show (closeQuote (quoted :: collected)).length = 1 from rfl] at hrest
      rw [quotesFrom_cons_of_some hquote, List.length_cons]
      omega

theorem length_listsFrom_le (current : OpenList) (ls : List Text) :
    (listsFrom current ls).length ≤ (closeList current).length + ls.length := by
  induction ls generalizing current with
  | nil => exact Nat.le_refl _
  | cons line ls ih =>
    rw [List.length_cons]
    cases hitem : item? line with
    | none =>
      have hrest := ih none
      rw [show (closeList none).length = 0 from rfl] at hrest
      rw [listsFrom_cons_of_none hitem, List.length_append, List.length_cons, lists]
      omega
    | some found =>
      obtain ⟨closed, items, hcons, hclosed⟩ := exists_listsFrom_cons hitem current
      have hrest := ih (some (found.1, found.2 :: items))
      rw [show (closeList (some (found.1, found.2 :: items))).length = 1 from rfl] at hrest
      rw [hcons, List.length_append]
      rcases hclosed with ⟨rfl, -⟩ | ⟨rfl, -⟩
      · omega
      · rw [List.length_nil]
        omega

/-- Quotes and lists take lines together and add none. -/
theorem length_grouped_le (ls : List Text) : (grouped ls).length ≤ ls.length := by
  have hquotes := length_quotesFrom_le [] ls
  have hlists := length_listsFrom_le none (quotes ls)
  rw [show (closeQuote []).length = 0 from rfl, Nat.zero_add] at hquotes
  rw [show (closeList none).length = 0 from rfl, Nat.zero_add] at hlists
  exact hlists.trans hquotes

end PluginReadme.Markup
