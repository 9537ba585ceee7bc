import Mathlib.Data.List.SplitBy
import PluginReadme.Proofs.Markup.Lines

/-!
# Runs of quoted lines and of items

Quotes and lists are collected line by line, but what becomes of a text can be said run by run: the
lines fall into maximal runs of one kind (`runsBy`), a run of quoted lines or of items of one kind
becomes one element, and other lines stay. What is open when a run ends holds all of the run, and
the run behind it starts with nothing open (`quotes_append`, `lists_append`); that this settles all
texts is said once for both (`runs_induction`).
-/

namespace PluginReadme

/-! ## Maximal runs -/

section Runs

variable {α β : Type} [DecidableEq β]

/-- The maximal runs of neighbouring entries with the same key. -/
def runsBy (key : α → β) (ls : List α) : List (List α) := ls.splitBy fun a b ↦ key a = key b

/-- A run ends where the key changes. -/
theorem runsBy_append {key : α → β} {k : β} {run rest : List α} (hne : run ≠ [])
    (hrun : ∀ a ∈ run, key a = k) (hrest : ∀ a ∈ rest.head?, key a ≠ k) :
    runsBy key (run ++ rest) = run :: runsBy key rest := by
  have hchain : run.IsChain fun a b ↦ decide (key a = key b) = true := by
    refine (List.pairwise_of_forall_mem_list fun a ha b hb ↦ ?_).isChain
    rw [decide_eq_true_eq, hrun a ha, hrun b hb]
  have hcut : ∀ a ∈ run.getLast?, ∀ b ∈ rest.head?, decide (key a = key b) = false := by
    intro a ha b hb
    rw [decide_eq_false_iff_not, hrun a (List.mem_of_getLast? ha)]
    exact Ne.symm (hrest b hb)
  rw [runsBy, List.splitBy_append hcut, List.splitBy_of_isChain hne hchain]
  rfl

/-- What holds of no entries, and of a run and the rest behind it if it holds of the rest, holds of
all lists. -/
theorem runs_induction {motive : List α → Prop} (key : α → β) (nil : motive [])
    (append : ∀ (k : β) (run rest : List α), run ≠ [] → (∀ a ∈ run, key a = k) →
      (∀ a ∈ rest.head?, key a ≠ k) → motive rest → motive (run ++ rest)) (ls : List α) :
    motive ls := by
  induction hlength : ls.length using Nat.strong_induction_on generalizing ls with
  | _ n ih =>
    cases ls with
    | nil => exact nil
    | cons first more =>
      let same (a : α) : Bool := key a = key first
      have hrest : (more.dropWhile same).length < n := by
        have hle := (List.dropWhile_suffix same (l := more)).length_le
        rw [List.length_cons] at hlength
        omega
      rw [← List.takeWhile_append_dropWhile (p := same) (l := more), ← List.cons_append]
      refine append (key first) _ _ (List.cons_ne_nil _ _) ?_ ?_ (ih _ hrest _ rfl)
      · refine List.forall_mem_cons.mpr ⟨rfl, fun a ha ↦ ?_⟩
        exact of_decide_eq_true (List.all_eq_true.mp List.all_takeWhile a ha)
      · intro a ha
        have hother := List.head?_dropWhile_not same more
        rw [Option.mem_def.mp ha] at hother
        exact of_decide_eq_false hother

end Runs

namespace Markup

variable {line : Text} {ls run rest : List Text} {kind : ListKind}

/-! ## Elements -/

theorem element_eq (tag inside : Text) :
    element tag inside = "<" ++ tag ++ ">" ++ inside ++ ("</" ++ tag ++ ">") := by
  simp [element]

/-! ## Quotes -/

def isQuoted (line : Text) : Bool := Text.startsWith "> " line

/-- What a run of lines becomes, of which all or none are quoted. -/
def quoteOfRun (run : List Text) : List Text :=
  if run.any isQuoted then
    ["<blockquote>" ++ Text.join "<br>" (run.map fun line ↦ line.drop 2) ++ "</blockquote>"]
  else run

def quotesByRuns (ls : List Text) : List Text := (runsBy isQuoted ls).flatMap quoteOfRun

theorem after?_of_isQuoted (h : isQuoted line = true) :
    Text.after? "> " line = some (line.drop 2) := by
  obtain ⟨quoted, rfl⟩ := Text.startsWith_iff.mp h
  exact Text.after?_eq_some_iff.mpr rfl

theorem after?_of_not_isQuoted (h : isQuoted line ≠ true) : Text.after? "> " line = none := by
  rw [Option.eq_none_iff_forall_ne_some]
  intro quoted hquoted
  exact h (Text.startsWith_iff.mpr ⟨quoted, Text.after?_eq_some_iff.mp hquoted⟩)

/-- The lines of a run are collected, last first. -/
theorem quotesFrom_append (hrun : ∀ line ∈ run, isQuoted line = true) (collected rest : List Text) :
    quotesFrom collected (run ++ rest) =
      quotesFrom ((run.map fun line ↦ line.drop 2).reverse ++ collected) rest := by
  induction run generalizing collected with
  | nil => rfl
  | cons line run ih =>
    obtain ⟨hline, hrun⟩ := List.forall_mem_cons.mp hrun
    calc
      quotesFrom collected (line :: run ++ rest) =
          quotesFrom (line.drop 2 :: collected) (run ++ rest) :=
        quotesFrom_cons_of_some (after?_of_isQuoted hline)
      _ = quotesFrom ((run.map (·.drop 2)).reverse ++ line.drop 2 :: collected) rest := ih hrun _
      _ = quotesFrom (((line :: run).map (·.drop 2)).reverse ++ collected) rest := by
        rw [List.map_cons, List.reverse_cons, List.append_assoc, List.singleton_append]

/-- Where no quoted line follows, the quote that is open ends. -/
theorem quotesFrom_of_head (h : ∀ line ∈ rest.head?, isQuoted line ≠ true)
    (collected : List Text) : quotesFrom collected rest = closeQuote collected ++ quotes rest := by
  cases rest with
  | nil => exact (List.append_nil _).symm
  | cons line rest =>
    have hline := after?_of_not_isQuoted (h line rfl)
    rw [quotes, quotesFrom_cons_of_none hline, quotesFrom_cons_of_none hline]
    rfl

theorem quotes_append_of_not_isQuoted (hrun : ∀ line ∈ run, isQuoted line ≠ true)
    (rest : List Text) : quotes (run ++ rest) = run ++ quotes rest := by
  induction run with
  | nil => rfl
  | cons line run ih =>
    obtain ⟨hline, hrun⟩ := List.forall_mem_cons.mp hrun
    rw [List.cons_append, quotes, quotesFrom_cons_of_none (after?_of_not_isQuoted hline), ih hrun]
    rfl

/-- A maximal run of lines that are all quoted, or all not, is put together by itself. -/
theorem quotes_append {quoted : Bool} (hne : run ≠ []) (hrun : ∀ line ∈ run, isQuoted line = quoted)
    (hrest : ∀ line ∈ rest.head?, isQuoted line ≠ quoted) :
    quotes (run ++ rest) = quoteOfRun run ++ quotes rest := by
  cases quoted with
  | false =>
    have hplain : ∀ line ∈ run, isQuoted line ≠ true := fun line hline ↦ by simp [hrun line hline]
    rw [quoteOfRun, if_neg (by simpa using hrun)]
    exact quotes_append_of_not_isQuoted hplain rest
  | true =>
    obtain ⟨first, hfirst⟩ := List.exists_mem_of_ne_nil run hne
    have hany : run.any isQuoted = true := List.any_eq_true.mpr ⟨first, hfirst, hrun first hfirst⟩
    calc
      quotes (run ++ rest) = closeQuote (run.map (·.drop 2)).reverse ++ quotes rest := by
        rw [quotes, quotesFrom_append hrun, quotesFrom_of_head hrest, List.append_nil]
      _ = quoteHtml (run.map (·.drop 2)) :: quotes rest := by
        rw [closeQuote, if_neg (by simpa using hne), List.reverse_reverse, List.singleton_append]
      _ = quoteOfRun run ++ quotes rest := by
        rw [quoteOfRun, if_pos hany, quoteHtml, element_eq]
        rfl

/-- The loop over lines puts together the maximal runs of quoted ones. -/
theorem quotes_eq_quotesByRuns (ls : List Text) : quotes ls = quotesByRuns ls := by
  induction ls using runs_induction isQuoted with
  | nil => rfl
  | append quoted run rest hne hrun hrest ih =>
    calc
      quotes (run ++ rest) = quoteOfRun run ++ quotesByRuns rest := by
        rw [quotes_append hne hrun hrest, ih]
      _ = quotesByRuns (run ++ rest) := by
        rw [quotesByRuns, quotesByRuns, runsBy_append hne hrun hrest, List.flatMap_cons]

/-! ## Lists -/

/-- The kind of list that a line is an item of. -/
def itemKind? (line : Text) : Option ListKind := (item? line).map (·.1)

def itemText (line : Text) : Text := ((item? line).map (·.2)).getD line

def entryHtml (line : Text) : Text := "<li>" ++ itemText line ++ "</li>"

/-- What a run of lines becomes that are items of one kind, or no items at all. -/
def listOfRun (run : List Text) : List Text :=
  match run.head?.bind itemKind? with
  | some .ordered => ["<ol>" ++ run.flatMap entryHtml ++ "</ol>"]
  | some .unordered => ["<ul>" ++ run.flatMap entryHtml ++ "</ul>"]
  | none => run

def listsByRuns (ls : List Text) : List Text := (runsBy itemKind? ls).flatMap listOfRun

theorem item?_of_itemKind? (h : itemKind? line = some kind) :
    item? line = some (kind, itemText line) := by
  obtain ⟨found, hfound, rfl⟩ := Option.map_eq_some_iff.mp h
  rw [itemText, hfound]
  rfl

theorem listsFrom_append (hrun : ∀ line ∈ run, itemKind? line = some kind)
    (items rest : List Text) : listsFrom (some (kind, items)) (run ++ rest) =
      listsFrom (some (kind, (run.map itemText).reverse ++ items)) rest := by
  induction run generalizing items with
  | nil => rfl
  | cons line run ih =>
    obtain ⟨hline, hrun⟩ := List.forall_mem_cons.mp hrun
    simp only [List.cons_append, listsFrom, item?_of_itemKind? hline, if_true]
    rw [ih hrun, List.map_cons, List.reverse_cons, List.append_assoc, List.singleton_append]

/-- Where no item of the same kind follows, the list that is open ends. -/
theorem listsFrom_of_head (h : ∀ line ∈ rest.head?, itemKind? line ≠ some kind)
    (items : List Text) :
    listsFrom (some (kind, items)) rest = listHtml kind items.reverse :: lists rest := by
  cases rest with
  | nil => rfl
  | cons line rest =>
    cases hitem : item? line with
    | none =>
      rw [lists, listsFrom_cons_of_none hitem, listsFrom_cons_of_none hitem]
      rfl
    | some found =>
      have hkind : found.1 ≠ kind := by simpa [itemKind?, hitem] using h line rfl
      simp only [lists, listsFrom, hitem, if_neg hkind]
      rfl

theorem lists_append_of_none (hrun : ∀ line ∈ run, itemKind? line = none) (rest : List Text) :
    lists (run ++ rest) = run ++ lists rest := by
  induction run with
  | nil => rfl
  | cons line run ih =>
    obtain ⟨hline, hrun⟩ := List.forall_mem_cons.mp hrun
    rw [List.cons_append, lists, listsFrom_cons_of_none (Option.map_eq_none_iff.mp hline), ih hrun]
    rfl

theorem listHtml_map_itemText (kind : ListKind) (run : List Text) :
    listHtml kind (run.map itemText) =
      "<" ++ kind.tag ++ ">" ++ run.flatMap entryHtml ++ ("</" ++ kind.tag ++ ">") := by
  have hentry : (fun line ↦ element "li" (itemText line)) = entryHtml := by
    funext line
    exact element_eq _ _
  rw [listHtml, element_eq, List.flatMap_map, hentry]

/-- A maximal run of items of one kind, or of no items, is put together by itself. -/
theorem lists_append {key : Option ListKind} (hne : run ≠ [])
    (hrun : ∀ line ∈ run, itemKind? line = key)
    (hrest : ∀ line ∈ rest.head?, itemKind? line ≠ key) :
    lists (run ++ rest) = listOfRun run ++ lists rest := by
  obtain ⟨first, more, rfl⟩ := List.exists_cons_of_ne_nil hne
  obtain ⟨hfirst, hmore⟩ := List.forall_mem_cons.mp hrun
  have hhead : (first :: more).head?.bind itemKind? = key := hfirst
  cases key with
  | none =>
    rw [listOfRun, hhead]
    exact lists_append_of_none hrun rest
  | some kind =>
    have hopen : lists (first :: more ++ rest) =
        listsFrom (some (kind, [itemText first])) (more ++ rest) := by
      simp only [List.cons_append, lists, listsFrom, item?_of_itemKind? hfirst]
    have hlist : listOfRun (first :: more) = [listHtml kind ((first :: more).map itemText)] := by
      rw [listHtml_map_itemText]
      unfold listOfRun
      rw [hhead]
      cases kind with
      | ordered => rfl
      | unordered => rfl
    have hitems : ((more.map itemText).reverse ++ [itemText first]).reverse =
        (first :: more).map itemText := by
      rw [List.reverse_append, List.reverse_reverse]
      rfl
    calc
      lists (first :: more ++ rest) =
          listHtml kind ((more.map itemText).reverse ++ [itemText first]).reverse ::
            lists rest := by
        rw [hopen, listsFrom_append hmore, listsFrom_of_head hrest]
      _ = listOfRun (first :: more) ++ lists rest := by
        rw [hitems, hlist, List.singleton_append]

/-- The loop over lines puts together the maximal runs of items of one kind. -/
theorem lists_eq_listsByRuns (ls : List Text) : lists ls = listsByRuns ls := by
  induction ls using runs_induction itemKind? with
  | nil => rfl
  | append key run rest hne hrun hrest ih =>
    calc
      lists (run ++ rest) = listOfRun run ++ listsByRuns rest := by
        rw [lists_append hne hrun hrest, ih]
      _ = listsByRuns (run ++ rest) := by
        rw [listsByRuns, listsByRuns, runsBy_append hne hrun hrest, List.flatMap_cons]

/-! ## Passes over texts -/

def onLines (pass : List Text → List Text) (t : Text) : Text :=
  Text.join "\n" (pass (Text.splitOn '\n' t))

/-- What follows a pass finds the lines that the pass has left, if it leaves some and writes no line
feed into them. -/
theorem onLines_onLines (second first : List Text → List Text) {t : Text}
    (hne : first (Text.splitOn '\n' t) ≠ [])
    (hfeed : ∀ line ∈ first (Text.splitOn '\n' t), '\n' ∉ line) :
    onLines second (onLines first t) = onLines (fun ls ↦ second (first ls)) t := by
  have hsplit : Text.splitOn '\n' (Text.join "\n" (first (Text.splitOn '\n' t))) =
      first (Text.splitOn '\n' t) := Text.splitOn_join hne hfeed
  rw [onLines, onLines, onLines, hsplit]

theorem feed_not_mem_renderedLine (options : Options) (h : '\n' ∉ line) :
    '\n' ∉ renderedLine options line :=
  not_mem_of_count_le (count_renderedLine_le (by decide) options line) h

theorem quotes_ne_nil (h : ls ≠ []) : quotes ls ≠ [] := by
  obtain ⟨line, rest, rfl⟩ := List.exists_cons_of_ne_nil h
  cases hquote : Text.after? "> " line with
  | none =>
    rw [quotes, quotesFrom_cons_of_none hquote]
    exact List.cons_ne_nil _ _
  | some quoted =>
    obtain ⟨first, more, hquotes, -⟩ := exists_quotesFrom (List.cons_ne_nil quoted []) rest
    rw [quotes, quotesFrom_cons_of_some hquote, hquotes]
    exact List.cons_ne_nil _ _

theorem feed_not_mem_of_mem_quotes (hls : ∀ line ∈ ls, '\n' ∉ line) (h : line ∈ quotes ls) :
    '\n' ∉ line := by
  have hle := count_quotesFrom_le (c := '\n') (by decide) [] ls
  rw [List.flatten_nil, List.count_nil, Nat.zero_add] at hle
  exact feed_not_mem_of_count_le hle hls h

/-- Rendering goes over the lines of the text three times: line by line, for quotes, for lists. -/
theorem renderLines_eq_onLines (options : Options) (t : Text) : renderLines options t =
    onLines lists (onLines quotes (onLines (List.map (renderedLine options)) t)) := by
  have hne : (Text.splitOn '\n' t).map (renderedLine options) ≠ [] := by
    simpa using Text.splitOn_ne_nil '\n' t
  have hfeed : ∀ line ∈ (Text.splitOn '\n' t).map (renderedLine options), '\n' ∉ line := by
    intro line hline
    obtain ⟨raw, hraw, rfl⟩ := List.mem_map.mp hline
    exact feed_not_mem_renderedLine options (Text.not_mem_of_mem_splitOn hraw)
  let quoted (ls : List Text) : List Text := quotes (ls.map (renderedLine options))
  calc
    renderLines options t = onLines (fun ls ↦ lists (quoted ls)) t := renderLines_eq_join options t
    _ = onLines lists (onLines quoted t) :=
      (onLines_onLines lists quoted (quotes_ne_nil hne)
        fun _ ↦ feed_not_mem_of_mem_quotes hfeed).symm
    _ = onLines lists (onLines quotes (onLines (List.map (renderedLine options)) t)) := by
      rw [onLines_onLines quotes _ hne hfeed]

/-- Quotes and lists are the maximal runs of the lines of a text: the pass for each of them, as it
stands in rendering, puts one element in the place of each run. Items are what `IsItem` says. -/
theorem quotes_and_lists_by_runs (t : Text) :
    onLines lists t = onLines listsByRuns t ∧
    onLines quotes t = onLines quotesByRuns t ∧
    (∀ kind line item, item? line = some (kind, item) ↔ IsItem kind line item) ∧
    ∀ options, renderLines options t =
      onLines lists (onLines quotes (onLines (List.map (renderedLine options)) t)) := by
  refine ⟨?_, ?_, fun _ _ _ ↦ item?_eq_some_iff, fun options ↦ renderLines_eq_onLines options t⟩
  · rw [onLines, onLines, lists_eq_listsByRuns]
  · rw [onLines, onLines, quotes_eq_quotesByRuns]

/-- A change of the kind of list ends a run. -/
example : onLines lists "1. one\n* two\n- three\nfour" =
    "<ol><li>one</li></ol>\n<ul><li>two</li><li>three</li></ul>\nfour".toList := by decide

end Markup

end PluginReadme
