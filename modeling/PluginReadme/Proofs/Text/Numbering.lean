import PluginReadme.Proofs.Text.LineEnds

/-!
# Numbers of lines

Blocks are read off the lines that any line end ends, a lone carriage return included; a readme is
cut at line feeds, alone or after a carriage return. So one number stands for two lines of a text.
They are the same up to a number exactly if no lone carriage return is met before it, other than at
the end of the text (`take_endedLines_eq_iff`), and where two lines with one number are the same, so
are all lines before them (`take_endedLines_eq_of_lineStart_eq`).
-/

namespace PluginReadme.Text

variable {t rest : Text} {c : Char} {m n : Nat}

/-- The lines of a text with their ends. `lone` says that a carriage return alone ends a line. -/
def endedLines (lone : Bool) : Text → List Text
  | [] => []
  | '\n' :: rest => ['\n'] :: endedLines lone rest
  | '\r' :: '\n' :: rest => ['\r', '\n'] :: endedLines lone rest
  | c :: rest =>
    if lone && c == '\r' then ['\r'] :: endedLines lone rest
    else consFirst c (endedLines lone rest)

def lineStart (lone : Bool) (t : Text) (n : Nat) : Nat :=
  ((endedLines lone t).take n).flatten.length

def placedLines (lone : Bool) (t : Text) : List (Nat × Text) :=
  (endedLines lone t).zipIdx.map fun (line, n) ↦ (lineStart lone t n, line)

theorem getElem?_placedLines (lone : Bool) (t : Text) (n : Nat) :
    (placedLines lone t)[n]? =
      (endedLines lone t)[n]?.map fun line ↦ (lineStart lone t n, line) := by
  rw [placedLines, List.getElem?_map, List.getElem?_zipIdx, Option.map_map, Nat.zero_add]
  rfl

/-! ## Steps -/

section Steps

variable (lone : Bool)

theorem endedLines_feed (rest : Text) :
    endedLines lone ('\n' :: rest) = ['\n'] :: endedLines lone rest := by
  rw [endedLines]

theorem endedLines_pair (rest : Text) :
    endedLines lone ('\r' :: '\n' :: rest) = ['\r', '\n'] :: endedLines lone rest := by
  rw [endedLines]

theorem endedLines_plain (hfeed : c ≠ '\n') (hreturn : c ≠ '\r') (rest : Text) :
    endedLines lone (c :: rest) = consFirst c (endedLines lone rest) := by
  rw [endedLines]
  · simp [hreturn]
  · exact hfeed
  · exact fun _ hc ↦ absurd hc hreturn

theorem endedLines_return (h : rest.head? ≠ some '\n') :
    endedLines lone ('\r' :: rest) =
      if lone then ['\r'] :: endedLines lone rest else consFirst '\r' (endedLines lone rest) := by
  rw [endedLines]
  · simp
  · decide
  · exact fun tail _ hrest ↦ h (by rw [hrest]; rfl)

end Steps

/-- A text is read by line ends and other characters. -/
theorem lineEnd_induction {motive : Text → Prop} (nil : motive [])
    (feed : ∀ rest, motive rest → motive ('\n' :: rest))
    (pair : ∀ rest, motive rest → motive ('\r' :: '\n' :: rest))
    (loneReturn : ∀ rest, rest.head? ≠ some '\n' → motive rest → motive ('\r' :: rest))
    (plain : ∀ c rest, c ≠ '\n' → c ≠ '\r' → motive rest → motive (c :: rest)) (t : Text) :
    motive t := by
  induction hlength : t.length using Nat.strong_induction_on generalizing t with
  | h n ih =>
    cases t with
    | nil => exact nil
    | cons c rest =>
      have hrest : motive rest :=
        ih rest.length (by rw [← hlength]; exact Nat.lt_succ_self _) rest rfl
      by_cases hfeed : c = '\n'
      · exact hfeed ▸ feed rest hrest
      by_cases hreturn : c = '\r'
      · by_cases hhead : rest.head? = some '\n'
        · obtain ⟨tail, rfl⟩ := List.head?_eq_some_iff.mp hhead
          refine hreturn ▸ pair tail (ih tail.length ?_ tail rfl)
          rw [← hlength, List.length_cons, List.length_cons]
          omega
        · exact hreturn ▸ loneReturn rest hhead hrest
      · exact plain c rest hfeed hreturn hrest

/-- The lines with their ends make up the text. -/
theorem flatten_endedLines (lone : Bool) (t : Text) : (endedLines lone t).flatten = t := by
  have hfirst (c : Char) (ls : List Text) : (consFirst c ls).flatten = c :: ls.flatten := by
    cases ls with
    | nil => rfl
    | cons first more => rfl
  induction t using lineEnd_induction with
  | nil => rfl
  | feed rest ih => rw [endedLines_feed, List.flatten_cons, ih, List.singleton_append]
  | pair rest ih =>
    rw [endedLines_pair, List.flatten_cons, ih, List.cons_append, List.singleton_append]
  | loneReturn rest hrest ih =>
    rw [endedLines_return lone hrest]
    split
    · rw [List.flatten_cons, ih, List.singleton_append]
    · rw [hfirst, ih]
  | plain c rest hfeed hreturn ih => rw [endedLines_plain lone hfeed hreturn, hfirst, ih]

/-- No line is empty, since it has an end or is what the text ends with. -/
theorem endedLines_ne_nil (lone : Bool) (t : Text) : ∀ line ∈ endedLines lone t, line ≠ [] := by
  have hfirst (c : Char) (ls : List Text) (hls : ∀ line ∈ ls, line ≠ []) :
      ∀ line ∈ consFirst c ls, line ≠ [] := by
    cases ls with
    | nil => exact fun line hline ↦ List.mem_singleton.mp hline ▸ List.cons_ne_nil c []
    | cons first more =>
      exact List.forall_mem_cons.mpr
        ⟨List.cons_ne_nil c first, fun line hline ↦ hls line (List.mem_cons_of_mem first hline)⟩
  have hcons (c : Char) (front : Text) (ls : List Text) (hls : ∀ line ∈ ls, line ≠ []) :
      ∀ line ∈ (c :: front) :: ls, line ≠ [] :=
    List.forall_mem_cons.mpr ⟨List.cons_ne_nil c front, hls⟩
  induction t using lineEnd_induction with
  | nil => exact List.forall_mem_nil _
  | feed rest ih => rw [endedLines_feed]; exact hcons _ _ _ ih
  | pair rest ih => rw [endedLines_pair]; exact hcons _ _ _ ih
  | loneReturn rest hrest ih =>
    rw [endedLines_return lone hrest]
    split
    · exact hcons _ _ _ ih
    · exact hfirst _ _ ih
  | plain c rest hfeed hreturn ih =>
    rw [endedLines_plain lone hfeed hreturn]
    exact hfirst _ _ ih

theorem endedLines_eq_nil_iff {lone : Bool} : endedLines lone t = [] ↔ t = [] := by
  constructor
  · intro h
    rw [← flatten_endedLines lone t, h, List.flatten_nil]
  · rintro rfl
    rfl

/-- A line goes up to its line feed. -/
theorem endedLines_append_feed {lone : Bool} {line : Text} (hfeed : '\n' ∉ line)
    (hreturn : '\r' ∉ line) (rest : Text) :
    endedLines lone (line ++ '\n' :: rest) = (line ++ ['\n']) :: endedLines lone rest := by
  induction line with
  | nil => exact endedLines_feed lone rest
  | cons c line ih =>
    obtain ⟨hc, hline⟩ := List.ne_and_not_mem_of_not_mem_cons hfeed
    obtain ⟨hc', hline'⟩ := List.ne_and_not_mem_of_not_mem_cons hreturn
    rw [List.cons_append, endedLines_plain lone (Ne.symm hc) (Ne.symm hc'), ih hline hline']
    rfl

theorem endedLines_of_not_mem {lone : Bool} {line : Text} (hne : line ≠ []) (hfeed : '\n' ∉ line)
    (hreturn : '\r' ∉ line) : endedLines lone line = [line] := by
  induction line with
  | nil => exact absurd rfl hne
  | cons c line ih =>
    obtain ⟨hc, hline⟩ := List.ne_and_not_mem_of_not_mem_cons hfeed
    obtain ⟨hc', hline'⟩ := List.ne_and_not_mem_of_not_mem_cons hreturn
    rw [endedLines_plain lone (Ne.symm hc) (Ne.symm hc')]
    by_cases hnil : line = []
    · rw [hnil]
      rfl
    · rw [ih hnil hline hline']
      rfl

theorem length_consFirst {ls : List Text} (h : ls ≠ []) (c : Char) :
    (consFirst c ls).length = ls.length := by
  obtain ⟨first, more, rfl⟩ := List.exists_cons_of_ne_nil h
  rfl

/-! ## Lines with one number -/

/-- A carriage return that ends a line alone, and not the text, ends the line with the number `n`
or a later one. -/
def ReturnsFrom (n : Nat) (t : Text) : Prop :=
  ∀ front rest, t = front ++ '\r' :: rest → rest ≠ [] → rest.head? ≠ some '\n' →
    n < (endedLines true (front ++ ['\r'])).length

theorem returnsFrom_zero (t : Text) : ReturnsFrom 0 t := by
  intro front rest _ _ _
  rw [List.length_pos_iff, Ne, endedLines_eq_nil_iff]
  simp

theorem returnsFrom_feed : ReturnsFrom (n + 1) ('\n' :: rest) ↔ ReturnsFrom n rest := by
  constructor
  · intro h front more heq hne hhead
    have hlength := h ('\n' :: front) more (by rw [heq, List.cons_append]) hne hhead
    rw [List.cons_append, endedLines_feed, List.length_cons] at hlength
    omega
  · intro h front more heq hne hhead
    cases front with
    | nil => exact absurd (List.head_eq_of_cons_eq heq) (by decide)
    | cons d front =>
      obtain ⟨rfl, hrest⟩ := List.cons.inj heq
      have hlength := h front more hrest hne hhead
      rw [List.cons_append, endedLines_feed, List.length_cons]
      omega

theorem returnsFrom_pair : ReturnsFrom (n + 1) ('\r' :: '\n' :: rest) ↔ ReturnsFrom n rest := by
  constructor
  · intro h front more heq hne hhead
    have hlength := h ('\r' :: '\n' :: front) more
      (by rw [heq, List.cons_append, List.cons_append]) hne hhead
    rw [List.cons_append, List.cons_append, endedLines_pair, List.length_cons] at hlength
    omega
  · intro h front more heq hne hhead
    rcases front with _ | ⟨d, _ | ⟨e, front⟩⟩
    · exact absurd (by rw [← (List.cons.inj heq).2]; rfl) hhead
    · exact absurd (List.head_eq_of_cons_eq (List.cons.inj heq).2) (by decide)
    · obtain ⟨rfl, htail⟩ := List.cons.inj heq
      obtain ⟨rfl, hrest⟩ := List.cons.inj htail
      have hlength := h front more hrest hne hhead
      rw [List.cons_append, List.cons_append, endedLines_pair, List.length_cons]
      omega

theorem returnsFrom_plain (hfeed : c ≠ '\n') (hreturn : c ≠ '\r') :
    ReturnsFrom n (c :: rest) ↔ ReturnsFrom n rest := by
  have hlength (front : Text) : (endedLines true (c :: front ++ ['\r'])).length =
      (endedLines true (front ++ ['\r'])).length := by
    rw [List.cons_append, endedLines_plain true hfeed hreturn, length_consFirst]
    rw [Ne, endedLines_eq_nil_iff]
    simp
  constructor
  · intro h front more heq hne hhead
    rw [← hlength]
    exact h (c :: front) more (by rw [heq, List.cons_append]) hne hhead
  · intro h front more heq hne hhead
    cases front with
    | nil => exact absurd (List.head_eq_of_cons_eq heq) hreturn
    | cons d front =>
      obtain ⟨rfl, hrest⟩ := List.cons.inj heq
      rw [hlength]
      exact h front more hrest hne hhead

/-- A lone carriage return may only end the text. -/
theorem returnsFrom_return (h : rest.head? ≠ some '\n') :
    ReturnsFrom (n + 1) ('\r' :: rest) ↔ rest = [] := by
  constructor
  · intro hreturns
    by_contra hne
    have hlength : n + 1 < 1 := hreturns [] rest rfl hne h
    omega
  · rintro rfl front more heq hne
    cases front with
    | nil => exact absurd (List.cons.inj heq).2.symm hne
    | cons d front => exact absurd (List.cons.inj heq).2.symm (by simp)

/-- A character in front of two texts changes nothing about which of their lines agree. -/
theorem take_consFirst_eq_iff {ls others : List Text} (hls : ∀ line ∈ ls, line ≠ [])
    (hothers : ∀ line ∈ others, line ≠ []) :
    (consFirst c ls).take (n + 1) = (consFirst c others).take (n + 1) ↔
      ls.take (n + 1) = others.take (n + 1) := by
  cases ls with
  | nil =>
    cases others with
    | nil => simp
    | cons first more =>
      have hfirst := hothers first List.mem_cons_self
      simp [consFirst, Ne.symm hfirst]
  | cons first more =>
    have hfirst := hls first List.mem_cons_self
    cases others with
    | nil => simp [consFirst, hfirst]
    | cons other others => simp [consFirst]

/-- Up to a number the lines are the same exactly if no lone carriage return comes before it. -/
theorem take_endedLines_eq_iff :
    (endedLines true t).take n = (endedLines false t).take n ↔ ReturnsFrom n t := by
  induction t using lineEnd_induction generalizing n with
  | nil => exact iff_of_true rfl fun front rest heq ↦ by simp at heq
  | feed rest ih =>
    cases n with
    | zero => exact iff_of_true rfl (returnsFrom_zero _)
    | succ n =>
      rw [endedLines_feed, endedLines_feed, List.take_succ_cons, List.take_succ_cons,
        List.cons_inj_right, ih, returnsFrom_feed]
  | pair rest ih =>
    cases n with
    | zero => exact iff_of_true rfl (returnsFrom_zero _)
    | succ n =>
      rw [endedLines_pair, endedLines_pair, List.take_succ_cons, List.take_succ_cons,
        List.cons_inj_right, ih, returnsFrom_pair]
  | loneReturn rest hrest ih =>
    cases n with
    | zero => exact iff_of_true rfl (returnsFrom_zero _)
    | succ n =>
      rw [endedLines_return true hrest, endedLines_return false hrest, if_pos rfl,
        if_neg Bool.false_ne_true]
      rw [returnsFrom_return hrest]
      constructor
      · intro heq
        by_contra hne
        have hlines : endedLines false rest ≠ [] := fun h ↦ hne (endedLines_eq_nil_iff.mp h)
        obtain ⟨first, more, hfirst⟩ := List.exists_cons_of_ne_nil hlines
        rw [hfirst, List.take_succ_cons] at heq
        have hempty : [] = first := (List.cons.inj (List.cons.inj heq).1).2
        exact endedLines_ne_nil false rest first (hfirst ▸ List.mem_cons_self) hempty.symm
      · rintro rfl
        rfl
  | plain c rest hfeed hreturn ih =>
    cases n with
    | zero => exact iff_of_true rfl (returnsFrom_zero _)
    | succ n =>
      rw [endedLines_plain true hfeed hreturn, endedLines_plain false hfeed hreturn,
        take_consFirst_eq_iff (endedLines_ne_nil true rest) (endedLines_ne_nil false rest), ih,
        returnsFrom_plain hfeed hreturn]

/-! ## Lines at one place -/

theorem lineStart_le_succ (lone : Bool) (t : Text) (n : Nat) :
    lineStart lone t n ≤ lineStart lone t (n + 1) := by
  unfold lineStart
  rw [List.take_add_one, List.flatten_append, List.length_append]
  exact Nat.le_add_right _ _

theorem lineStart_lt_succ {lone : Bool} (h : n < (endedLines lone t).length) :
    lineStart lone t n < lineStart lone t (n + 1) := by
  have hline := endedLines_ne_nil lone t _ (List.getElem_mem h)
  have hpos := List.length_pos_iff.mpr hline
  unfold lineStart
  rw [List.take_add_one, List.getElem?_eq_getElem h, List.flatten_append, List.length_append]
  simp only [Option.toList_some, List.flatten_singleton]
  omega

/-- Later lines begin at later places. -/
theorem lineStart_lt {lone : Bool} (hlt : m < n) (hn : n ≤ (endedLines lone t).length) :
    lineStart lone t m < lineStart lone t n := by
  induction n with
  | zero => omega
  | succ n ih =>
    have hstep := lineStart_lt_succ (Nat.lt_of_succ_le hn)
    rcases Nat.lt_succ_iff_lt_or_eq.mp hlt with hless | rfl
    · exact (ih hless (by omega)).trans hstep
    · exact hstep

/-- Different numbers stand for different places. -/
theorem placedLines_inj {lone : Bool} {place : Nat × Text}
    (hm : (placedLines lone t)[m]? = some place) (hn : (placedLines lone t)[n]? = some place) :
    m = n := by
  rw [getElem?_placedLines] at hm hn
  obtain ⟨line, hline, rfl⟩ := Option.map_eq_some_iff.mp hm
  obtain ⟨other, hother, heq⟩ := Option.map_eq_some_iff.mp hn
  have hstart : lineStart lone t n = lineStart lone t m := congrArg Prod.fst heq
  have hmlength := (List.getElem?_eq_some_iff.mp hline).1
  have hnlength := (List.getElem?_eq_some_iff.mp hother).1
  rcases Nat.lt_trichotomy m n with hlt | heq | hlt
  · exact absurd hstart.symm (Nat.ne_of_lt (lineStart_lt hlt hnlength.le))
  · exact heq
  · exact absurd hstart (Nat.ne_of_lt (lineStart_lt hlt hmlength.le))

section Starts

variable {lone : Bool}

theorem lineStart_feed : lineStart lone ('\n' :: rest) (n + 1) = lineStart lone rest n + 1 := by
  simp [lineStart, endedLines_feed]

theorem lineStart_pair :
    lineStart lone ('\r' :: '\n' :: rest) (n + 1) = lineStart lone rest n + 2 := by
  simp [lineStart, endedLines_pair]

theorem length_flatten_take_consFirst (c : Char) (ls : List Text) (n : Nat) :
    ((consFirst c ls).take (n + 1)).flatten.length = (ls.take (n + 1)).flatten.length + 1 := by
  cases ls with
  | nil => simp [consFirst]
  | cons first more => simp [consFirst]

theorem lineStart_plain (hfeed : c ≠ '\n') (hreturn : c ≠ '\r') :
    lineStart lone (c :: rest) (n + 1) = lineStart lone rest (n + 1) + 1 := by
  rw [lineStart, endedLines_plain lone hfeed hreturn, length_flatten_take_consFirst]
  rfl

theorem lineStart_return_true (h : rest.head? ≠ some '\n') :
    lineStart true ('\r' :: rest) (n + 1) = lineStart true rest n + 1 := by
  simp [lineStart, endedLines_return true h]

theorem lineStart_return_false (h : rest.head? ≠ some '\n') :
    lineStart false ('\r' :: rest) (n + 1) = lineStart false rest (n + 1) + 1 := by
  rw [lineStart, endedLines_return false h, if_neg Bool.false_ne_true,
    length_flatten_take_consFirst]
  rfl

end Starts

/-- Where a lone carriage return ends lines, no line begins later. -/
theorem lineStart_true_le (n : Nat) (t : Text) : lineStart true t n ≤ lineStart false t n := by
  induction t using lineEnd_induction generalizing n with
  | nil => rfl
  | feed rest ih =>
    cases n with
    | zero => rfl
    | succ n => rw [lineStart_feed, lineStart_feed]; exact Nat.succ_le_succ (ih n)
  | pair rest ih =>
    cases n with
    | zero => rfl
    | succ n => rw [lineStart_pair, lineStart_pair]; exact Nat.add_le_add_right (ih n) 2
  | loneReturn rest hrest ih =>
    cases n with
    | zero => rfl
    | succ n =>
      rw [lineStart_return_true hrest, lineStart_return_false hrest]
      exact Nat.succ_le_succ ((ih n).trans (lineStart_le_succ false rest n))
  | plain c rest hfeed hreturn ih =>
    cases n with
    | zero => rfl
    | succ n =>
      rw [lineStart_plain hfeed hreturn, lineStart_plain hfeed hreturn]
      exact Nat.succ_le_succ (ih (n + 1))

theorem getElem?_consFirst {ls : List Text} {line : Text}
    (h : (consFirst c ls)[n + 1]? = some line) : ls[n + 1]? = some line := by
  cases ls with
  | nil => exact absurd h (by simp [consFirst])
  | cons first more => exact h

/-- If one line stands at one place under one number, so do all lines before it. -/
theorem take_endedLines_eq_of_lineStart_eq {line : Text}
    (htrue : (endedLines true t)[n]? = some line) (hfalse : (endedLines false t)[n]? = some line)
    (hstart : lineStart true t n = lineStart false t n) :
    (endedLines true t).take (n + 1) = (endedLines false t).take (n + 1) := by
  have hzero {ls others : List Text} (hls : ls[0]? = some line) (hothers : others[0]? = some line) :
      ls.take 1 = others.take 1 := by
    rw [List.take_add_one, List.take_add_one, hls, hothers, List.take_zero, List.take_zero]
  induction t using lineEnd_induction generalizing n with
  | nil => rfl
  | feed rest ih =>
    rw [endedLines_feed] at htrue hfalse ⊢
    rw [endedLines_feed]
    cases n with
    | zero => exact hzero htrue hfalse
    | succ n =>
      rw [lineStart_feed, lineStart_feed] at hstart
      rw [List.take_succ_cons, List.take_succ_cons, ih htrue hfalse (Nat.succ.inj hstart)]
  | pair rest ih =>
    rw [endedLines_pair] at htrue hfalse ⊢
    rw [endedLines_pair]
    cases n with
    | zero => exact hzero htrue hfalse
    | succ n =>
      rw [lineStart_pair, lineStart_pair] at hstart
      rw [List.take_succ_cons, List.take_succ_cons,
        ih htrue hfalse (Nat.add_right_cancel hstart)]
  | loneReturn rest hrest ih =>
    rw [endedLines_return true hrest, if_pos rfl] at htrue ⊢
    rw [endedLines_return false hrest, if_neg Bool.false_ne_true] at hfalse ⊢
    cases n with
    | zero => exact hzero htrue hfalse
    | succ n =>
      -- Without the lone return the line comes later by one number, and so begins later.
      have hlength : n < (endedLines false rest).length := by
        have hlast := (List.getElem?_eq_some_iff.mp (getElem?_consFirst hfalse)).1
        omega
      have hle := lineStart_true_le n rest
      have hlt := lineStart_lt_succ hlength
      rw [lineStart_return_true hrest, lineStart_return_false hrest] at hstart
      omega
  | plain c rest hfeed hreturn ih =>
    rw [endedLines_plain true hfeed hreturn] at htrue ⊢
    rw [endedLines_plain false hfeed hreturn] at hfalse ⊢
    cases n with
    | zero => exact hzero htrue hfalse
    | succ n =>
      rw [lineStart_plain hfeed hreturn, lineStart_plain hfeed hreturn] at hstart
      rw [take_consFirst_eq_iff (endedLines_ne_nil true rest) (endedLines_ne_nil false rest)]
      exact ih (getElem?_consFirst htrue) (getElem?_consFirst hfalse) (Nat.succ.inj hstart)

/-- A number stands for one line exactly if no lone carriage return comes before the end of that
line. -/
theorem getElem?_placedLines_eq_iff (h : n < (endedLines true t).length) :
    (placedLines true t)[n]? = (placedLines false t)[n]? ↔ ReturnsFrom (n + 1) t := by
  rw [← take_endedLines_eq_iff, getElem?_placedLines, getElem?_placedLines]
  constructor
  · intro heq
    have htrue := List.getElem?_eq_getElem h
    rw [htrue] at heq
    obtain ⟨line, hline, hplace⟩ := Option.map_eq_some_iff.mp heq.symm
    obtain ⟨hstart, rfl⟩ := Prod.mk.inj hplace
    exact take_endedLines_eq_of_lineStart_eq htrue hline hstart.symm
  · intro heq
    have hline : (endedLines true t)[n]? = (endedLines false t)[n]? := by
      rw [← List.getElem?_take_of_lt (Nat.lt_succ_self n), heq,
        List.getElem?_take_of_lt (Nat.lt_succ_self n)]
    have hfront : (endedLines true t).take n = (endedLines false t).take n := by
      have htake := congrArg (List.take n) heq
      rwa [List.take_take, List.take_take, Nat.min_eq_left (Nat.le_succ n)] at htake
    rw [hline, lineStart, hfront]
    rfl

/-! ## Lines without their ends -/

/-- The line without a line feed at its end and a carriage return before that. -/
def withoutEnd (line : Text) : Text :=
  if line.getLast? = some '\n' then dropFinalReturn line.dropLast else line

/-- A line feed at the end is followed by one more line, which is empty. -/
def openLine (t : Text) : List Text := if t = [] ∨ t.getLast? = some '\n' then [[]] else []

theorem withoutEnd_cons {line : Text} (hne : line ≠ [])
    (hpair : c = '\r' → line.head? ≠ some '\n') :
    withoutEnd (c :: line) = c :: withoutEnd line := by
  unfold withoutEnd
  rw [List.getLast?_cons_of_ne_nil hne, List.dropLast_cons_of_ne_nil hne]
  split_ifs with hlast
  · by_cases hnil : line.dropLast = []
    · have hfeed : line = ['\n'] := by
        rw [← List.dropLast_append_getLast? '\n' hlast, hnil, List.nil_append]
      have hc : c ≠ '\r' := fun heq ↦ hpair heq (by rw [hfeed]; rfl)
      rw [hnil, dropFinalReturn_eq_self (by simpa using hc)]
      rfl
    · exact dropFinalReturn_cons hnil
  · rfl

theorem openLine_cons (hne : rest ≠ []) (c : Char) : openLine (c :: rest) = openLine rest := by
  unfold openLine
  rw [List.getLast?_cons_of_ne_nil hne]
  simp [hne]

theorem openLine_feed (rest : Text) : openLine ('\n' :: rest) = openLine rest := by
  by_cases hrest : rest = []
  · rw [hrest]
    rfl
  · exact openLine_cons hrest '\n'

theorem head?_of_endedLines_eq_cons {lone : Bool} {first : Text} {more : List Text}
    (h : endedLines lone t = first :: more) : first.head? = t.head? := by
  have hne : first ≠ [] := endedLines_ne_nil lone t first (h ▸ List.mem_cons_self)
  conv_rhs => rw [← flatten_endedLines lone t, h, List.flatten_cons]
  rw [List.head?_append_of_ne_nil first hne]

/-- A character in front of a text belongs to its first line, with and without the ends. -/
theorem map_withoutEnd_consFirst (hfeed : c ≠ '\n') (hpair : c = '\r' → rest.head? ≠ some '\n') :
    (consFirst c (endedLines false rest)).map withoutEnd ++ openLine (c :: rest) =
      consFirst c ((endedLines false rest).map withoutEnd ++ openLine rest) := by
  cases hlines : endedLines false rest with
  | nil =>
    rw [endedLines_eq_nil_iff.mp hlines]
    simp [openLine, consFirst, withoutEnd, hfeed]
  | cons first more =>
    have hne : first ≠ [] := endedLines_ne_nil false rest first (hlines ▸ List.mem_cons_self)
    have hrest : rest ≠ [] := by
      rintro rfl
      exact absurd hlines.symm (List.cons_ne_nil _ _)
    rw [openLine_cons hrest, consFirst, List.map_cons, List.map_cons,
      withoutEnd_cons hne fun hc ↦ (head?_of_endedLines_eq_cons hlines).symm ▸ hpair hc]
    rfl

/-- The lines of a readme are the ones that line feeds end. -/
theorem lines_eq_map_withoutEnd (t : Text) :
    lines t = (endedLines false t).map withoutEnd ++ openLine t := by
  induction t using lineEnd_induction with
  | nil => rfl
  | feed rest ih =>
    rw [endedLines_feed, openLine_feed, lines, ih]
    rfl
  | pair rest ih =>
    rw [endedLines_pair, openLine_cons (List.cons_ne_nil _ _), openLine_feed, lines, ih]
    rfl
  | loneReturn rest hrest ih =>
    rw [endedLines_return false hrest, if_neg Bool.false_ne_true,
      map_withoutEnd_consFirst (by decide) fun _ ↦ hrest, ← ih]
    exact lines_cons (by decide) fun _ ↦ hrest
  | plain c rest hfeed hreturn ih =>
    rw [endedLines_plain false hfeed hreturn,
      map_withoutEnd_consFirst hfeed fun hc ↦ absurd hc hreturn, ← ih]
    exact lines_cons hfeed fun hc ↦ absurd hc hreturn

end PluginReadme.Text
