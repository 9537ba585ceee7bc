import PluginReadme.Markup.Inline
import PluginReadme.Proofs.Markup.Groups
import PluginReadme.Proofs.Text.Scan

/-!
# Text between marks

Something between two marks of one sign is read exactly where it is written so
(`enclosedBy_eq_some_iff`). With single signs as marks, a text has nothing to read exactly if its
signs stand in one run; what is escaped or put around the text without such signs does not matter.
Bold and italic text lose their asterisks, so a text that keeps its asterisks has no emphasis.
-/

namespace PluginReadme.Markup

variable {c : Char} {count : Nat} {inside t front tail : Text}

/-! ## What is read -/

theorem looksAhead_enclosedBy (c : Char) (count : Nat) : Scan.LooksAhead (enclosedBy c count) :=
  fun _ _ ↦ rfl

/-- A mark is read exactly where a text without the sign stands between two runs of it. -/
theorem enclosedBy_eq_some_iff (hcount : 0 < count) {before : Option Char} {extra : Nat} :
    enclosedBy c count before t = some (inside, extra) ↔ inside ≠ [] ∧ c ∉ inside ∧
      extra + 1 = inside.length + 2 * count ∧
      ∃ rest, t = List.replicate count c ++ inside ++ List.replicate count c ++ rest := by
  constructor
  · intro h
    unfold enclosedBy at h
    dsimp only at h
    split at h
    · next rest hafter =>
      obtain rfl := Text.after?_eq_some_iff.mp hafter
      rw [Text.drop_length_takeWhile] at h
      have hrest := List.takeWhile_append_dropWhile (p := (· != c)) (l := rest)
      have hnot := Text.not_mem_takeWhile_ne c rest
      generalize rest.takeWhile (· != c) = run at h hrest hnot
      generalize rest.dropWhile (· != c) = back at h hrest
      subst hrest
      split_ifs at h with hguard
      obtain ⟨hne, hclose⟩ := Bool.and_eq_true_iff.mp hguard
      obtain ⟨more, rfl⟩ := Text.startsWith_iff.mp hclose
      obtain ⟨rfl, rfl⟩ := Prod.mk.inj (Option.some.inj h)
      exact ⟨by simpa using hne, hnot, by omega, more, by simp⟩
    · exact absurd h (by simp)
  · rintro ⟨hne, hnot, hlength, rest, rfl⟩
    obtain ⟨count, rfl⟩ : ∃ n, count = n + 1 := ⟨count - 1, by omega⟩
    have hafter : Text.after? (List.replicate (count + 1) c)
        (List.replicate (count + 1) c ++ inside ++ List.replicate (count + 1) c ++ rest) =
        some (inside ++ c :: (List.replicate count c ++ rest)) :=
      Text.after?_eq_some_iff.mpr (by simp [List.replicate_succ])
    have hclose : Text.startsWith (List.replicate (count + 1) c)
        (c :: (List.replicate count c ++ rest)) = true :=
      Text.startsWith_iff.mpr ⟨rest, by simp [List.replicate_succ]⟩
    unfold enclosedBy
    simp only [hafter, Text.takeWhile_ne_append_cons hnot, List.drop_left, hclose, Bool.and_true]
    rw [if_pos (by simpa using hne)]
    simp only [Option.some.injEq, Prod.mk.injEq, true_and]
    omega

/-- With one sign as mark, something is read unless the next sign follows at once or not at all. -/
theorem enclosedBy_one_cons_eq_none_iff {before : Option Char} :
    enclosedBy c 1 before (c :: t) = none ↔ (c ∈ t → t.head? = some c) := by
  rw [Option.eq_none_iff_forall_ne_some]
  constructor
  · intro h hmem
    obtain ⟨run, rest, rfl, hnot⟩ := List.eq_append_cons_of_mem hmem
    by_cases hnil : run = []
    · rw [hnil]
      rfl
    · exact absurd ((enclosedBy_eq_some_iff Nat.one_pos).mpr
        ⟨hnil, hnot, rfl, rest, by simp⟩) (h (run, run.length + 1))
  · rintro h ⟨run, extra⟩ heq
    obtain ⟨hne, hnot, -, rest, hsplit⟩ := (enclosedBy_eq_some_iff Nat.one_pos).mp heq
    have ht : t = run ++ c :: rest := by simpa using hsplit
    have hhead := h (by simp [ht])
    rw [ht, List.head?_append_of_ne_nil run hne] at hhead
    exact hnot (List.mem_of_mem_head? hhead)

theorem enclosedBy_of_head_ne (hcount : 0 < count) {before : Option Char}
    (h : t.head? ≠ some c) : enclosedBy c count before t = none := by
  rw [Option.eq_none_iff_forall_ne_some]
  rintro ⟨run, extra⟩ heq
  obtain ⟨-, -, -, rest, rfl⟩ := (enclosedBy_eq_some_iff hcount).mp heq
  obtain ⟨count, rfl⟩ : ∃ n, count = n + 1 := ⟨count - 1, by omega⟩
  exact h (by simp [List.replicate_succ])

/-! ## Code blocks -/

theorem looksAhead_codeBlock : Scan.LooksAhead codeBlock := fun _ _ ↦ rfl

theorem codeBlock_eq_none {before : Option Char} (h : ¬ Fence.mark <+: t) :
    codeBlock before t = none := by
  cases hafter : Text.after? Fence.mark t with
  | none =>
    unfold codeBlock
    simp only [hafter]
  | some rest => exact absurd ⟨rest, (Text.after?_eq_some_iff.mp hafter).symm⟩ h

theorem codeBlock_cons_of_ne {d : Char} (hd : d ≠ '\x60') (rest : Text) :
    codeBlock none (d :: rest) = none :=
  codeBlock_eq_none fun ⟨_, heq⟩ ↦ hd (List.cons.inj heq).1.symm

/-- A block is read whole where its first fence is. -/
theorem codeBlock_append {before : Option Char} {code : Text} (hcode : '\x60' ∉ code)
    (tail : Text) : codeBlock before (Fence.mark ++ (code ++ (Fence.mark ++ tail))) =
      some (code, code.length + 5) := by
  have hafter : Text.after? Fence.mark (Fence.mark ++ (code ++ (Fence.mark ++ tail))) =
      some (code ++ (Fence.mark ++ tail)) :=
    Text.after?_eq_some_iff.mpr rfl
  have hrun : (code ++ (Fence.mark ++ tail)).takeWhile (fun c ↦ !Fence.isBacktick c) = code := by
    refine Text.takeWhile_append_cons (fun c hc ↦ ?_) (by decide)
    simpa [Fence.isBacktick] using ne_of_mem_of_not_mem hc hcode
  have hclose : Text.startsWith Fence.mark (Fence.mark ++ tail) = true :=
    Text.startsWith_iff.mpr ⟨tail, rfl⟩
  unfold codeBlock
  simp only [hafter, hrun, List.drop_left, hclose]
  rfl

theorem codeBlock_eq_some {before : Option Char} {code : Text} {extra : Nat}
    (h : codeBlock before t = some (code, extra)) : extra = code.length + 5 ∧
      ∃ rest, t = Fence.mark ++ (code ++ (Fence.mark ++ rest)) := by
  unfold codeBlock at h
  dsimp only at h
  split at h
  · next rest hafter =>
    obtain rfl := Text.after?_eq_some_iff.mp hafter
    split_ifs at h with hclose
    obtain ⟨rfl, rfl⟩ := Prod.mk.inj (Option.some.inj h)
    rw [Text.drop_length_takeWhile] at hclose
    obtain ⟨more, hmore⟩ := Text.startsWith_iff.mp hclose
    refine ⟨rfl, more, ?_⟩
    rw [← hmore, List.takeWhile_append_dropWhile]
  · exact absurd h (by simp)

/-! ## Code spans -/

/-- Code between two backticks. -/
def spanned (code : Text) : Text := '\x60' :: code ++ ['\x60']

theorem length_spanned (code : Text) : (spanned code).length = code.length + 2 := by
  simp [spanned]

theorem enclosedBy_spanned_append {code : Text} (hne : code ≠ []) (hcode : '\x60' ∉ code)
    (tail : Text) :
    enclosedBy '\x60' 1 none (spanned code ++ tail) = some (code, code.length + 1) :=
  (enclosedBy_eq_some_iff Nat.one_pos).mpr ⟨hne, hcode, rfl, tail, rfl⟩

/-- Escaping reads the same spans, on one line. -/
theorem codeSpan_spanned_append {code : Text} (hcode : '\x60' ∉ code) (tail : Text) :
    codeSpan none (spanned code ++ tail) = some (spanned code, code.length + 1) := by
  have hrun : (code ++ '\x60' :: tail).takeWhile (fun c ↦ !Fence.isBacktick c) = code := by
    refine Text.takeWhile_append_cons (fun c hc ↦ ?_) (by decide)
    simpa [Fence.isBacktick] using ne_of_mem_of_not_mem hc hcode
  have hspan : spanned code ++ tail = '\x60' :: (code ++ '\x60' :: tail) := by simp [spanned]
  have htaken : ('\x60' :: (code ++ '\x60' :: tail)).take (code.length + 2) = spanned code := by
    rw [← hspan, ← length_spanned, List.take_left]
  rw [hspan]
  unfold codeSpan
  simp only [hrun, htaken]
  rw [if_pos (by simp)]

theorem codeSpan_cons_of_ne {d : Char} (hd : d ≠ '\x60') (rest : Text) :
    codeSpan none (d :: rest) = none := by
  unfold codeSpan
  split
  · next heq => exact absurd (List.cons.inj heq).1 hd
  · rfl

theorem looksAhead_codeSpan : Scan.LooksAhead codeSpan := fun _ _ ↦ rfl

/-! ## Texts with one run of signs -/

/-- In front of a sign nothing is enclosed if no such sign follows, or if one follows directly. -/
theorem isFree_enclosedBy_cons_iff : Scan.IsFree (enclosedBy c 1) (c :: t) ↔
    (c ∈ t → t.head? = some c) ∧ Scan.IsFree (enclosedBy c 1) t := by
  rw [Scan.isFree_cons_iff]
  simp only [enclosedBy_one_cons_eq_none_iff, forall_const]

theorem isFree_enclosedBy_append_left_iff (hcount : 0 < count) (hfront : c ∉ front) :
    Scan.IsFree (enclosedBy c count) (front ++ t) ↔ Scan.IsFree (enclosedBy c count) t := by
  apply Scan.isFree_append_left_iff
  intro d hd before rest
  exact enclosedBy_of_head_ne hcount fun hhead ↦ hfront (Option.some.inj hhead ▸ hd)

theorem isFree_enclosedBy_cons_iff_of_ne {d : Char} (hd : d ≠ c) :
    Scan.IsFree (enclosedBy c 1) (d :: t) ↔ Scan.IsFree (enclosedBy c 1) t := by
  change Scan.IsFree (enclosedBy c 1) ([d] ++ t) ↔ _
  exact isFree_enclosedBy_append_left_iff Nat.one_pos (by simpa using Ne.symm hd)

theorem isFree_enclosedBy_of_not_mem (hcount : 0 < count) (h : c ∉ t) :
    Scan.IsFree (enclosedBy c count) t := by
  rw [← List.append_nil t, isFree_enclosedBy_append_left_iff hcount h, Scan.isFree_nil_iff]
  exact fun before ↦ enclosedBy_of_head_ne hcount (by simp)

theorem isFree_enclosedBy_append_right_iff (htail : c ∉ tail) :
    Scan.IsFree (enclosedBy c 1) (t ++ tail) ↔ Scan.IsFree (enclosedBy c 1) t := by
  induction t with
  | nil =>
    exact iff_of_true (isFree_enclosedBy_of_not_mem Nat.one_pos htail)
      (isFree_enclosedBy_of_not_mem Nat.one_pos List.not_mem_nil)
  | cons d t ih =>
    by_cases hd : d = c
    · subst hd
      have hmem : d ∈ t ++ tail ↔ d ∈ t := by simp [htail]
      have hhead : d ∈ t → ((t ++ tail).head? = some d ↔ t.head? = some d) := fun hin ↦ by
        rw [List.head?_append_of_ne_nil t (List.ne_nil_of_mem hin)]
      rw [List.cons_append, isFree_enclosedBy_cons_iff, isFree_enclosedBy_cons_iff, ih, hmem]
      exact and_congr_left' (forall_congr' hhead)
    · rw [List.cons_append, isFree_enclosedBy_cons_iff_of_ne hd,
        isFree_enclosedBy_cons_iff_of_ne hd, ih]

/-- Escaping neither makes a mark nor unmakes one. -/
theorem isFree_enclosedBy_escape_iff (hc : c ∉ entityChars) :
    Scan.IsFree (enclosedBy c 1) (escape t) ↔ Scan.IsFree (enclosedBy c 1) t := by
  induction t with
  | nil => rfl
  | cons d t ih =>
    by_cases hd : d = c
    · subst hd
      calc
        Scan.IsFree (enclosedBy d 1) (escape (d :: t)) ↔
            Scan.IsFree (enclosedBy d 1) (d :: escape t) := by
          rw [escape_cons, escapedChar_of_not_mem hc, List.singleton_append]
        _ ↔ Scan.IsFree (enclosedBy d 1) (d :: t) := by
          rw [isFree_enclosedBy_cons_iff, isFree_enclosedBy_cons_iff, ih, mem_escape_iff hc,
            head_escape_iff hc]
    · have hentity : c ∉ escapedChar d := by
        rw [← List.count_eq_zero, count_escapedChar hc, List.count_eq_zero]
        simpa using Ne.symm hd
      rw [escape_cons, isFree_enclosedBy_append_left_iff Nat.one_pos hentity, ih,
        isFree_enclosedBy_cons_iff_of_ne hd]

/-! ## Bold and italic text -/

/-- No emphasis stands in the text: there are not two asterisks with other text between them. -/
def IsUnstressed (t : Text) : Prop := Scan.IsFree (enclosedBy '*' 1) t

theorem IsUnstressed.bold (h : IsUnstressed t) : Scan.IsFree (enclosedBy '*' 2) t := by
  rintro before tail htail
  rw [Option.eq_none_iff_forall_ne_some]
  rintro ⟨run, extra⟩ heq
  obtain ⟨hne, hnot, -, rest, rfl⟩ := (enclosedBy_eq_some_iff Nat.two_pos).mp heq
  -- The inner pair of asterisks encloses the same text.
  have hinner : '*' :: run ++ '*' :: ('*' :: rest) <:+ t :=
    (List.suffix_cons '*' _).trans (by simpa [List.replicate_succ] using htail)
  have hitalic : enclosedBy '*' 1 none ('*' :: run ++ '*' :: ('*' :: rest)) =
      some (run, run.length + 1) :=
    (enclosedBy_eq_some_iff Nat.one_pos).mpr ⟨hne, hnot, rfl, '*' :: rest, by simp⟩
  exact Option.some_ne_none _ (hitalic.symm.trans (h none _ hinner))

theorem spends_element (tag : Text) (hcount : 0 < count) (htag : '*' ∉ tag) :
    Scan.Spends (enclosedBy '*' count) (element tag) '*' := by
  intro before t run extra h
  obtain ⟨-, hnot, hlength, rest, rfl⟩ := (enclosedBy_eq_some_iff hcount).mp h
  have hmark : List.replicate count '*' ++ run ++ List.replicate count '*' ++ rest =
      (List.replicate count '*' ++ run ++ List.replicate count '*') ++ rest := rfl
  have htaken : (List.replicate count '*' ++ run ++ List.replicate count '*').length =
      extra + 1 := by
    simp
    omega
  have hwritten : (element tag run).count '*' = 0 := by
    rw [List.count_eq_zero]
    simp [element, htag, hnot]
  rw [hmark, ← htaken, List.take_left, hwritten]
  simp
  omega

/-- The text with its code spans as elements, before bold and italic text are read. -/
def codeSpans (t : Text) : Text :=
  Scan.substitute (enclosedBy '\x60' 1) (fun code ↦ element "code" (escape code)) t

/-- Emphasis leaves the text as it is, or the text has fewer asterisks afterwards. -/
theorem isUnstressed_or_count_lt (t : Text) :
    IsUnstressed (codeSpans t) ∧ emphasis t = codeSpans t ∨
      (emphasis t).count '*' < (codeSpans t).count '*' := by
  have hbold := Scan.isFree_or_count_lt (looksAhead_enclosedBy '*' 2) rfl
    (spends_element "strong" Nat.two_pos (by decide)) (codeSpans t)
  have hitalic := Scan.isFree_or_count_lt (looksAhead_enclosedBy '*' 1) rfl
    (spends_element "em" Nat.one_pos (by decide))
  rw [show emphasis t = Scan.substitute (enclosedBy '*' 1) (element "em")
    (Scan.substitute (enclosedBy '*' 2) (element "strong") (codeSpans t)) from rfl]
  rcases hbold with hbold | hbold
  · rw [Scan.substitute_of_isFree hbold]
    exact (hitalic (codeSpans t)).imp_left fun h ↦ ⟨h, Scan.substitute_of_isFree h⟩
  · right
    rcases hitalic (Scan.substitute (enclosedBy '*' 2) (element "strong") (codeSpans t)) with h | h
    · rwa [Scan.substitute_of_isFree h]
    · exact h.trans hbold

/-- Where no emphasis stands, only code spans are read. -/
theorem emphasis_of_isUnstressed (h : IsUnstressed (codeSpans t)) : emphasis t = codeSpans t := by
  rw [show emphasis t = Scan.substitute (enclosedBy '*' 1) (element "em")
    (Scan.substitute (enclosedBy '*' 2) (element "strong") (codeSpans t)) from rfl,
    Scan.substitute_of_isFree h.bold, Scan.substitute_of_isFree h]

theorem codeSpans_of_not_mem (h : '\x60' ∉ t) : codeSpans t = t :=
  Scan.substitute_of_isFree (isFree_enclosedBy_of_not_mem Nat.one_pos h)

/-! ## Signs that stay -/

theorem keeps_enclosedBy {d : Char} {write : Text → Text} (hcount : 0 < count) (hne : d ≠ c)
    (hwrite : ∀ run, (write run).count d = run.count d) :
    Scan.Keeps (enclosedBy c count) write d := by
  intro before t run extra h
  obtain ⟨-, -, hlength, rest, rfl⟩ := (enclosedBy_eq_some_iff hcount).mp h
  have hmark : (List.replicate count c).count d = 0 :=
    List.count_eq_zero.mpr fun hmem ↦ hne (List.eq_of_mem_replicate hmem)
  have htaken : (List.replicate count c ++ run ++ List.replicate count c).length = extra + 1 := by
    simp
    omega
  calc
    (write run).count d = run.count d := hwrite run
    _ = (List.replicate count c ++ run ++ List.replicate count c).count d := by
      rw [List.count_append, List.count_append, hmark, Nat.zero_add, Nat.add_zero]
    _ = _ := by rw [← htaken, List.take_left]

theorem count_codeSpans {d : Char} (hd : d ∈ keptSigns) (hne : d ≠ '\x60') (t : Text) :
    (codeSpans t).count d = t.count d := by
  have hentity : d ∉ entityChars := not_mem_of_isSignless hd (by decide)
  exact Scan.count_substitute (keeps_enclosedBy Nat.one_pos hne fun run ↦ by
    rw [count_element hd (by decide), count_escape hentity]) t

/-- Emphasis keeps the signs that are read across lines. -/
theorem count_emphasis {d : Char} (hd : d ∈ keptSigns) (hcode : d ≠ '\x60') (hstar : d ≠ '*')
    (t : Text) : (emphasis t).count d = t.count d := by
  calc (emphasis t).count d
      = (Scan.substitute (enclosedBy '*' 2) (element "strong") (codeSpans t)).count d :=
        Scan.count_substitute (keeps_enclosedBy Nat.one_pos hstar fun run ↦
          count_element hd (by decide) run) _
    _ = (codeSpans t).count d :=
        Scan.count_substitute (keeps_enclosedBy Nat.two_pos hstar fun run ↦
          count_element hd (by decide) run) _
    _ = t.count d := count_codeSpans hd hcode t

end PluginReadme.Markup
