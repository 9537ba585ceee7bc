import PluginReadme.Proofs.Check.Emphasis
import PluginReadme.Proofs.Readme.Heading

/-!
# What one line is to the checks

A written heading is a heading of one of the three shapes and nothing else to any check. A mark that
is put after a line instead of its last blanks makes no fence and no heading of number signs of it
(`isFence_stripRight_append`, `isHashed_of_stripRight_append`). A parenthesis at the end closes all
links (`hasOpenLink_of_getLast`). Equals signs and blanks around a title matter neither for links
nor for emphasis (`sameInline_padded`).
-/

namespace PluginReadme.Check

variable {line front tail mark t : Text}

/-! ## Lines by their first character -/

theorem isHashed_of_head_stripLeft_ne_hash (h : (Text.stripLeft line).head? ≠ some '#') :
    Heading.isHashed line = false := by
  rw [Bool.eq_false_iff]
  exact fun hhashed ↦ h (Heading.head_stripLeft_of_isHashed hhashed)

theorem isFence_of_head_strip_ne_backtick (h : (Text.strip line).head? ≠ some '\x60') :
    Fence.isFence line = false := by
  rw [Fence.isFence, Bool.eq_false_iff]
  intro hfence
  obtain ⟨rest, hrest⟩ := List.isPrefixOf_iff_prefix.mp hfence
  exact h (by rw [← hrest]; rfl)

/-! ## Written headings -/

/-- A heading of one of the three shapes is not malformed. -/
theorem isMalformed_of_isWritten (h : Heading.IsWritten line) : isMalformed line = false := by
  unfold isMalformed
  dsimp only
  rw [Text.strip, Text.trim_eq_self h.isTrimmed, h.isCanonical, Bool.not_true, Bool.and_false]

theorem isHashed_of_isWritten (h : Heading.IsWritten line) : Heading.isHashed line = false := by
  apply isHashed_of_head_stripLeft_ne_hash
  rw [Text.stripLeft, Text.dropWhile_eq_self h.isTrimmed.head, h.head_eq]
  decide

theorem isFence_of_isWritten (h : Heading.IsWritten line) : Fence.isFence line = false := by
  apply isFence_of_head_strip_ne_backtick
  rw [Text.strip, Text.trim_eq_self h.isTrimmed, h.head_eq]
  decide

/-! ## Malformed headings and number signs -/

theorem head_strip_of_isMalformed (h : isMalformed line = true) :
    (Text.strip line).head? = some '=' := by
  unfold isMalformed at h
  dsimp only at h
  rw [Bool.and_eq_true, Heading.startsWith_mark_iff] at h
  exact h.1

/-- With something that is not blank, a line starts with the same character from either trim. -/
theorem head_stripLeft_eq_head_strip (h : Text.strip line ≠ []) :
    (Text.stripLeft line).head? = (Text.strip line).head? := by
  have hsplit := Text.dropEndWhile_append_takeEndWhile isBlank (line.dropWhile isBlank)
  rw [Text.stripLeft, ← hsplit]
  exact List.head?_append_of_ne_nil _ h

theorem strip_ne_nil_of_mem {c : Char} (hmem : c ∈ line) (hc : isBlank c = false) :
    Text.strip line ≠ [] := by
  intro hnil
  rw [Text.strip, Text.trim_eq_nil_iff] at hnil
  rw [hnil c hmem] at hc
  exact Bool.noConfusion hc

theorem isHashed_of_isMalformed (h : isMalformed line = true) : Heading.isHashed line = false := by
  apply isHashed_of_head_stripLeft_ne_hash
  have hhead := head_strip_of_isMalformed h
  rw [head_stripLeft_eq_head_strip (by rintro hnil; simp [hnil] at hhead), hhead]
  decide

theorem isFence_of_isMalformed (h : isMalformed line = true) : Fence.isFence line = false := by
  apply isFence_of_head_strip_ne_backtick
  rw [head_strip_of_isMalformed h]
  decide

theorem isFence_of_isHashed (h : Heading.isHashed line = true) : Fence.isFence line = false := by
  apply isFence_of_head_strip_ne_backtick
  have hhead := Heading.head_stripLeft_of_isHashed h
  have hmem : '#' ∈ line := (List.dropWhile_suffix isBlank).subset (List.mem_of_mem_head? hhead)
  rw [← head_stripLeft_eq_head_strip (strip_ne_nil_of_mem hmem (by decide)), hhead]
  decide

/-! ## Marks after a line -/

/-- What fixes put after a line. -/
structure IsClosingMark (mark : Text) : Prop where
  ne_nil : mark ≠ []
  eq_of_mem : ∀ c ∈ mark, c = '*' ∨ c = ')'

theorem IsClosingMark.not_mem (h : IsClosingMark mark) {c : Char} (hstar : c ≠ '*')
    (hclose : c ≠ ')') : c ∉ mark := by
  intro hmem
  rcases h.eq_of_mem c hmem with heq | heq
  · exact hstar heq
  · exact hclose heq

theorem IsClosingMark.isBlank_eq_false (h : IsClosingMark mark) {c : Char} (hc : c ∈ mark) :
    isBlank c = false := by
  rcases h.eq_of_mem c hc with rfl | rfl
  · decide
  · decide

/-- The line is its trimmed text between blanks, and those at the end are dropped. -/
theorem exists_stripRight (h : Text.strip line ≠ []) :
    ∃ front tail : Text, line = front ++ Text.strip line ++ tail ∧
      Text.stripRight line = front ++ Text.strip line ∧ (∀ c ∈ front, isBlank c = true) ∧
      ∀ c ∈ tail, isBlank c = true := by
  obtain ⟨front, tail, heq, hfront, htail⟩ := Text.exists_trim isBlank line
  change line = front ++ Text.strip line ++ tail at heq
  refine ⟨front, tail, heq, ?_, hfront, htail⟩
  calc
    Text.stripRight line = Text.stripRight (front ++ Text.strip line ++ tail) := by rw [← heq]
    _ = Text.stripRight (front ++ Text.strip line) := Text.dropEndWhile_append_of_all htail
    _ = front ++ Text.strip line := by
      apply Text.dropEndWhile_eq_self
      intro c hc
      rw [List.getLast?_append_of_ne_nil _ h] at hc
      exact (Text.isTrimmed_trim isBlank line).last c hc

/-- Blanks in front of a trimmed text are dropped, whatever follows it. -/
theorem stripLeft_append_strip (h : Text.strip line ≠ []) (hfront : ∀ c ∈ front, isBlank c = true)
    (rest : Text) :
    Text.stripLeft (front ++ (Text.strip line ++ rest)) = Text.strip line ++ rest := by
  rw [Text.stripLeft, List.dropWhile_append_of_pos hfront]
  apply Text.dropWhile_eq_self
  intro c hc
  rw [List.head?_append_of_ne_nil _ h] at hc
  exact (Text.isTrimmed_trim isBlank line).head c hc

theorem stripLeft_stripRight_append (h : Text.strip line ≠ []) (mark : Text) :
    Text.stripLeft (Text.stripRight line ++ mark) = Text.strip line ++ mark := by
  obtain ⟨front, tail, -, hright, hfront, -⟩ := exists_stripRight h
  rw [hright, List.append_assoc, stripLeft_append_strip h hfront]

/-- A mark behind a line changes nothing in front of it. -/
theorem strip_stripRight_append (h : Text.strip line ≠ []) (hmark : IsClosingMark mark) :
    Text.strip (Text.stripRight line ++ mark) = Text.strip line ++ mark := by
  have hleft := stripLeft_stripRight_append h mark
  rw [Text.stripLeft] at hleft
  rw [Text.strip, Text.trim, hleft]
  apply Text.dropEndWhile_eq_self
  intro c hc
  rw [List.getLast?_append_of_ne_nil _ hmark.ne_nil] at hc
  exact hmark.isBlank_eq_false (List.mem_of_getLast? hc)

/-- A mark behind a line neither makes a fence nor unmakes one. -/
theorem isFence_stripRight_append (h : Text.strip line ≠ []) (hmark : IsClosingMark mark) :
    Fence.isFence (Text.stripRight line ++ mark) = Fence.isFence line := by
  have hbacktick : ∀ c ∈ Fence.mark, c ∉ mark := by
    intro c hc
    rw [List.eq_of_mem_replicate hc]
    exact hmark.not_mem (by decide) (by decide)
  calc
    Fence.isFence (Text.stripRight line ++ mark) =
        Text.startsWith Fence.mark (Text.strip line ++ mark) := by
      rw [Fence.isFence, strip_stripRight_append h hmark]
    _ = Text.startsWith Fence.mark (Text.strip line) := Text.startsWith_append mark hbacktick

theorem isPicture_append (h : ∀ c ∈ tail, c ≠ '!' ∧ c ≠ '[') :
    Heading.isPicture (t ++ tail) = Heading.isPicture t := by
  have hbang : Text.startsWith "!" (t ++ tail) = Text.startsWith "!" t := by
    apply Text.startsWith_append
    intro c hc hmem
    exact (h c hmem).1 (List.mem_singleton.mp hc)
  have hlink : Text.startsWith "[!" (t ++ tail) = Text.startsWith "[!" t := by
    apply Text.startsWith_append
    intro c hc hmem
    rcases List.mem_cons.mp hc with heq | hc
    · exact (h c hmem).2 heq
    · exact (h c hmem).1 (List.mem_singleton.mp hc)
  rw [Heading.isPicture, Heading.isPicture, hbang, hlink]

/-- Two texts that go on with something else after the same beginning. -/
theorem isHashed_of_append {body new : Text} (hbody : Text.IsTrimmed isBlank body)
    (hne : body ≠ []) (hmark : IsClosingMark mark) (htail : ∀ c ∈ tail, isBlank c = true)
    (hline : Text.stripLeft line = body ++ tail) (hnew : Text.stripLeft new = body ++ mark)
    (h : Heading.isHashed new = true) : Heading.isHashed line = true := by
  obtain ⟨c, rest, rfl⟩ := List.exists_cons_of_ne_nil hne
  have hc : c = '#' := by
    have hhead := Heading.head_stripLeft_of_isHashed h
    rw [hnew] at hhead
    exact Option.some.inj hhead
  subst hc
  unfold Heading.isHashed at h ⊢
  rw [hnew] at h
  rw [hline]
  change ((((rest ++ mark).dropWhile Heading.isHash).head?.any isBlank &&
    !Heading.isPicture (Text.stripLeft (rest ++ mark))) = true) at h
  change ((((rest ++ tail).dropWhile Heading.isHash).head?.any isBlank &&
    !Heading.isPicture (Text.stripLeft (rest ++ tail))) = true)
  by_cases hhashes : ∀ d ∈ rest, Heading.isHash d = true
  · -- The mark follows the number signs at once.
    rw [List.dropWhile_append_of_pos hhashes, Text.dropWhile_eq_self] at h
    · obtain ⟨d, more, hcons⟩ := List.exists_cons_of_ne_nil hmark.ne_nil
      have hd : isBlank d = false := hmark.isBlank_eq_false (hcons ▸ List.mem_cons_self)
      rw [hcons, Bool.and_eq_true] at h
      change isBlank d = true ∧ _ at h
      rw [hd] at h
      exact absurd h.1 Bool.false_ne_true
    · intro d hd
      rw [Bool.eq_false_iff]
      intro hhash
      have heq : d = '#' := by simpa [Heading.isHash] using hhash
      exact hmark.not_mem (by decide) (by decide) (heq ▸ List.mem_of_mem_head? hd)
  · have hother : ∃ d ∈ rest, Heading.isHash d = false := by simpa using hhashes
    have hrest : rest ≠ [] := List.ne_nil_of_mem hother.choose_spec.1
    have hword : ∃ d ∈ rest, isBlank d = false := by
      refine ⟨rest.getLast hrest, List.getLast_mem hrest, ?_⟩
      apply hbody.last
      rw [List.getLast?_cons_of_ne_nil hrest, List.getLast?_eq_some_getLast hrest]
      rfl
    have hblank : rest.dropWhile Heading.isHash ≠ [] := by
      rw [Ne, List.dropWhile_eq_nil_iff]
      exact hhashes
    rw [Text.dropWhile_append_of_exists _ hother, List.head?_append_of_ne_nil _ hblank,
      Text.stripLeft, Text.dropWhile_append_of_exists _ hword] at h ⊢
    rw [isPicture_append fun d hd ↦
      ⟨by rintro rfl; exact hmark.not_mem (by decide) (by decide) hd,
        by rintro rfl; exact hmark.not_mem (by decide) (by decide) hd⟩] at h
    rw [isPicture_append fun d hd ↦
      ⟨by rintro rfl; exact absurd (htail _ hd) (by decide),
        by rintro rfl; exact absurd (htail _ hd) (by decide)⟩]
    exact h

/-- A mark behind a line makes no heading with number signs. -/
theorem isHashed_of_stripRight_append (hne : Text.strip line ≠ []) (hmark : IsClosingMark mark)
    (h : Heading.isHashed (Text.stripRight line ++ mark) = true) :
    Heading.isHashed line = true := by
  obtain ⟨front, tail, heq, -, hfront, htail⟩ := exists_stripRight hne
  have hleft : Text.stripLeft line = Text.strip line ++ tail := by
    calc
      Text.stripLeft line = Text.stripLeft (front ++ (Text.strip line ++ tail)) := by
        rw [← List.append_assoc, ← heq]
      _ = Text.strip line ++ tail := stripLeft_append_strip hne hfront tail
  exact isHashed_of_append (Text.isTrimmed_trim isBlank line) hne hmark htail hleft
    (stripLeft_stripRight_append hne mark) h

/-! ## Carriage returns -/

/-- A carriage return at the end of a line is a blank like others. -/
theorem isFence_dropFinalReturn (line : Text) :
    Fence.isFence (Text.dropFinalReturn line) = Fence.isFence line := by
  rcases Text.dropFinalReturn_cases line with heq | heq
  · rw [heq]
  · have hstrip : Text.strip line = Text.strip (Text.dropFinalReturn line) := by
      obtain ⟨front, tail, hsplit, hfront, htail⟩ :=
        Text.exists_trim isBlank (Text.dropFinalReturn line)
      calc
        Text.strip line = Text.strip (front ++ Text.strip (Text.dropFinalReturn line) ++
            (tail ++ ['\r'])) := by
          rw [← List.append_assoc, Text.strip.eq_def (Text.dropFinalReturn line), ← hsplit, ← heq]
        _ = Text.strip (Text.dropFinalReturn line) := by
          apply Text.trim_append hfront _ (Text.isTrimmed_trim isBlank _)
          intro c hc
          rcases List.mem_append.mp hc with hc | hc
          · exact htail c hc
          · exact List.mem_singleton.mp hc ▸ rfl
    rw [Fence.isFence, Fence.isFence, hstrip]

/-! ## Links -/

def hasOpenLink (line : Text) : Bool := (Text.offset? isOpenLink line).isSome

theorem hasOpenLink_cons (c : Char) (rest : Text) :
    hasOpenLink (c :: rest) = (isOpenLink (c :: rest) || hasOpenLink rest) := by
  rw [hasOpenLink, Text.offset?]
  cases isOpenLink (c :: rest) with
  | true => rfl
  | false => rw [if_neg Bool.false_ne_true, Option.isSome_map]; rfl

theorem isOpenLink_of_ne {c : Char} (h : c ≠ '[') (rest : Text) :
    isOpenLink (c :: rest) = false := by
  rw [isOpenLink]
  exact fun _ heq ↦ h (List.cons.inj heq).1

/-- An address that goes on to a parenthesis at the end of the line has an end. -/
theorem isOpenLink_of_getLast (h : t.getLast? = some ')') : isOpenLink t = false := by
  unfold isOpenLink
  split
  · next rest =>
    split
    · next address heq =>
      obtain ⟨front, hsplit⟩ := List.dropWhile_suffix (fun c ↦ c != ']') (l := rest)
      rw [← hsplit, heq, ← List.cons_append,
        List.getLast?_append_of_ne_nil _ (List.cons_ne_nil _ _)] at h
      cases address with
      | nil => exact absurd h (by decide)
      | cons d address =>
        have hmem : ')' ∈ d :: address := List.mem_of_getLast? h
        rw [List.contains_iff_mem.mpr hmem]
        rfl
    · rfl
  · rfl

/-- A closing parenthesis at the end of a line closes every link on it. -/
theorem hasOpenLink_of_getLast (h : t.getLast? = some ')') : hasOpenLink t = false := by
  induction t with
  | nil => rfl
  | cons c rest ih =>
    rw [hasOpenLink_cons, isOpenLink_of_getLast h, Bool.false_or]
    cases rest with
    | nil => rfl
    | cons d rest => exact ih h

/-! ## Padding -/

theorem hasOpenLink_append_left (h : '[' ∉ front) :
    hasOpenLink (front ++ t) = hasOpenLink t := by
  induction front with
  | nil => rfl
  | cons c front ih =>
    rw [List.mem_cons, not_or] at h
    rw [List.cons_append, hasOpenLink_cons, isOpenLink_of_ne (Ne.symm h.1), ih h.2, Bool.false_or]

/-- An open link is a bracket whose partner an address without end follows. -/
theorem isOpenLink_bracket_iff {rest : Text} :
    isOpenLink ('[' :: rest) = true ↔
      ∃ address, rest.dropWhile (· != ']') = ']' :: '(' :: address ∧ ')' ∉ address := by
  rw [isOpenLink]
  constructor
  · intro h
    split at h
    · next address heq => exact ⟨address, heq, by simpa using h⟩
    · exact absurd h Bool.false_ne_true
  · rintro ⟨address, heq, hend⟩
    rw [heq]
    simpa using hend

/-- Padding after a bracket neither closes it nor ends an address. -/
theorem isOpenLink_append (h : Heading.IsPadding tail) (c : Char) (rest : Text) :
    isOpenLink (c :: (rest ++ tail)) = isOpenLink (c :: rest) := by
  by_cases hc : c = '['
  · subst hc
    have hclose : ']' ∉ tail := h.not_mem (by decide) (by decide)
    have hopen : '(' ∉ tail := h.not_mem (by decide) (by decide)
    have hend : ')' ∉ tail := h.not_mem (by decide) (by decide)
    rw [Bool.eq_iff_iff, isOpenLink_bracket_iff, isOpenLink_bracket_iff]
    by_cases hpartner : ']' ∈ rest
    · rw [Text.dropWhile_append_of_exists tail ⟨']', hpartner, by decide⟩]
      constructor
      · rintro ⟨address, heq, haddress⟩
        match hdrop : rest.dropWhile (· != ']') with
        | [] =>
          rw [hdrop, List.nil_append] at heq
          exact absurd (heq ▸ List.mem_cons_self) hclose
        | [d] =>
          rw [hdrop, List.cons_append, List.nil_append, List.cons.injEq] at heq
          exact absurd (heq.2 ▸ List.mem_cons_self) hopen
        | d :: e :: more =>
          rw [hdrop, List.cons_append, List.cons_append, List.cons.injEq, List.cons.injEq] at heq
          obtain ⟨rfl, rfl, rfl⟩ := heq
          exact ⟨more, rfl, fun hmem ↦ haddress (List.mem_append_left tail hmem)⟩
      · rintro ⟨address, heq, haddress⟩
        refine ⟨address ++ tail, by rw [heq]; rfl, ?_⟩
        rw [List.mem_append, not_or]
        exact ⟨haddress, hend⟩
    · have hall (t : Text) (ht : ']' ∉ t) : t.dropWhile (· != ']') = [] := by
        rw [List.dropWhile_eq_nil_iff]
        intro d hd
        simpa using fun heq : d = ']' ↦ ht (heq ▸ hd)
      rw [hall rest hpartner, hall (rest ++ tail) (by simp [hpartner, hclose])]
  · rw [isOpenLink_of_ne hc, isOpenLink_of_ne hc]

/-- What may stand around a title neither opens a link nor closes one. -/
theorem hasOpenLink_append_padding (h : Heading.IsPadding tail) :
    hasOpenLink (t ++ tail) = hasOpenLink t := by
  induction t with
  | nil =>
    have hopen := hasOpenLink_append_left (t := []) (h.not_mem (by decide : '[' ≠ '=') (by decide))
    rwa [List.append_nil] at hopen
  | cons c rest ih =>
    rw [List.cons_append, hasOpenLink_cons, isOpenLink_append h, ih, hasOpenLink_cons]

/-- Two lines with the same asterisks and links. -/
structure SameInline (line other : Text) : Prop where
  count_eq : other.count '*' = line.count '*'
  boldCount_eq : boldCount other = boldCount line
  hasOpenLink_eq : hasOpenLink other = hasOpenLink line

/-- What may stand around a title adds no asterisks and no links. -/
theorem sameInline_padded (hfront : Heading.IsPadding front) (htail : Heading.IsPadding tail)
    (t : Text) : SameInline t (front ++ t ++ tail) where
  count_eq := by
    have hfront' : front.count '*' = 0 :=
      List.count_eq_zero.mpr (hfront.not_mem (by decide) (by decide))
    have htail' : tail.count '*' = 0 :=
      List.count_eq_zero.mpr (htail.not_mem (by decide) (by decide))
    simp [hfront', htail']
  boldCount_eq := by
    rw [boldCount_append_of_not_mem (htail.not_mem (by decide) (by decide)),
      boldCount_append_left (hfront.not_mem (by decide) (by decide))]
  hasOpenLink_eq := by
    rw [hasOpenLink_append_padding htail,
      hasOpenLink_append_left (hfront.not_mem (by decide) (by decide))]

theorem sameInline_stripRight (line : Text) : SameInline (Text.stripRight line) line := by
  have hfront : Heading.IsPadding [] := fun _ hc ↦ absurd hc List.not_mem_nil
  have htail : Heading.IsPadding (Text.takeEndWhile isBlank line) :=
    Heading.isPadding_of_blank (Text.forall_mem_takeEndWhile isBlank line)
  have hpadded := sameInline_padded hfront htail (Text.stripRight line)
  rwa [List.nil_append, Text.stripRight, Text.dropEndWhile_append_takeEndWhile] at hpadded

theorem boldCount_stripRight_append_bold (line : Text) :
    boldCount (Text.stripRight line ++ boldMark) = boldCount line + 1 := by
  rw [(sameInline_stripRight line).boldCount_eq]
  exact boldCount_append_pair _

theorem count_stripRight_append (line mark : Text) :
    (Text.stripRight line ++ mark).count '*' = line.count '*' + mark.count '*' := by
  rw [(sameInline_stripRight line).count_eq, List.count_append]

/-- The heading that is proposed for a malformed one has its inline markup. -/
theorem sameInline_of_suggested? {heading : Text} (h : isMalformed line = true)
    (hfeed : '\n' ∉ line) (hheading : Heading.suggested? (Text.strip line) = some heading) :
    SameInline line heading := by
  have hfeed' : '\n' ∉ Text.strip line := fun hmem ↦ hfeed (Text.mem_of_mem_trim hmem)
  obtain ⟨n, title, front, tail, -, -, rfl, hstrip, hfront, htail⟩ :=
    Heading.suggested?_eq_some (head_strip_of_isMalformed h) hfeed' hheading
  obtain ⟨left, right, hline, hleft, hright⟩ := Text.exists_trim isBlank line
  have hmarks : Heading.IsPadding (List.replicate n '=') := fun c hc ↦
    Or.inl (List.eq_of_mem_replicate hc)
  have hspace : Heading.IsPadding [' '] :=
    List.forall_mem_singleton.mpr (Or.inr Heading.isBlank_space)
  have hold := sameInline_padded ((Heading.isPadding_of_blank hleft).append hfront)
    (htail.append (Heading.isPadding_of_blank hright)) title
  have hnew := sameInline_padded (hmarks.append hspace) (hspace.append hmarks) title
  have hline' : line = left ++ front ++ title ++ (tail ++ right) := by
    calc
      line = left ++ Text.strip line ++ right := hline
      _ = left ++ front ++ title ++ (tail ++ right) := by
        rw [hstrip]
        simp only [List.append_assoc]
  have hwrite : Heading.write n title =
      List.replicate n '=' ++ [' '] ++ title ++ ([' '] ++ List.replicate n '=') := by
    simp [Heading.write]
  rw [← hline'] at hold
  rw [← hwrite] at hnew
  exact ⟨hnew.count_eq.trans hold.count_eq.symm, hnew.boldCount_eq.trans hold.boldCount_eq.symm,
    hnew.hasOpenLink_eq.trans hold.hasOpenLink_eq.symm⟩

end PluginReadme.Check
