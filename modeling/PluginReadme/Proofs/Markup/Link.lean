import PluginReadme.Markup.Inline
import PluginReadme.Proofs.Markup.Escape
import PluginReadme.Proofs.Text.Scan

/-!
# Links as they are written

A link with an address is read exactly where it is written with its brackets, its parentheses and
perhaps a title (`link_eq_some_iff`). The element in its place has one opening bracket less
(`spends_link`), so a text that keeps its brackets has no links. Nothing that holds neither an
opening bracket nor a closing parenthesis makes a link of what stands in front of it.
-/

namespace PluginReadme.Markup

variable {t inside tail title : Text} {l : Link}

/-! ## The parts of a link -/

/-- A text in brackets ends at the first closing bracket. -/
theorem bracketed?_eq_some_iff : bracketed? t = some (inside, tail) ↔
    inside ≠ [] ∧ ']' ∉ inside ∧ t = '[' :: inside ++ ']' :: tail := by
  constructor
  · intro h
    unfold bracketed? at h
    split at h
    · next rest =>
      simp only [Text.drop_length_takeWhile] at h
      split at h
      · next tail' hrest =>
        split_ifs at h with hempty
        obtain ⟨rfl, rfl⟩ := Prod.mk.inj (Option.some.inj h)
        refine ⟨by simpa using hempty, Text.not_mem_takeWhile_ne _ _, ?_⟩
        rw [List.cons_append, ← hrest, List.takeWhile_append_dropWhile]
      · exact absurd h (by simp)
    · exact absurd h (by simp)
  · rintro ⟨hne, hclose, rfl⟩
    rw [List.cons_append, bracketed?]
    simp only [Text.takeWhile_ne_append_cons hclose, List.drop_left]
    rw [if_neg (by simpa using hne)]

/-- A title stands in double quotes between blanks and the closing parenthesis. -/
theorem linkTitle?_eq_some_iff {length : Nat} : linkTitle? t = some (title, length) ↔
    ∃ gap rest, gap ≠ [] ∧ (∀ c ∈ gap, isBlank c = true) ∧ '\"' ∉ title ∧
      t = gap ++ '\"' :: title ++ '\"' :: ')' :: rest ∧ length = gap.length + title.length + 3 := by
  constructor
  · intro h
    unfold linkTitle? at h
    dsimp only at h
    split at h
    · next body hbody =>
      rw [Text.drop_length_takeWhile] at h
      split_ifs at h with hguard
      obtain ⟨hshort, hclose⟩ := Bool.and_eq_true_iff.mp hguard
      obtain ⟨rfl, rfl⟩ := Prod.mk.inj (Option.some.inj h)
      obtain ⟨rest, hrest⟩ := List.isPrefixOf_iff_prefix.mp hclose
      have ht : t.takeWhile isBlank ++ '\"' :: body = t := by
        rw [← hbody]
        exact List.takeWhile_append_dropWhile
      have hlength := congrArg List.length ht
      rw [List.length_append] at hlength
      rw [hbody, decide_eq_true_eq] at hshort
      refine ⟨t.takeWhile isBlank, rest, ?_, Text.forall_mem_takeWhile _ _,
        Text.not_mem_takeWhile_ne _ _, ?_, ?_⟩
      · rintro hnil
        rw [hnil, List.length_nil] at hlength
        omega
      · rw [List.append_assoc, List.cons_append, show '\"' :: ')' :: rest = _ from hrest,
          List.takeWhile_append_dropWhile, ht]
      · rw [hbody]
        omega
    · exact absurd h (by simp)
  · rintro ⟨gap, rest, hne, hgap, htitle, rfl, rfl⟩
    have hstrip : Text.stripLeft (gap ++ '\"' :: title ++ '\"' :: ')' :: rest) =
        '\"' :: (title ++ '\"' :: ')' :: rest) := by
      rw [Text.stripLeft, List.append_assoc, List.dropWhile_append_of_pos hgap,
        List.cons_append, List.dropWhile_cons_of_neg (by decide)]
    have hlength : 0 < gap.length := List.length_pos_iff.mpr hne
    unfold linkTitle?
    simp only [hstrip, Text.takeWhile_ne_append_cons htitle, List.drop_left]
    rw [if_pos]
    · simp
    · simp [Text.startsWith]
      exact hlength

/-! ## Whole links -/

/-- A character of an address: neither a blank nor the parenthesis that ends it. -/
def isAddressChar (c : Char) : Bool := c != ')' && !isBlank c

/-- The text is the link as it is written, with blanks before the title if it has one. -/
inductive Link.IsWritten : Link → Text → Prop where
  | bare (text address : Text) (htext : text ≠ [] ∧ ']' ∉ text)
      (haddress : address ≠ [] ∧ ∀ c ∈ address, isAddressChar c = true) :
      IsWritten ⟨text, address, none⟩ ('[' :: text ++ ']' :: '(' :: address ++ [')'])
  | titled (text address gap title : Text) (htext : text ≠ [] ∧ ']' ∉ text)
      (haddress : address ≠ [] ∧ ∀ c ∈ address, isAddressChar c = true)
      (hgap : gap ≠ [] ∧ ∀ c ∈ gap, isBlank c = true) (htitle : '\"' ∉ title) :
      IsWritten ⟨text, address, some title⟩
        ('[' :: text ++ ']' :: '(' :: address ++ gap ++ '\"' :: title ++ ['\"', ')'])

theorem exists_isWritten_of_link {before : Option Char} {extra : Nat}
    (h : link before t = some (l, extra)) :
    ∃ written rest, l.IsWritten written ∧ t = written ++ rest ∧ written.length = extra + 1 := by
  unfold link at h
  split at h
  · next text rest hbracketed =>
    obtain ⟨hne, hclose, rfl⟩ := bracketed?_eq_some_iff.mp hbracketed
    dsimp only at h
    rw [Text.drop_length_takeWhile,
      show (fun c ↦ c != ')' && !isBlank c) = isAddressChar from rfl] at h
    have hrest := List.takeWhile_append_dropWhile (p := isAddressChar) (l := rest)
    have hchars := Text.forall_mem_takeWhile isAddressChar rest
    generalize rest.takeWhile isAddressChar = address at h hrest hchars
    generalize rest.dropWhile isAddressChar = tail at h hrest
    subst hrest
    split_ifs at h with hempty hend
    · obtain ⟨more, rfl⟩ := List.isPrefixOf_iff_prefix.mp hend
      obtain ⟨rfl, rfl⟩ := Prod.mk.inj (Option.some.inj h)
      refine ⟨_, more, .bare text address ⟨hne, hclose⟩ ⟨by simpa using hempty, hchars⟩, ?_, ?_⟩
      · simp
      · simp
        omega
    · obtain ⟨⟨title, length⟩, htitle, hl⟩ := Option.map_eq_some_iff.mp h
      obtain ⟨rfl, rfl⟩ := Prod.mk.inj hl
      obtain ⟨gap, more, hgap, hblank, hquote, rfl, rfl⟩ := linkTitle?_eq_some_iff.mp htitle
      refine ⟨_, more, .titled text address gap title ⟨hne, hclose⟩
        ⟨by simpa using hempty, hchars⟩ ⟨hgap, hblank⟩ hquote, ?_, ?_⟩
      · simp
      · simp
        omega
  · exact absurd h (by simp)

/-- A link that is written is read, whatever follows it. -/
theorem link_of_isWritten {before : Option Char} {written : Text} {extra : Nat}
    (h : l.IsWritten written) (hlength : written.length = extra + 1) (rest : Text) :
    link before (written ++ rest) = some (l, extra) := by
  cases h with
  | bare text address htext haddress =>
    have hbracketed : bracketed? ('[' :: text ++ ']' :: '(' :: address ++ [')'] ++ rest) =
        some (text, '(' :: (address ++ ')' :: rest)) :=
      bracketed?_eq_some_iff.mpr ⟨htext.1, htext.2, by simp⟩
    have haddressRun : (address ++ ')' :: rest).takeWhile isAddressChar = address :=
      Text.takeWhile_append_cons haddress.2 (by decide)
    unfold link
    simp only [hbracketed]
    rw [show (fun c ↦ c != ')' && !isBlank c) = isAddressChar from rfl, haddressRun,
      List.drop_left, if_neg (by simpa using haddress.1), if_pos (by simp [Text.startsWith])]
    simp at hlength ⊢
    omega
  | titled text address gap title htext haddress hgap htitle =>
    have hbracketed : bracketed?
        ('[' :: text ++ ']' :: '(' :: address ++ gap ++ '\"' :: title ++ ['\"', ')'] ++ rest) =
        some (text, '(' :: (address ++ (gap ++ '\"' :: title ++ '\"' :: ')' :: rest))) :=
      bracketed?_eq_some_iff.mpr ⟨htext.1, htext.2, by simp⟩
    have htitled : linkTitle? (gap ++ '\"' :: title ++ '\"' :: ')' :: rest) =
        some (title, gap.length + title.length + 3) :=
      linkTitle?_eq_some_iff.mpr ⟨gap, rest, hgap.1, hgap.2, htitle, rfl, rfl⟩
    obtain ⟨c, gap, rfl⟩ := List.exists_cons_of_ne_nil hgap.1
    have hc : isBlank c = true := hgap.2 c List.mem_cons_self
    have haddressRun : (address ++ (c :: gap ++ '\"' :: title ++ '\"' :: ')' :: rest)).takeWhile
        isAddressChar = address :=
      Text.takeWhile_append_cons haddress.2 (by simp [isAddressChar, hc])
    have hopen : Text.startsWith ")" (c :: gap ++ '\"' :: title ++ '\"' :: ')' :: rest) =
        false := by
      have hne : ')' ≠ c := fun heq ↦ by simp [← heq, show isBlank ')' = false by decide] at hc
      simp [Text.startsWith, List.isPrefixOf, hne]
    unfold link
    simp only [hbracketed]
    rw [show (fun c ↦ c != ')' && !isBlank c) = isAddressChar from rfl, haddressRun,
      List.drop_left, if_neg (by simpa using haddress.1), hopen, if_neg Bool.false_ne_true, htitled]
    simp at hlength ⊢
    omega

/-- A link is read exactly where one is written. -/
theorem link_eq_some_iff {before : Option Char} {extra : Nat} :
    link before t = some (l, extra) ↔
      ∃ written rest, l.IsWritten written ∧ t = written ++ rest ∧ written.length = extra + 1 := by
  refine ⟨exists_isWritten_of_link, ?_⟩
  rintro ⟨written, rest, hwritten, rfl, hlength⟩
  exact link_of_isWritten hwritten hlength rest

/-! ## Texts without links -/

theorem looksAhead_link : Scan.LooksAhead link := fun _ _ ↦ rfl

theorem link_of_head_ne {before : Option Char} (h : t.head? ≠ some '[') : link before t = none := by
  rw [Option.eq_none_iff_forall_ne_some]
  rintro ⟨l, extra⟩ heq
  obtain ⟨written, rest, hwritten, rfl, -⟩ := link_eq_some_iff.mp heq
  cases hwritten <;> exact h rfl

theorem isFree_link_of_not_mem (h : '[' ∉ t) : Scan.IsFree link t := by
  rintro before tail htail
  apply link_of_head_ne
  exact fun hhead ↦ h (htail.subset (List.mem_of_mem_head? hhead))

/-- A link ends with its closing parenthesis, so nothing after it is needed to read it. -/
theorem Link.IsWritten.getLast {written : Text} (h : l.IsWritten written) :
    written.getLast? = some ')' := by
  cases h <;> rw [List.getLast?_append] <;> rfl

/-- Behind a text without closing parenthesis no link comes to its end. -/
theorem link_append_of_not_mem {before : Option Char} (htail : ')' ∉ tail)
    (h : link before t = none) : link before (t ++ tail) = none := by
  rw [Option.eq_none_iff_forall_ne_some]
  rintro ⟨l, extra⟩ heq
  obtain ⟨written, rest, hwritten, hsplit, hlength⟩ := link_eq_some_iff.mp heq
  rcases List.append_eq_append_iff.mp hsplit with ⟨more, hmore, htail'⟩ | ⟨more, rfl, -⟩
  · -- The closing parenthesis would stand in the tail, unless the link is all of the text.
    by_cases hnil : more = []
    · subst hnil
      have hlink : link before t = some (l, extra) :=
        link_eq_some_iff.mpr ⟨written, [], hwritten, by simpa using hmore.symm, hlength⟩
      exact Option.some_ne_none _ (hlink.symm.trans h)
    · have hlast := hwritten.getLast
      rw [hmore, List.getLast?_append_of_ne_nil _ hnil] at hlast
      exact htail (htail' ▸ List.mem_append_left _ (List.mem_of_getLast? hlast))
  · have hlink : link before (written ++ more) = some (l, extra) :=
      link_eq_some_iff.mpr ⟨written, more, hwritten, rfl, hlength⟩
    exact Option.some_ne_none _ (hlink.symm.trans h)

theorem link_of_append {before : Option Char} (h : link before (t ++ tail) = none) :
    link before t = none := by
  rw [Option.eq_none_iff_forall_ne_some]
  rintro ⟨l, extra⟩ heq
  obtain ⟨written, rest, hwritten, rfl, hlength⟩ := link_eq_some_iff.mp heq
  have hlink : link before (written ++ rest ++ tail) = some (l, extra) :=
    link_eq_some_iff.mpr ⟨written, rest ++ tail, hwritten, List.append_assoc _ _ _, hlength⟩
  exact Option.some_ne_none _ (hlink.symm.trans h)

/-- What holds no bracket and no parenthesis may stand on both sides. -/
theorem isFree_link_append_iff {front : Text} (hfront : '[' ∉ front) (htail : '[' ∉ tail)
    (hclose : ')' ∉ tail) : Scan.IsFree link (front ++ t ++ tail) ↔ Scan.IsFree link t := by
  have hleft : Scan.IsFree link (front ++ (t ++ tail)) ↔ Scan.IsFree link (t ++ tail) := by
    apply Scan.isFree_append_left_iff
    intro c hc before rest
    exact link_of_head_ne fun hhead ↦ hfront (Option.some.inj hhead ▸ hc)
  rw [List.append_assoc, hleft]
  constructor
  · rintro h before other ⟨more, rfl⟩
    refine link_of_append (h before (other ++ tail) ⟨more, ?_⟩)
    rw [List.append_assoc]
  · exact Scan.isFree_append_right (isFree_link_of_not_mem htail)
      fun _ _ ↦ link_append_of_not_mem hclose

/-! ## The elements of links -/

def Link.element (l : Link) : Text :=
  "<a href=\"" ++ escape l.address ++ "\"" ++ titleAttribute l.title ++ ">" ++ escape l.text ++
    "</a>"

theorem linkHtml_none (l : Link) : linkHtml none l = .ok l.element := rfl

theorem links_none_nil [LinkDefinition.Collector] (t : Text) :
    links none [] t = .ok (Scan.substitute link Link.element t) := by
  rw [links, Scan.substituteE_eq_ok linkHtml_none]
  rfl

theorem bracket_not_mem_entityChars : '[' ∉ entityChars := by decide

theorem count_titleAttribute (title : Text) :
    (titleAttribute (some title)).count '[' = title.count '[' := by
  by_cases hnil : title = []
  · subst hnil
    rfl
  · have hsome : (some title).filter (fun t ↦ !t.isEmpty) = some title := by simp [hnil]
    have hmark : (" title=\"" : Text).count '[' = 0 := by decide
    have hquote : ("\"" : Text).count '[' = 0 := by decide
    unfold titleAttribute
    simp only [hsome, List.count_append, count_escape bracket_not_mem_entityChars, hmark, hquote,
      Nat.zero_add, Nat.add_zero]

/-- One opening bracket is gone. -/
theorem Link.IsWritten.count {written : Text} (h : l.IsWritten written) :
    written.count '[' = l.element.count '[' + 1 := by
  have helement : l.element.count '[' =
      l.address.count '[' + (titleAttribute l.title).count '[' + l.text.count '[' := by
    have hopen : ("<a href=\"" : Text).count '[' = 0 := by decide
    have hquote : ("\"" : Text).count '[' = 0 := by decide
    have hend : (">" : Text).count '[' = 0 := by decide
    have hclose : ("</a>" : Text).count '[' = 0 := by decide
    unfold Link.element
    simp only [List.count_append, count_escape bracket_not_mem_entityChars, hopen, hquote, hend,
      hclose, Nat.zero_add, Nat.add_zero]
  rw [helement]
  cases h with
  | bare text address htext haddress =>
    simp [titleAttribute, List.count_append]
    omega
  | titled text address gap title htext haddress hgap htitle =>
    have hgapCount : gap.count '[' = 0 :=
      List.count_eq_zero.mpr fun hmem ↦ absurd (hgap.2 _ hmem) (by decide)
    rw [count_titleAttribute]
    simp [List.count_append]
    omega

/-- Every link that is read spends a bracket. -/
theorem spends_link : Scan.Spends link Link.element '[' := by
  intro before t l extra h
  obtain ⟨written, rest, hwritten, rfl, hlength⟩ := link_eq_some_iff.mp h
  rw [← hlength, List.take_left, hwritten.count]
  exact Nat.lt_succ_self _

end PluginReadme.Markup
