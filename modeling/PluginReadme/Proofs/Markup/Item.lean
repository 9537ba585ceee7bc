import PluginReadme.Markup.Runs
import PluginReadme.Proofs.Text.Cut

/-!
# Items of lists

An item is a mark, blanks and a text. Which lines the reader of items takes, and with which text, is
stated apart from it: the blanks reach as far as they can, but the text has a character at least
(`IsItem`, `item?_eq_some_iff`).
-/

namespace PluginReadme.Markup

variable {line t item : Text} {kind : ListKind}

/-- The blanks behind the mark of an item, and its text. A blank can belong to the text only if
nothing else is left for it. -/
structure IsSetOff (blanks item : Text) : Prop where
  ne_nil : blanks ≠ []
  isBlank : ∀ c ∈ blanks, isBlank c = true
  longest : (∃ c rest, item = c :: rest ∧ PluginReadme.isBlank c = false) ∨ ∃ c, item = [c]

inductive IsItem : ListKind → Text → Text → Prop where
  | ordered {number blanks item : Text} (hne : number ≠ [])
      (hnumber : ∀ c ∈ number, isDecimal c = true) (hitem : IsSetOff blanks item) :
      IsItem .ordered (number ++ '.' :: (blanks ++ item)) item
  | unordered {mark : Char} {blanks item : Text} (hmark : mark = '*' ∨ mark = '-')
      (hitem : IsSetOff blanks item) : IsItem .unordered (mark :: (blanks ++ item)) item

theorem afterBlanks?_eq_some_iff :
    afterBlanks? t = some item ↔ ∃ blanks, t = blanks ++ item ∧ IsSetOff blanks item := by
  constructor
  · intro h
    have hsplit := List.takeWhile_append_dropWhile (p := isBlank) (l := t)
    have hblanks := Text.forall_mem_takeWhile isBlank t
    unfold afterBlanks? at h
    dsimp only at h
    split_ifs at h with hlength hcontent htwo
    · obtain rfl := Option.some.inj h
      refine ⟨t.takeWhile isBlank, hsplit.symm, ⟨fun hnil ↦ hlength ?_, hblanks, .inl ?_⟩⟩
      · rw [hnil, List.nil_append] at hsplit
        rw [Text.stripLeft, hsplit]
      · obtain ⟨c, rest, hcons⟩ := List.exists_cons_of_ne_nil (l := Text.stripLeft t)
          (by simpa using hcontent)
        exact ⟨c, rest, hcons, Text.head_dropWhile isBlank t c (by
          rw [← Text.stripLeft, hcons]; rfl)⟩
    · obtain ⟨c, hlast, rfl⟩ := Option.map_eq_some_iff.mp h
      have hall : ∀ c ∈ t, isBlank c = true := by
        simpa [Text.stripLeft, List.dropWhile_eq_nil_iff] using hcontent
      obtain ⟨blanks, rfl⟩ := List.getLast?_eq_some_iff.mp hlast
      refine ⟨blanks, rfl, ⟨?_, fun d hd ↦ hall d (List.mem_append_left _ hd), .inr ⟨c, rfl⟩⟩⟩
      rintro rfl
      exact absurd htwo (by simp)
  · rintro ⟨blanks, rfl, hne, hblank, hlongest⟩
    have hpos := List.length_pos_iff.mpr hne
    by_cases hhead : ∃ c rest, item = c :: rest ∧ isBlank c = false
    · obtain ⟨c, rest, rfl, hc⟩ := hhead
      have hleft : Text.stripLeft (blanks ++ c :: rest) = c :: rest := by
        rw [Text.stripLeft, List.dropWhile_append_of_pos hblank]
        exact Text.dropWhile_eq_self fun d hd ↦ Option.some.inj hd ▸ hc
      simp only [afterBlanks?, hleft, List.length_append]
      rw [if_neg (by omega)]
      rfl
    · obtain ⟨c, rfl⟩ := hlongest.resolve_left hhead
      have hc : isBlank c = true := by
        rw [← Bool.not_eq_false]
        exact fun hc ↦ hhead ⟨c, [], rfl, hc⟩
      have hleft : Text.stripLeft (blanks ++ [c]) = [] := by
        rw [Text.stripLeft, List.dropWhile_eq_nil_iff]
        intro d hd
        rcases List.mem_append.mp hd with hd | hd
        · exact hblank d hd
        · exact List.mem_singleton.mp hd ▸ hc
      simp only [afterBlanks?, hleft, List.length_append, List.length_singleton, List.length_nil]
      rw [if_neg (by omega), if_neg (by simp), if_pos (by omega), List.getLast?_concat]
      rfl

theorem orderedItem?_eq_some_iff : orderedItem? line = some item ↔ IsItem .ordered line item := by
  constructor
  · intro h
    have hsplit := List.takeWhile_append_dropWhile (p := isDecimal) (l := line)
    have hnumber := Text.forall_mem_takeWhile isDecimal line
    unfold orderedItem? at h
    dsimp only at h
    split at h
    · next tail htail =>
      split_ifs at h with hlength
      obtain ⟨blanks, rfl, hitem⟩ := afterBlanks?_eq_some_iff.mp h
      rw [htail] at hsplit
      rw [← hsplit]
      refine .ordered (fun hnil ↦ ?_) hnumber hitem
      rw [hnil, List.nil_append] at hsplit
      rw [htail, hsplit] at hlength
      exact Nat.lt_irrefl _ hlength
    · exact absurd h (by simp)
  · rintro (@⟨number, blanks, _, hne, hnumber, hitem⟩)
    have hdrop : (number ++ '.' :: (blanks ++ item)).dropWhile isDecimal =
        '.' :: (blanks ++ item) := by
      rw [List.dropWhile_append_of_pos hnumber, List.dropWhile_cons_of_neg (by decide)]
    have hpos := List.length_pos_iff.mpr hne
    simp only [orderedItem?, hdrop, List.length_append]
    rw [if_pos (by omega)]
    exact afterBlanks?_eq_some_iff.mpr ⟨blanks, rfl, hitem⟩

theorem unorderedItem?_eq_some_iff :
    unorderedItem? line = some item ↔ IsItem .unordered line item := by
  constructor
  · intro h
    unfold unorderedItem? at h
    split at h
    · obtain ⟨blanks, rfl, hitem⟩ := afterBlanks?_eq_some_iff.mp h
      exact .unordered (.inl rfl) hitem
    · obtain ⟨blanks, rfl, hitem⟩ := afterBlanks?_eq_some_iff.mp h
      exact .unordered (.inr rfl) hitem
    · exact absurd h (by simp)
  · rintro (_ | @⟨mark, blanks, _, rfl | rfl, hitem⟩)
    · exact afterBlanks?_eq_some_iff.mpr ⟨blanks, rfl, hitem⟩
    · exact afterBlanks?_eq_some_iff.mpr ⟨blanks, rfl, hitem⟩

theorem orderedItem?_of_isItem (h : IsItem .unordered line item) : orderedItem? line = none := by
  rcases h with _ | @⟨mark, blanks, _, rfl | rfl, hitem⟩
  · rfl
  · rfl

/-- The reader of items finds the lines that are items, with their texts. -/
theorem item?_eq_some_iff : item? line = some (kind, item) ↔ IsItem kind line item := by
  rw [item?, Option.orElse_eq_orElse, Option.orElse_eq_or, Option.or_eq_some_iff]
  cases kind with
  | ordered =>
    rw [← orderedItem?_eq_some_iff]
    simp
  | unordered =>
    rw [← unorderedItem?_eq_some_iff]
    constructor
    · rintro (h | ⟨-, h⟩)
      · simp at h
      · simpa using h
    · intro h
      have hnone := orderedItem?_of_isItem (unorderedItem?_eq_some_iff.mp h)
      exact .inr ⟨by rw [hnone]; rfl, by rw [h]; rfl⟩

end PluginReadme.Markup
