import Mathlib.Data.List.Nodup
import PluginReadme.Preview.Page
import PluginReadme.Proofs.Text.Cut

/-!
# The names of sections

A section whose own name stood before gets the number of its occurrence after a hyphen. Two sections
that got numbers have different names, since the number is what follows the last hyphen
(`numbered_inj`). But the own name of a section may be the numbered name of another one, and this
alone makes two names equal (`nodup_idsFrom_iff`).
-/

namespace PluginReadme

/-! ## Characters of names -/

theorem forall_mem_slugFrom (gap : Bool) (t : Text) :
    ∀ c ∈ slugFrom gap t, isSlugChar c = true ∨ c = '-' := by
  induction t generalizing gap with
  | nil => exact List.forall_mem_nil _
  | cons d rest ih =>
    unfold slugFrom
    split_ifs with hd hgap
    · exact List.forall_mem_cons.mpr
        ⟨Or.inr rfl, List.forall_mem_cons.mpr ⟨Or.inl hd, ih false⟩⟩
    · exact List.forall_mem_cons.mpr ⟨Or.inl hd, ih false⟩
    · exact ih true

namespace Text

theorem ofNat_injective : Function.Injective ofNat := by
  intro m n h
  calc
    m = Nat.ofDigitChars 10 (ofNat m) 0 := Nat.ofDigitChars_ten_toDigits.symm
    _ = Nat.ofDigitChars 10 (ofNat n) 0 := by rw [h]
    _ = n := Nat.ofDigitChars_ten_toDigits

theorem isDigit_of_mem_ofNat {n : Nat} {c : Char} (h : c ∈ ofNat n) : c.isDigit = true :=
  Nat.isDigit_of_mem_toDigits (by decide) (by decide) h

end Text

namespace Page

variable {id other : Text} {seen ids : List Text} {m n : Nat}

def IsName (id : Text) : Prop := ∀ c ∈ id, isSlugChar c = true ∨ c = '-'

/-- The name of a section is made of small letters, digits and hyphens. -/
theorem isName_baseId (title : Text) : IsName (baseId title) := by
  have hsection : IsName (sectionId title) := by
    unfold sectionId
    dsimp only
    split_ifs
    · have hfaq : slugFrom false "faq".toList = "faq".toList := by decide
      exact hfaq ▸ forall_mem_slugFrom false _
    · exact forall_mem_slugFrom false _
  unfold baseId
  dsimp only
  split_ifs
  · have hunnamed : slugFrom false "section".toList = "section".toList := by decide
    exact hunnamed ▸ forall_mem_slugFrom false _
  · exact hsection

theorem IsName.not_mem_quote (h : IsName id) : '\"' ∉ id := fun hmem ↦
  (h '\"' hmem).elim (fun hslug ↦ absurd hslug (by decide)) fun heq ↦ absurd heq (by decide)

/-! ## Numbers -/

def numbered (id : Text) (earlier : Nat) : Text :=
  if earlier = 0 then id else id ++ '-' :: Text.ofNat (earlier + 1)

theorem numbered_zero (id : Text) : numbered id 0 = id := rfl

theorem numbered_of_pos (h : 0 < n) : numbered id n = id ++ '-' :: Text.ofNat (n + 1) :=
  if_neg (Nat.ne_of_gt h)

/-- A number behind a name makes a name. -/
theorem IsName.numbered (h : IsName id) (n : Nat) : IsName (numbered id n) := by
  unfold Page.numbered
  split_ifs
  · exact h
  · intro c hc
    rcases List.mem_append.mp hc with hc | hc
    · exact h c hc
    rcases List.mem_cons.mp hc with rfl | hc
    · exact Or.inr rfl
    · exact Or.inl ((Bool.or_eq_true _ _).mpr (Or.inr (Text.isDigit_of_mem_ofNat hc)))

/-- The number is what follows the last hyphen. -/
theorem numbered_inj (hm : 0 < m) (hn : 0 < n) (h : numbered id m = numbered other n) :
    id = other ∧ m = n := by
  have hdigits (k : Nat) : ∀ c ∈ (Text.ofNat k).reverse, (c != '-') = true := by
    intro c hc
    have hdigit := Text.isDigit_of_mem_ofNat (List.mem_reverse.mp hc)
    rw [bne_iff_ne]
    rintro rfl
    exact absurd hdigit (by decide)
  have hreverse (name : Text) (k : Nat) : (name ++ '-' :: Text.ofNat k).reverse =
      (Text.ofNat k).reverse ++ '-' :: name.reverse := by
    rw [List.reverse_append, List.reverse_cons, List.append_assoc, List.singleton_append]
  rw [numbered_of_pos hm, numbered_of_pos hn] at h
  have hcut := congrArg List.reverse h
  rw [hreverse, hreverse] at hcut
  obtain ⟨hnumber, -, hname⟩ :=
    Text.append_cons_inj (hdigits (m + 1)) (by decide) (hdigits (n + 1)) (by decide) hcut
  refine ⟨List.reverse_injective hname, ?_⟩
  have hsucc := Text.ofNat_injective (List.reverse_injective hnumber)
  omega

/-! ## Occurrences -/

def occurrences (seen : List Text) : List Text → List (Text × Nat)
  | [] => []
  | id :: rest => (id, seen.count id) :: occurrences (id :: seen) rest

/-- The occurrences of a name are counted on from those that were seen. -/
theorem mem_occurrences_iff :
    (id, n) ∈ occurrences seen ids ↔ seen.count id ≤ n ∧ n < seen.count id + ids.count id := by
  induction ids generalizing seen with
  | nil =>
    rw [occurrences, List.count_nil]
    exact iff_of_false List.not_mem_nil (by omega)
  | cons first rest ih =>
    rw [occurrences, List.mem_cons, ih, Prod.mk.injEq]
    by_cases hfirst : id = first
    · subst hfirst
      rw [List.count_cons_self, List.count_cons_self, and_iff_right rfl]
      omega
    · rw [List.count_cons_of_ne (Ne.symm hfirst), List.count_cons_of_ne (Ne.symm hfirst)]
      exact ⟨fun h ↦ h.resolve_left fun heq ↦ hfirst heq.1, Or.inr⟩

/-- No name stands twice with the same number of earlier ones. -/
theorem nodup_occurrences (seen ids : List Text) : (occurrences seen ids).Nodup := by
  induction ids generalizing seen with
  | nil => exact List.nodup_nil
  | cons first rest ih =>
    refine List.nodup_cons.mpr ⟨fun hmem ↦ ?_, ih (first :: seen)⟩
    have hcount := (mem_occurrences_iff.mp hmem).1
    rw [List.count_cons_self] at hcount
    omega

/-- Each section gets its own name with the number of earlier sections of that name. -/
theorem idsFrom_eq_map (seen titles : List Text) :
    idsFrom seen titles =
      (occurrences seen (titles.map baseId)).map fun (id, earlier) ↦ numbered id earlier := by
  induction titles generalizing seen with
  | nil => rfl
  | cons title titles ih =>
    rw [idsFrom, ih]
    rfl

theorem isName_of_mem_idsFrom {titles : List Text} (h : id ∈ idsFrom [] titles) : IsName id := by
  rw [idsFrom_eq_map] at h
  obtain ⟨⟨base, earlier⟩, hmem, rfl⟩ := List.mem_map.mp h
  obtain ⟨hleast, hmost⟩ := mem_occurrences_iff.mp hmem
  have hbase : base ∈ titles.map baseId := by
    rw [← List.count_pos_iff]
    omega
  obtain ⟨title, -, rfl⟩ := List.mem_map.mp hbase
  exact (isName_baseId title).numbered earlier

/-! ## Equal names -/

/-- No section has the name for its own that another one gets with its number. -/
def NumbersAreFree (titles : List Text) : Prop :=
  ∀ id n, 0 < n → n < (titles.map baseId).count id → numbered id n ∉ titles.map baseId

/-- The names are told apart exactly if no section takes a numbered name for its own. -/
theorem nodup_idsFrom_iff (titles : List Text) :
    (idsFrom [] titles).Nodup ↔ NumbersAreFree titles := by
  have hcount {id : Text} {n : Nat} : (id, n) ∈ occurrences [] (titles.map baseId) ↔
      n < (titles.map baseId).count id := by
    rw [mem_occurrences_iff, List.count_nil]
    omega
  rw [idsFrom_eq_map, List.nodup_map_iff_inj_on (nodup_occurrences [] _)]
  constructor
  · -- The first section with the own name and the one with the number have different occurrences.
    intro hinj id n hpos hn hmem
    have heq := hinj (id, n) (hcount.mpr hn) (numbered id n, 0)
      (hcount.mpr (List.count_pos_iff.mpr hmem)) (numbered_zero _).symm
    exact Nat.ne_of_gt hpos (congrArg Prod.snd heq)
  · rintro hfree ⟨id, m⟩ hm ⟨other, n⟩ hn heq
    rw [hcount] at hm hn
    change numbered id m = numbered other n at heq
    rcases Nat.eq_zero_or_pos m with rfl | hpos
    · rcases Nat.eq_zero_or_pos n with rfl | hpos'
      · rw [Prod.mk.injEq]
        exact ⟨heq, rfl⟩
      · have hown : id ∈ titles.map baseId := List.count_pos_iff.mp hm
        exact absurd (heq ▸ hown) (hfree other n hpos' hn)
    · rcases Nat.eq_zero_or_pos n with rfl | hpos'
      · have hown : other ∈ titles.map baseId := List.count_pos_iff.mp hn
        exact absurd (heq.symm ▸ hown) (hfree id m hpos hm)
      · obtain ⟨hid, hnumber⟩ := numbered_inj hpos hpos' heq
        rw [hid, hnumber]

end Page

end PluginReadme
