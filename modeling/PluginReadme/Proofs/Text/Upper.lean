import Mathlib.Data.Nat.Bitwise
import PluginReadme.Text.Case

/-!
# Upper case of upper case

A text in upper case stays as it is when it is put in upper case again (`Text.upper_upper`). The
tables name the code points that have an upper case (`smallCodes`) and give those that it consists
of (`capitalCodes`). No code point is of both kinds (`disjoint_codes`): the kinds are compared as
sets of bits, since there are too many code points to be looked up in each other one by one.
-/

namespace PluginReadme.Text

variable {n : Nat}

/-! ## Code points of the tables -/

/-- The code points from `low` to `high` that are a multiple of `step` apart. -/
def progression (low high step : Nat) : List Nat :=
  (List.range ((high - low) / step + 1)).map fun k ↦ low + step * k

theorem mem_progression {low high step : Nat} (hlow : low ≤ n) (hhigh : n ≤ high)
    (hstep : (n - low) % step = 0) : n ∈ progression low high step := by
  refine List.mem_map.mpr ⟨(n - low) / step, List.mem_range.mpr ?_, ?_⟩
  · exact Nat.lt_succ_of_le (Nat.div_le_div_right (by omega))
  · rw [Nat.mul_div_cancel' (Nat.dvd_of_mod_eq_zero hstep)]
    omega

def smallCodes : List Nat :=
  progression 0x61 0x7A 1 ++ Table.upperSequences.map (·.1) ++
    Table.upper.flatMap fun (low, high, step, _) ↦ progression low high step

def capitalCodes : List Nat :=
  Table.upperSequences.flatMap (·.2) ++
    Table.upper.flatMap fun (low, high, step, shift) ↦
      (progression low high step).map fun n : Nat ↦ ((n : Int) + shift).toNat

def bits (places : List Nat) : Nat := places.foldr (fun place more ↦ 2 ^ place ||| more) 0

theorem testBit_bits (places : List Nat) : (bits places).testBit n = true ↔ n ∈ places := by
  induction places with
  | nil => simp [bits]
  | cons place more ih =>
    calc
      (bits (place :: more)).testBit n = true ↔
          (2 ^ place).testBit n = true ∨ (bits more).testBit n = true := by
        rw [bits, List.foldr_cons, Nat.testBit_or, Bool.or_eq_true, bits]
      _ ↔ n = place ∨ n ∈ more :=
        or_congr (by rw [Nat.testBit_two_pow, decide_eq_true_eq, eq_comm]) ih
      _ ↔ n ∈ place :: more := List.mem_cons.symm

/-- No character is both the upper case of one and in need of one. -/
theorem disjoint_codes : bits capitalCodes &&& bits smallCodes = 0 := by
  decide +kernel

theorem not_mem_smallCodes (h : n ∈ capitalCodes) : n ∉ smallCodes := by
  intro hsmall
  have hboth : (bits capitalCodes &&& bits smallCodes).testBit n = true := by
    rw [Nat.testBit_and, (testBit_bits _).mpr h, (testBit_bits _).mpr hsmall, Bool.and_self]
  rw [disjoint_codes, Nat.zero_testBit] at hboth
  exact Bool.noConfusion hboth

/-! ## Characters that stay -/

theorem upperOf_ascii {d : Char} (hn : n < 0x80) (h : d ∈ upperOf (Char.ofNat n)) :
    upperOf d = [d] := by
  have hall : ∀ n < 0x80, (upperOf (Char.ofNat n)).all (fun d ↦ upperOf d == [d]) = true := by
    decide +kernel
  exact beq_iff_eq.mp (List.all_eq_true.mp (hall n hn) d h)

theorem upperOf_ascii_eq_self :
    ∀ n < 0x80, n ∉ progression 0x61 0x7A 1 → upperOf (Char.ofNat n) = [Char.ofNat n] := by
  decide +kernel

/-- Characters that the tables do not know are their own upper case. -/
theorem upperOf_of_not_mem (h : n ∉ smallCodes) : upperOf (Char.ofNat n) = [Char.ofNat n] := by
  rw [smallCodes, List.mem_append, List.mem_append, not_or, not_or] at h
  obtain ⟨⟨hascii, hsequences⟩, hshifts⟩ := h
  by_cases hvalid : n.isValidChar
  · have hn : (Char.ofNat n).toNat = n := by
      rw [Char.ofNat, dif_pos hvalid]
      rfl
    by_cases hless : n < 0x80
    · exact upperOf_ascii_eq_self n hless hascii
    · unfold upperOf
      rw [hn, if_neg hless]
      split
      · next m sequence hfind =>
        have hm : (m == n) = true :=
          List.find?_some (p := fun entry : Nat × List Nat ↦ entry.1 == n) hfind
        exact absurd (List.mem_map.mpr ⟨_, List.mem_of_find?_eq_some hfind, beq_iff_eq.mp hm⟩)
          hsequences
      · rw [ShiftTable.apply, hn]
        dsimp only
        split
        · next low high step shift hfind =>
          have hin := List.find?_some hfind
          simp only [Bool.and_eq_true, decide_eq_true_eq, beq_iff_eq] at hin
          exact absurd (List.mem_flatMap.mpr ⟨_, List.mem_of_find?_eq_some hfind,
            mem_progression hin.1.1 hin.1.2 hin.2⟩) hshifts
        · rfl
  · rw [Char.ofNat, dif_neg hvalid]
    decide +kernel

/-- The upper case of a character has no upper case of its own. -/
theorem upperOf_of_mem_upperOf {c d : Char} (h : d ∈ upperOf c) : upperOf d = [d] := by
  by_cases hless : c.toNat < 0x80
  · exact upperOf_ascii hless (by rwa [Char.ofNat_toNat])
  · have hc := h
    rw [upperOf, if_neg hless] at h
    split at h
    · next entry hfind =>
      obtain ⟨m, hm, rfl⟩ := List.mem_map.mp h
      have hcapital : m ∈ capitalCodes := List.mem_append_left _
        (List.mem_flatMap.mpr ⟨_, List.mem_of_find?_eq_some hfind, hm⟩)
      exact upperOf_of_not_mem (not_mem_smallCodes hcapital)
    · next hnone =>
      obtain rfl := List.mem_singleton.mp h
      rw [ShiftTable.apply] at hc ⊢
      dsimp only at hc ⊢
      split
      · next low high step shift hfind =>
        have hin := List.find?_some hfind
        simp only [Bool.and_eq_true, decide_eq_true_eq, beq_iff_eq] at hin
        have hmember := mem_progression hin.1.1 hin.1.2 hin.2
        have hcapital : ((c.toNat : Int) + shift).toNat ∈ capitalCodes :=
          List.mem_append_right _ (List.mem_flatMap.mpr
            ⟨_, List.mem_of_find?_eq_some hfind, List.mem_map.mpr ⟨_, hmember, rfl⟩⟩)
        exact upperOf_of_not_mem (not_mem_smallCodes hcapital)
      · next hnone' =>
        rw [upperOf, if_neg hless, hnone]
        dsimp only
        rw [ShiftTable.apply]
        dsimp only
        rw [hnone']

/-- A text in upper case is its own upper case. -/
theorem upper_upper (t : Text) : upper (upper t) = upper t := by
  have hfixed : ∀ s : Text, (∀ d ∈ s, upperOf d = [d]) → upper s = s := by
    intro s hs
    induction s with
    | nil => rfl
    | cons c rest ih =>
      obtain ⟨hc, hrest⟩ := List.forall_mem_cons.mp hs
      rw [upper, List.flatMap_cons, hc, List.singleton_append]
      exact congrArg (c :: ·) (ih hrest)
  refine hfixed _ fun d hd ↦ ?_
  obtain ⟨c, -, hc⟩ := List.mem_flatMap.mp hd
  exact upperOf_of_mem_upperOf hc

end PluginReadme.Text
