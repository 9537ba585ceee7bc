import Mathlib.Data.Char
import Mathlib.Data.List.Infix
import Mathlib.Data.List.Lex
import PluginReadme.Tree.Path

/-!
# Paths below a folder, and their order

A path below a folder is the folder with more names (`Path.under`); it determines these names, and
what is left of it below another path under the same folder is what the names leave
(`Path.below?_under_under`). Listings are sorted by the lexicographic order of the names
(`Path.comesBefore_iff`), which is linear.
-/

namespace PluginReadme

/-! ## Below a folder -/

namespace Path

variable {root : Path} {names rest : List Text}

def under (root : Path) (names : List Text) : Path := { root with names := root.names ++ names }

theorem under_nil (root : Path) : root.under [] = root := by
  rw [under, List.append_nil]

theorem under_injective (root : Path) : Function.Injective root.under := by
  intro names rest h
  exact List.append_cancel_left (congrArg Path.names h)

/-- The entry of a folder is one name further. -/
theorem child_under (root : Path) (names : List Text) (name : Text) :
    (root.under names).child name = root.under (names ++ [name]) := by
  rw [child, under, under, List.append_assoc]

theorem within_eq_under (root : Path) (names : List Text) :
    ({ names } : Path).within root = root.under names := rfl

/-- Below a folder lies what its names are at the front of. -/
theorem below?_under_under :
    (root.under names).below? (root.under rest) =
      (names.isPrefixOf? rest).map fun left ↦ { names := left } := by
  have hprefix : (root.names ++ names).isPrefixOf? (root.names ++ rest) =
      names.isPrefixOf? rest := by
    induction root.names with
    | nil => rfl
    | cons name _ ih => simpa [List.isPrefixOf?] using ih
  unfold below?
  rw [if_pos (show (root.under names).front = (root.under rest).front from rfl)]
  exact congrArg _ hprefix

theorem below?_under (root : Path) (names : List Text) :
    root.below? (root.under names) = some { names } := by
  have h : (root.under []).below? (root.under names) = _ := below?_under_under
  rwa [under_nil] at h

end Path

/-! ## Order -/

theorem Text.before_iff_lt {s t : Text} : Text.before s t = true ↔ s < t := by
  induction s generalizing t with
  | nil =>
    cases t with
    | nil => simp [before]
    | cons c t => simp [before]
  | cons c s ih =>
    cases t with
    | nil => simp [before]
    | cons d t =>
      rw [before, List.cons_lt_cons_iff]
      by_cases h : c = d
      · subst h
        simp [ih]
      · have hlt : c.toNat < d.toNat ↔ c < d := Iff.rfl
        simp [h, hlt]

namespace Path

/-- Paths are compared name by name, and names character by character. -/
theorem namesBefore_iff_lt {names rest : List Text} :
    namesBefore names rest = true ↔ names < rest := by
  induction names generalizing rest with
  | nil =>
    cases rest with
    | nil => simp [namesBefore]
    | cons name rest => simp [namesBefore]
  | cons name names ih =>
    cases rest with
    | nil => simp [namesBefore]
    | cons other rest =>
      rw [namesBefore, List.cons_lt_cons_iff]
      by_cases h : name = other
      · subst h
        simp [ih]
      · simp [h, Text.before_iff_lt]

/-- Paths are listed in the order of their names. -/
theorem comesBefore_iff {a b : Path} : comesBefore a b = true ↔ a.names ≤ b.names := by
  rw [comesBefore, Bool.not_eq_true', Bool.eq_false_iff, Ne, namesBefore_iff_lt, not_lt]

/-- The listing has the same paths, sorted. -/
theorem pairwise_mergeSort (found : List Path) :
    (found.mergeSort comesBefore).Pairwise fun a b ↦ a.names ≤ b.names := by
  have htrans (a b c : Path) (hab : comesBefore a b = true) (hbc : comesBefore b c = true) :
      comesBefore a c = true := by
    rw [comesBefore_iff] at hab hbc ⊢
    exact hab.trans hbc
  have htotal (a b : Path) : (comesBefore a b || comesBefore b a) = true := by
    rw [Bool.or_eq_true, comesBefore_iff, comesBefore_iff]
    exact le_total a.names b.names
  exact (List.pairwise_mergeSort htrans htotal found).imp comesBefore_iff.mp

/-- Of the lists of certain paths under a folder, only one is sorted and names none twice. -/
theorem eq_of_pairwise (root : Path) {found other : List Path} (hfound : found.Nodup)
    (hother : other.Nodup) (hsorted : found.Pairwise fun a b ↦ a.names ≤ b.names)
    (hsorted' : other.Pairwise fun a b ↦ a.names ≤ b.names)
    (hunder : ∀ file ∈ found, ∃ names, file = root.under names)
    (hsame : ∀ file, file ∈ found ↔ file ∈ other) : found = other := by
  refine List.Perm.eq_of_pairwise ?_ hsorted hsorted'
    ((List.perm_ext_iff_of_nodup hfound hother).mpr hsame)
  intro a b ha hb hab hba
  obtain ⟨names, rfl⟩ := hunder a ha
  obtain ⟨rest, rfl⟩ := hunder b ((hsame b).mpr hb)
  exact congrArg root.under (List.append_cancel_left (le_antisymm hab hba))

end Path

end PluginReadme
