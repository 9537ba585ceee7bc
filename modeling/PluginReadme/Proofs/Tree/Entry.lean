import Mathlib.Data.List.Nodup
import PluginReadme.Tree.Basic

/-!
# Entries by their names

Names lead from an entry to one below it (`Entry.descend?`). In a tree no folder of which has two
entries of one name (`Entry.HasUniqueNames`), a folder leads by a name to the very entry that is
listed with it (`Entry.lookup_eq_some_iff_mem`). Trees in which names lead to the same files may
differ in the order in which their folders list the entries (`Entry.sameFiles_of_perm`).
-/

namespace PluginReadme.Entry

variable {top entry next : Entry} {names rest : List Text} {name : Text}
  {entries : List (Text × Entry)}

/-- What holds of files, and of a folder if it holds of its entries, holds of every entry. -/
theorem induction {motive : Entry → Prop} (file : ∀ content, motive (.file content))
    (folder : ∀ entries, (∀ pair ∈ entries, motive pair.2) → motive (.folder entries))
    (entry : Entry) : motive entry := by
  apply Entry.rec (motive_1 := motive) (motive_2 := fun entries ↦ ∀ pair ∈ entries, motive pair.2)
    (motive_3 := fun pair ↦ motive pair.2)
  · exact file
  · exact folder
  · exact List.forall_mem_nil _
  · exact fun _ _ hpair hmore ↦ List.forall_mem_cons.mpr ⟨hpair, hmore⟩
  · exact fun _ _ hentry ↦ hentry

/-! ## Names -/

/-- The entry that names lead to. -/
def descend? (entry : Entry) : List Text → Option Entry
  | [] => some entry
  | name :: rest => (entry.child? name).bind fun next ↦ next.descend? rest

/-- Names in a row lead from entry to entry. -/
theorem descend?_append (entry : Entry) (names rest : List Text) :
    entry.descend? (names ++ rest) = (entry.descend? names).bind fun next ↦ next.descend? rest := by
  induction names generalizing entry with
  | nil => rfl
  | cons name names ih =>
    rw [List.cons_append, descend?, descend?]
    cases entry.child? name with
    | none => rfl
    | some next => exact ih next

theorem descend?_concat (entry : Entry) (names : List Text) (name : Text) :
    entry.descend? (names ++ [name]) = (entry.descend? names).bind fun next ↦ next.child? name := by
  have hone (next : Entry) : next.descend? [name] = next.child? name := by
    rw [descend?]
    cases next.child? name <;> rfl
  rw [descend?_append]
  exact congrArg _ (funext hone)

/-- Only a folder leads on. -/
theorem descend?_concat_eq_some_iff :
    entry.descend? (names ++ [name]) = some next ↔
      ∃ entries, entry.descend? names = some (.folder entries) ∧
        entries.lookup name = some next := by
  rw [descend?_concat, Option.bind_eq_some_iff]
  constructor
  · rintro ⟨folder, hfolder, hnext⟩
    cases folder with
    | file content => exact absurd hnext (by simp [child?])
    | folder entries => exact ⟨entries, hfolder, hnext⟩
  · rintro ⟨entries, hfolder, hnext⟩
    exact ⟨.folder entries, hfolder, hnext⟩

theorem content?_descend?_eq_some_iff {content : Bytes} :
    ((entry.descend? names).bind fun next ↦ next.child? name).bind content? = some content ↔
      entry.descend? (names ++ [name]) = some (.file content) := by
  rw [← descend?_concat, Option.bind_eq_some_iff]
  constructor
  · rintro ⟨next, hnext, hcontent⟩
    cases next with
    | file other => rwa [← Option.some.inj hcontent]
    | folder entries => exact absurd hcontent (by simp [content?])
  · exact fun hfile ↦ ⟨.file content, hfile, rfl⟩

/-! ## Folders -/

mutual

/-- The entry itself, if it is a folder, and all folders in it; each is given by its entries. -/
def folders : Entry → List (List (Text × Entry))
  | .file _ => []
  | .folder entries => entries :: foldersAmong entries

def foldersAmong : List (Text × Entry) → List (List (Text × Entry))
  | [] => []
  | (_, entry) :: rest => folders entry ++ foldersAmong rest

end

theorem folders_subset_foldersAmong {pair : Text × Entry} (h : pair ∈ entries) :
    pair.2.folders ⊆ foldersAmong entries := by
  induction entries with
  | nil => exact absurd h List.not_mem_nil
  | cons first entries ih =>
    rw [foldersAmong]
    rcases List.mem_cons.mp h with rfl | h
    · exact List.subset_append_left _ _
    · exact fun _ hmem ↦ List.mem_append_right _ (ih h hmem)

/-- Names lead to folders of the tree only. -/
theorem mem_folders_of_descend? (h : entry.descend? names = some (.folder entries)) :
    entries ∈ entry.folders := by
  induction names generalizing entry with
  | nil =>
    rw [Option.some.inj h, folders]
    exact List.mem_cons_self
  | cons name rest ih =>
    obtain ⟨next, hnext, hrest⟩ := Option.bind_eq_some_iff.mp h
    cases entry with
    | file content => exact absurd hnext (by simp [child?])
    | folder others =>
      obtain ⟨front, back, rfl, -⟩ := List.lookup_eq_some_iff.mp hnext
      have hmem : (name, next) ∈ front ++ (name, next) :: back := by simp
      rw [folders]
      exact List.mem_cons_of_mem _ (folders_subset_foldersAmong hmem (ih hrest))

/-! ## Unique names -/

/-- No folder has two entries of one name. -/
def HasUniqueNames (top : Entry) : Prop :=
  ∀ names entries, top.descend? names = some (.folder entries) → (entries.map Prod.fst).Nodup

theorem hasUniqueNames_of_folders (h : ∀ entries ∈ top.folders, (entries.map Prod.fst).Nodup) :
    top.HasUniqueNames :=
  fun _ entries hentries ↦ h entries (mem_folders_of_descend? hentries)

/-- Where names are unique, looking up a name finds what is listed with it. -/
theorem lookup_eq_some_iff_mem (h : (entries.map Prod.fst).Nodup) :
    entries.lookup name = some next ↔ (name, next) ∈ entries := by
  induction entries with
  | nil => simp
  | cons pair entries ih =>
    obtain ⟨first, entry⟩ := pair
    rw [List.map_cons, List.nodup_cons] at h
    rw [List.lookup_cons, List.mem_cons, Prod.mk.injEq]
    by_cases hname : name = first
    · subst hname
      have hnot : (name, next) ∉ entries := fun hmem ↦ h.1 (List.mem_map.mpr ⟨_, hmem, rfl⟩)
      simp [hnot, eq_comm]
    · rw [beq_eq_false_iff_ne.mpr hname, ← ih h.2]
      simp [hname]

/-! ## The same files -/

/-- Names lead to a file with a content, to a folder, or nowhere in both trees alike. Folders may
list their entries in another order. -/
def SameFiles (top other : Entry) : Prop :=
  ∀ names, (top.descend? names).map content? = (other.descend? names).map content?

theorem SameFiles.symm {other : Entry} (h : top.SameFiles other) : other.SameFiles top :=
  fun names ↦ (h names).symm

/-- Folders that list the same entries lead to the same files. -/
theorem sameFiles_of_perm {others : List (Text × Entry)} (h : entries.Perm others)
    (hnodup : (entries.map Prod.fst).Nodup) :
    (Entry.folder entries).SameFiles (.folder others) := by
  intro names
  cases names with
  | nil => rfl
  | cons name rest =>
    have hlookup : entries.lookup name = others.lookup name := by
      apply Option.ext
      intro next
      rw [lookup_eq_some_iff_mem hnodup,
        lookup_eq_some_iff_mem ((h.map Prod.fst).nodup_iff.mp hnodup), h.mem_iff]
    rw [descend?, descend?, child?, child?, hlookup]

theorem descend?_eq_file_iff {content : Bytes} :
    top.descend? names = some (.file content) ↔
      (top.descend? names).map content? = some (some content) := by
  rw [Option.map_eq_some_iff]
  constructor
  · intro h
    exact ⟨_, h, rfl⟩
  · rintro ⟨entry, hentry, hcontent⟩
    cases entry with
    | file other => rw [hentry, Option.some.inj hcontent]
    | folder entries => exact absurd hcontent (by simp [content?])

theorem SameFiles.descend?_eq_file_iff {other : Entry} (h : top.SameFiles other) {content : Bytes} :
    top.descend? names = some (.file content) ↔ other.descend? names = some (.file content) := by
  rw [Entry.descend?_eq_file_iff, Entry.descend?_eq_file_iff, h names]

end PluginReadme.Entry
