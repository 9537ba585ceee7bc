import PluginReadme.Ignore.Filter
import PluginReadme.Proofs.Outcome
import PluginReadme.Proofs.Text.Utf8
import PluginReadme.Proofs.Text.WideLines
import PluginReadme.Proofs.Tree.Entry
import PluginReadme.Proofs.Tree.Path

/-!
# What a filter decides on a walk

Whether a path is ignored is a matter of the tree and of what a matcher says of patterns and paths
(`IsIgnored`): the general patterns may match it, and so may the patterns in the rule file of the
root or of a folder above it. A rule file is a file `.gitignore` with the encoding of a text, which
has its patterns on its lines (`HasRuleLines`).

A filter decides by the rule files that it has met. It is ready for a path when it has met those of
all folders above the path and none of the path itself or below (`Filter.IsReadyFor`); whatever else
it has met, its decision is then the right one (`Filter.IsReadyFor.ignores_iff`). Entering a folder
makes a filter that is ready for the folder ready for its entries (`Filter.IsReadyFor.entered`), and
rule files from elsewhere do no harm (`Filter.IsReadyFor.append`).
-/

namespace PluginReadme.Ignore

variable {further ls : List Text} {top other : Entry} {root : Path} {names folder : List Text}
  {isFolder : Bool} {test : Test} {filter : Filter}

/-! ## Patterns and paths -/

/-- The rule file of the folder that names lead to can be read, and these are its lines. -/
def HasRuleLines (top : Entry) (folder ls : List Text) : Prop :=
  ∃ t, top.descend? (folder ++ [".gitignore".toList]) = some (.file (Utf8.encode t)) ∧
    Text.HasWideLines t ls

/-- A path as patterns see it: the names with slashes between them, and one more behind a folder. -/
def seenText (names : List Text) (isFolder : Bool) : Text :=
  ['/'].intercalate names ++ if isFolder then ['/'] else []

/-- Rules see a path as patterns do. -/
theorem ruleText_eq (hne : names ≠ []) :
    Filter.ruleText { names } isFolder = seenText names isFolder := by
  have htext : ({ names } : Path).text = ['/'].intercalate names := by
    rw [Path.text, if_neg (by simp [hne])]
    rfl
  rw [Filter.ruleText, seenText, htext]
  cases isFolder with
  | false => exact (List.append_nil _).symm
  | true => rfl

theorem hasRuleLines_of_sameFiles (h : top.SameFiles other) :
    HasRuleLines other folder ls ↔ HasRuleLines top folder ls := by
  simp only [HasRuleLines, h.descend?_eq_file_iff]

/-! ## More rule files -/

theorem not_prefix_concat (folder : List Text) (name : Text) : ¬ folder ++ [name] <+: folder := by
  intro h
  have hlength := h.length_le
  rw [List.length_append, List.length_singleton] at hlength
  exact Nat.not_succ_le_self _ hlength

namespace Filter

theorem under_eq_self_iff : root.under names = root ↔ names = [] := by
  constructor
  · intro h
    exact Path.under_injective root (h.trans (Path.under_nil root).symm)
  · rintro rfl
    exact Path.under_nil root

def append (filter : Filter) (more : List (Path × Test)) : Filter :=
  { filter with nested := filter.nested ++ more }

theorem append_nil (filter : Filter) : filter.append [] = filter := by
  rw [append, List.append_nil]

theorem append_append (filter : Filter) (more others : List (Path × Test)) :
    (filter.append more).append others = filter.append (more ++ others) := by
  rw [append, append, append, List.append_assoc]

end Filter

/-! ## Ignored paths -/

variable [Matcher]

/-- The patterns on lines match a path. -/
def Matches (ls names : List Text) (isFolder : Bool) : Prop :=
  ∃ test, Matcher.test ls = .ok test ∧ test (seenText names isFolder) = true

/-- The default patterns or further ones match the path that names lead to, or the patterns in the
rule file of the root or of a folder above the path match what is left of it there. -/
def IsIgnored (further : List Text) (top : Entry) (names : List Text) (isFolder : Bool) : Prop :=
  Matches (defaultLines ++ further) names isFolder ∨
    ∃ folder rest ls, names = folder ++ rest ∧ rest ≠ [] ∧ HasRuleLines top folder ls ∧
      Matches ls rest isFolder

/-- All patterns are accepted: the default ones with the further ones, and those in every rule file
that can be read. -/
structure AcceptsPatterns (further : List Text) (top : Entry) : Prop where
  general : ∃ test, Matcher.test (defaultLines ++ further) = .ok test
  rules : ∀ folder ls, HasRuleLines top folder ls → ∃ test, Matcher.test ls = .ok test

/-- Accepted patterns match exactly what their test says. -/
theorem matches_iff (h : Matcher.test ls = .ok test) :
    Matches ls names isFolder ↔ test (seenText names isFolder) = true := by
  constructor
  · rintro ⟨other, hother, hmatch⟩
    obtain rfl := Except.ok.inj (h.symm.trans hother)
    exact hmatch
  · exact fun hmatch ↦ ⟨test, h, hmatch⟩

/-- The order in which folders list their entries does not matter to what is ignored. -/
theorem isIgnored_of_sameFiles (h : top.SameFiles other) :
    IsIgnored further other names isFolder ↔ IsIgnored further top names isFolder := by
  simp only [IsIgnored, hasRuleLines_of_sameFiles h]

theorem AcceptsPatterns.of_sameFiles (hsame : top.SameFiles other)
    (h : AcceptsPatterns further top) : AcceptsPatterns further other where
  general := h.general
  rules folder ls hlines := h.rules folder ls ((hasRuleLines_of_sameFiles hsame).mp hlines)

/-! ## Reading rule files -/

def testAt (top : Entry) (folder : List Text) : Option Test :=
  match Filter.testIn (top.descend? folder) with
  | .ok found => found
  | .error _ => none

/-- The content of a rule file is read if it encodes a text, and by its lines. -/
theorem testOfFile_encode {t : Text} (h : Text.HasWideLines t ls) :
    testOfFile (Utf8.encode t) = (Matcher.test ls).map some := by
  rw [testOfFile, Utf8.decode_eq_ok_iff.mpr rfl]
  exact congrArg (fun ls ↦ (Matcher.test ls).map some) h.bareWideLines_eq

theorem testIn_of_hasRuleLines (h : HasRuleLines top folder ls) :
    Filter.testIn (top.descend? folder) = (Matcher.test ls).map some := by
  obtain ⟨t, hfile, hlines⟩ := h
  have hcontent := Entry.content?_descend?_eq_some_iff.mpr hfile
  have hname : fileName = ".gitignore".toList := rfl
  rw [Filter.testIn, hname, hcontent]
  exact testOfFile_encode hlines

theorem testIn_of_not_hasRuleLines (h : ∀ ls, ¬ HasRuleLines top folder ls) :
    Filter.testIn (top.descend? folder) = .ok none := by
  rw [Filter.testIn]
  split
  · next content hcontent =>
    have hfile := Entry.content?_descend?_eq_some_iff.mp hcontent
    cases hdecode : Utf8.decode content with
    | error fault => rw [testOfFile, hdecode]
    | ok t =>
      rw [← Utf8.decode_eq_ok_iff.mp hdecode] at hfile
      exact absurd ⟨t, hfile, Text.bareWideLines_unifyLineEnds_eq_iff.mp rfl⟩ (h _)
  · rfl

/-- A folder has a test exactly if its rule file can be read and its patterns are accepted. -/
theorem testAt_eq_some_iff :
    testAt top folder = some test ↔
      ∃ ls, HasRuleLines top folder ls ∧ Matcher.test ls = .ok test := by
  have htestAt : testAt top folder = some test ↔
      Filter.testIn (top.descend? folder) = .ok (some test) := by
    rw [testAt]
    cases Filter.testIn (top.descend? folder) <;> simp
  rw [htestAt]
  constructor
  · intro h
    by_cases hlines : ∃ ls, HasRuleLines top folder ls
    · obtain ⟨ls, hlines⟩ := hlines
      rw [testIn_of_hasRuleLines hlines] at h
      obtain ⟨found, hfound, heq⟩ := map_eq_ok.mp h
      exact ⟨ls, hlines, hfound.trans (congrArg _ (Option.some.inj heq))⟩
    · rw [testIn_of_not_hasRuleLines fun ls h ↦ hlines ⟨ls, h⟩] at h
      cases h
  · rintro ⟨ls, hlines, htest⟩
    rw [testIn_of_hasRuleLines hlines, htest]
    rfl

/-- A path is ignored by what the tests of the patterns say. -/
theorem isIgnored_iff (h : Matcher.test (defaultLines ++ further) = .ok test) :
    IsIgnored further top names isFolder ↔ test (seenText names isFolder) = true ∨
      ∃ folder rest test, names = folder ++ rest ∧ rest ≠ [] ∧ testAt top folder = some test ∧
        test (seenText rest isFolder) = true := by
  rw [IsIgnored, matches_iff h]
  refine or_congr_right (exists_congr fun folder ↦ exists_congr fun rest ↦ ?_)
  simp only [testAt_eq_some_iff, Matches]
  constructor
  · rintro ⟨ls, hsplit, hrest, hlines, test, htest, hmatch⟩
    exact ⟨test, hsplit, hrest, ⟨ls, hlines, htest⟩, hmatch⟩
  · rintro ⟨test, hsplit, hrest, ⟨ls, hlines, htest⟩, hmatch⟩
    exact ⟨ls, hsplit, hrest, hlines, test, htest, hmatch⟩

/-- Where all patterns are accepted, no rule file stops the walk. -/
theorem AcceptsPatterns.testIn_eq (h : AcceptsPatterns further top) (folder : List Text) :
    Filter.testIn (top.descend? folder) = .ok (testAt top folder) := by
  by_cases hlines : ∃ ls, HasRuleLines top folder ls
  · obtain ⟨ls, hlines⟩ := hlines
    obtain ⟨test, htest⟩ := h.rules folder ls hlines
    rw [testAt, testIn_of_hasRuleLines hlines, htest]
    rfl
  · rw [testAt, testIn_of_not_hasRuleLines fun ls h ↦ hlines ⟨ls, h⟩]

namespace Filter

def IsRuleFileWhere (top : Entry) (root : Path) (holds : List Text → Prop)
    (entry : Path × Test) : Prop :=
  ∃ folder, folder ≠ [] ∧ entry.1 = root.under folder ∧ testAt top folder = some entry.2 ∧
    holds folder

/-- The filter has met the rule files of all folders above a path, and of the path itself and below
it none. -/
structure IsReadyFor (further : List Text) (top : Entry) (root : Path) (names : List Text)
    (filter : Filter) : Prop where
  root_eq : filter.root = root
  general : Matcher.test (defaultLines ++ further) = .ok filter.general
  ofRoot_eq : filter.ofRoot = testAt top []
  readsNested_eq : filter.readsNested = true
  met : ∀ entry ∈ filter.nested, IsRuleFileWhere top root (fun folder ↦ ¬ names <+: folder) entry
  above : ∀ folder test, folder ≠ [] → folder <+: names → folder ≠ names →
    testAt top folder = some test → (root.under folder, test) ∈ filter.nested

theorem IsRuleFileWhere.imp {holds more : List Text → Prop} {entry : Path × Test}
    (himp : ∀ folder, holds folder → more folder) (h : IsRuleFileWhere top root holds entry) :
    IsRuleFileWhere top root more entry := by
  obtain ⟨folder, hne, hpath, htest, hfolder⟩ := h
  exact ⟨folder, hne, hpath, htest, himp folder hfolder⟩

/-- Among the rule files that a filter has met, those above the path decide. -/
theorem IsReadyFor.exists_nested_iff (h : filter.IsReadyFor further top root names) :
    (∃ entry ∈ filter.nested, ∃ rest, entry.1.below? (root.under names) = some rest ∧
        entry.2 (ruleText rest isFolder) = true) ↔
      ∃ folder rest test, folder ≠ [] ∧ names = folder ++ rest ∧ rest ≠ [] ∧
        testAt top folder = some test ∧ test (seenText rest isFolder) = true := by
  constructor
  · rintro ⟨entry, hentry, left, hbelow, hmatch⟩
    obtain ⟨folder, hne, hpath, htest, hapart⟩ := h.met entry hentry
    rw [hpath, Path.below?_under_under, Option.map_eq_some_iff] at hbelow
    obtain ⟨rest, hrest, rfl⟩ := hbelow
    obtain rfl := List.isPrefixOf?_eq_some_iff_append_eq.mp hrest
    have hrest : rest ≠ [] := by
      rintro rfl
      exact hapart (by rw [List.append_nil])
    exact ⟨folder, rest, entry.2, hne, rfl, hrest, htest, ruleText_eq hrest ▸ hmatch⟩
  · rintro ⟨folder, rest, test, hne, rfl, hrest, htest, hmatch⟩
    refine ⟨(root.under folder, test), h.above folder test hne (List.prefix_append _ _) ?_ htest,
      { names := rest }, ?_, by rwa [ruleText_eq hrest]⟩
    · simpa using hrest
    · rw [Path.below?_under_under, List.isPrefixOf?_eq_some_iff_append_eq.mpr rfl]
      rfl

/-- A filter that is ready for a path decides on it as the tree does. -/
theorem IsReadyFor.ignores_iff (h : filter.IsReadyFor further top root names)
    (habsolute : root.isAbsolute = true) (hne : names ≠ []) :
    filter.ignores (root.under names) isFolder = true ↔ IsIgnored further top names isFolder := by
  have hinside : (if (root.under names).isAbsolute then root.below? (root.under names)
      else some (root.under names)) = some { names } := by
    rw [if_pos (show (root.under names).isAbsolute = true from habsolute), Path.below?_under]
  unfold ignores
  rw [h.root_eq, hinside]
  dsimp only
  rw [Path.within_eq_under, h.ofRoot_eq, ruleText_eq hne, Bool.or_eq_true, Bool.or_eq_true,
    List.any_eq_true, isIgnored_iff h.general, or_assoc]
  simp only [Option.any_eq_true, h.exists_nested_iff]
  refine or_congr_right ⟨?_, ?_⟩
  · rintro (⟨test, htest, hmatch⟩ | ⟨folder, rest, test, -, hsplit, hrest, htest, hmatch⟩)
    · exact ⟨[], names, test, rfl, hne, htest, hmatch⟩
    · exact ⟨folder, rest, test, hsplit, hrest, htest, hmatch⟩
  · rintro ⟨folder, rest, test, hsplit, hrest, htest, hmatch⟩
    by_cases hfolder : folder = []
    · subst hfolder
      obtain rfl : names = rest := hsplit
      exact Or.inl ⟨test, htest, hmatch⟩
    · exact Or.inr ⟨folder, rest, test, hfolder, hsplit, hrest, htest, hmatch⟩

/-! ## Entering folders -/

/-- Rule files of folders elsewhere leave a filter ready. -/
theorem IsReadyFor.append (h : filter.IsReadyFor further top root names)
    {more : List (Path × Test)}
    (hmore : ∀ entry ∈ more, IsRuleFileWhere top root (fun folder ↦ ¬ names <+: folder) entry) :
    (filter.append more).IsReadyFor further top root names where
  root_eq := h.root_eq
  general := h.general
  ofRoot_eq := h.ofRoot_eq
  readsNested_eq := h.readsNested_eq
  met := List.forall_mem_append.mpr ⟨h.met, hmore⟩
  above folder test hne hprefix hproper htest :=
    List.mem_append_left _ (h.above folder test hne hprefix hproper htest)

/-- What a filter meets in a folder; the rule file of the root has been read before. -/
def metIn (top : Entry) (root : Path) (names : List Text) : List (Path × Test) :=
  if names = [] then [] else ((testAt top names).map (root.under names, ·)).toList

/-- What is met in a folder is its rule file, unless the folder is the root. -/
theorem mem_metIn_iff {entry : Path × Test} :
    entry ∈ metIn top root names ↔
      names ≠ [] ∧ entry.1 = root.under names ∧ testAt top names = some entry.2 := by
  obtain ⟨path, test⟩ := entry
  unfold metIn
  split_ifs with h
  · simp [h]
  · rw [Option.mem_toList, Option.map_eq_some_iff]
    constructor
    · rintro ⟨found, hfound, heq⟩
      obtain ⟨rfl, rfl⟩ := Prod.mk.inj heq
      exact ⟨h, rfl, hfound⟩
    · rintro ⟨-, rfl, hfound⟩
      exact ⟨test, hfound, rfl⟩

/-- Entering a folder adds what is met there and nothing else. -/
theorem IsReadyFor.enter_eq (h : filter.IsReadyFor further top root names)
    (haccepts : AcceptsPatterns further top) :
    filter.enter (root.under names) (top.descend? names) =
      .ok (filter.append (metIn top root names)) := by
  obtain rfl := h.root_eq
  unfold enter metIn
  rw [haccepts.testIn_eq]
  by_cases hnil : names = []
  · rw [if_pos (by simp [under_eq_self_iff, hnil]), if_pos hnil, append_nil]
    rfl
  · rw [if_neg (by simp [under_eq_self_iff, hnil, h.readsNested_eq]), if_neg hnil]
    cases testAt top names with
    | none => exact congrArg _ (append_nil filter).symm
    | some test => rfl

/-- In the folder that it was ready for, a filter becomes ready for every entry. -/
theorem IsReadyFor.entered (h : filter.IsReadyFor further top root names) (name : Text) :
    (filter.append (metIn top root names)).IsReadyFor further top root (names ++ [name]) where
  root_eq := h.root_eq
  general := h.general
  ofRoot_eq := h.ofRoot_eq
  readsNested_eq := h.readsNested_eq
  met := by
    refine List.forall_mem_append.mpr ⟨fun entry hentry ↦ ?_, fun entry hentry ↦ ?_⟩
    · exact (h.met entry hentry).imp fun folder hapart hbelow ↦
        hapart ((List.prefix_append names [name]).trans hbelow)
    · obtain ⟨hne, hpath, htest⟩ := mem_metIn_iff.mp hentry
      exact ⟨names, hne, hpath, htest, not_prefix_concat names name⟩
  above folder test hne hprefix hproper htest := by
    have hwithin : folder <+: names := (List.prefix_concat_iff.mp hprefix).resolve_left hproper
    by_cases heq : folder = names
    · subst heq
      exact List.mem_append_right _ (mem_metIn_iff.mpr ⟨hne, rfl, htest⟩)
    · exact List.mem_append_left _ (h.above folder test hne hwithin heq htest)

/-- What is met in a folder is a rule file there. -/
theorem isRuleFileWhere_of_mem_metIn {entry : Path × Test} (h : entry ∈ metIn top root names) :
    IsRuleFileWhere top root (fun folder ↦ names <+: folder) entry := by
  obtain ⟨hne, hpath, htest⟩ := mem_metIn_iff.mp h
  exact ⟨names, hne, hpath, htest, List.prefix_refl names⟩

end Filter

end PluginReadme.Ignore
