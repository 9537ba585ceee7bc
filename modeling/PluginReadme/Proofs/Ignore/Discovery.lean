import PluginReadme.Proofs.Ignore.Filter

/-!
# The readmes that a walk finds

A walk lists the readmes below a folder that are not ignored and that no ignored folder hides
(`IsListedFrom`). What it lists in a folder is what stands among the files there, and what it lists
in those of the folders there that are not ignored (`isListedFrom_iff`). The walk carries the rule
files that it meets from one folder to the next. They all lie where the walk has been, so the filter
is ready wherever the walk goes next, and each part of the walk finds what it should whatever came
before (`walk_visits`). The sorted list then depends on the files alone and not on the order in
which folders list their entries (`readmes_are_listed`).
-/

namespace PluginReadme.Ignore

variable {further : List Text} {top : Entry} {root : Path} {folder names : List Text}
  {entries : List (Text × Entry)}

/-! ## Names and folders -/

/-- Where names are unique, a name leads to the very entry that is listed with it. -/
theorem descend?_of_mem (hunique : top.HasUniqueNames)
    (hfolder : top.descend? folder = some (.folder entries)) {name : Text} {entry : Entry} :
    top.descend? (folder ++ [name]) = some entry ↔ (name, entry) ∈ entries := by
  rw [Entry.descend?_concat_eq_some_iff, hfolder]
  constructor
  · rintro ⟨found, hfound, hentry⟩
    obtain rfl := Entry.folder.inj (Option.some.inj hfound)
    exact (Entry.lookup_eq_some_iff_mem (hunique folder entries hfolder)).mp hentry
  · intro hmem
    exact ⟨entries, rfl, (Entry.lookup_eq_some_iff_mem (hunique folder entries hfolder)).mpr hmem⟩

theorem eq_of_prefix_concat {name name' : Text} (h : folder ++ [name] <+: names)
    (h' : folder ++ [name'] <+: names) : name = name' := by
  have heq := (List.prefix_of_prefix_length_le h h' (by simp)).eq_of_length (by simp)
  exact List.singleton_inj.mp (List.append_cancel_left heq)

theorem isAbsolute_resolve {tree : Tree} (h : tree.here.isAbsolute = true) (path : Path) :
    (tree.resolve path).isAbsolute = true := by
  change (path.within tree.here).isAbsolute = true
  unfold Path.within
  split_ifs with hpath
  · exact hpath
  · exact h

/-! ## Listed readmes -/

section Matcher

variable [Matcher]

/-- A readme below a folder that is not ignored, as little as any folder between the two. -/
structure IsListedFrom (further : List Text) (top : Entry) (folder names : List Text) : Prop where
  below : folder <+: names
  ne : folder ≠ names
  isFile : ∃ content, top.descend? names = some (.file content)
  isReadme : names.getLast?.map Text.lower = some "readme.txt".toList
  kept : ¬ IsIgnored further top names false
  reached : ∀ above, folder <+: above → above <+: names → above ≠ folder → above ≠ names →
    ¬ IsIgnored further top above true

/-- What is listed below a folder is one of its entries or below one of them. -/
theorem IsListedFrom.exists_eq_append_cons (h : IsListedFrom further top folder names) :
    ∃ name rest, names = folder ++ name :: rest := by
  obtain ⟨rest, rfl⟩ := h.below
  obtain ⟨name, rest, rfl⟩ := List.exists_cons_of_ne_nil (l := rest) fun hnil ↦
    h.ne (by rw [hnil, List.append_nil])
  exact ⟨name, rest, rfl⟩

/-- A readme among the files of a folder that is not ignored. -/
def IsListedIn (further : List Text) (top : Entry) (folder : List Text)
    (entries : List (Text × Entry)) (names : List Text) : Prop :=
  ∃ name content, (name, Entry.file content) ∈ entries ∧ Text.lower name = "readme.txt".toList ∧
    names = folder ++ [name] ∧ ¬ IsIgnored further top names false

/-- Between a folder and an entry of it there is nothing. -/
theorem IsListedIn.isListedFrom (hunique : top.HasUniqueNames)
    (hfolder : top.descend? folder = some (.folder entries))
    (h : IsListedIn further top folder entries names) : IsListedFrom further top folder names := by
  obtain ⟨name, content, hmem, hreadme, rfl, hkept⟩ := h
  refine ⟨List.prefix_append _ _,
    fun heq ↦ not_prefix_concat folder name (heq ▸ List.prefix_refl _),
    ⟨content, (descend?_of_mem hunique hfolder).mpr hmem⟩, ?_, hkept, ?_⟩
  · rw [List.getLast?_concat, Option.map_some, hreadme]
  · intro above hfront hback hne hproper
    have hwithin := (List.prefix_concat_iff.mp hback).resolve_left hproper
    exact absurd (hwithin.eq_of_length_le hfront.length_le) hne

/-- What is listed below an entry that is not ignored is listed below its folder. -/
theorem IsListedFrom.of_concat {name : Text}
    (hkept : ¬ IsIgnored further top (folder ++ [name]) true)
    (h : IsListedFrom further top (folder ++ [name]) names) :
    IsListedFrom further top folder names where
  below := (List.prefix_append folder [name]).trans h.below
  ne heq := not_prefix_concat folder name (heq ▸ h.below)
  isFile := h.isFile
  isReadme := h.isReadme
  kept := h.kept
  reached above hfront hback hne hproper := by
    rcases List.prefix_or_prefix_of_prefix hback h.below with hshort | hlong
    · rcases List.prefix_concat_iff.mp hshort with heq | hwithin
      · exact heq ▸ hkept
      · exact absurd (hwithin.eq_of_length_le hfront.length_le) hne
    · by_cases heq : above = folder ++ [name]
      · exact heq ▸ hkept
      · exact h.reached above hlong hback heq hproper

/-- A readme that is listed below a folder is one of its files or is listed below one of its
folders. -/
theorem isListedFrom_iff (hunique : top.HasUniqueNames)
    (hfolder : top.descend? folder = some (.folder entries)) :
    IsListedFrom further top folder names ↔
      IsListedIn further top folder entries names ∨
        ∃ pair ∈ entries, pair.2.isFolder = true ∧
          ¬ IsIgnored further top (folder ++ [pair.1]) true ∧
            IsListedFrom further top (folder ++ [pair.1]) names := by
  constructor
  · intro h
    obtain ⟨name, rest, rfl⟩ := h.exists_eq_append_cons
    obtain ⟨content, hfile⟩ := h.isFile
    by_cases hrest : rest = []
    · subst hrest
      refine Or.inl ⟨name, content, (descend?_of_mem hunique hfolder).mp hfile, ?_, rfl, h.kept⟩
      have hreadme := h.isReadme
      rwa [List.getLast?_concat, Option.map_some, Option.some.injEq] at hreadme
    · rw [List.append_cons] at h hfile ⊢
      have hnext := hfile
      rw [Entry.descend?_append, Option.bind_eq_some_iff] at hnext
      obtain ⟨entry, hentry, hbelow⟩ := hnext
      have hproper : folder ++ [name] ≠ folder ++ [name] ++ rest := by simpa using hrest
      have hisFolder : entry.isFolder = true := by
        obtain ⟨next, more, rfl⟩ := List.exists_cons_of_ne_nil hrest
        cases entry with
        | file _ => exact absurd hbelow (by simp [Entry.descend?, Entry.child?])
        | folder _ => rfl
      refine Or.inr ⟨(name, entry), (descend?_of_mem hunique hfolder).mp hentry, hisFolder, ?_, ?_⟩
      · exact h.reached _ (List.prefix_append _ _) (List.prefix_append _ _) (by simp) hproper
      · refine ⟨List.prefix_append _ _, hproper, h.isFile, h.isReadme, h.kept, ?_⟩
        intro above hfront hback _ hlast
        refine h.reached above ((List.prefix_append folder [name]).trans hfront) hback ?_ hlast
        rintro rfl
        exact not_prefix_concat above name hfront
  · rintro (h | ⟨pair, -, -, hkept, h⟩)
    · exact h.isListedFrom hunique hfolder
    · exact h.of_concat hkept

/-! ## Parts of a walk -/

/-- From one state of a walk to another: the rule files that are met lie in a region, and what is
found is what is listed, each readme once. -/
structure Visits (top : Entry) (root : Path) (region listed : List Text → Prop)
    (before after : Walk) : Prop where
  rules : ∃ met, after.filter = before.filter.append met ∧
    ∀ entry ∈ met, Filter.IsRuleFileWhere top root region entry
  found : ∃ new : List (List Text), after.found = before.found ++ new.map root.under ∧ new.Nodup ∧
    ∀ names, names ∈ new ↔ listed names

variable {region other listed more : List Text → Prop} {before after last : Walk}

theorem visits_refl (region : List Text → Prop) (sofar : Walk) :
    Visits top root region (fun _ ↦ False) sofar sofar where
  rules := ⟨[], (Filter.append_nil _).symm, List.forall_mem_nil _⟩
  found := ⟨[], (List.append_nil _).symm, List.nodup_nil, fun _ ↦ iff_of_false List.not_mem_nil id⟩

/-- Entering a folder finds nothing yet. -/
theorem visits_entered (folder : List Text) (sofar : Walk) :
    Visits top root (fun below ↦ folder <+: below) (fun _ ↦ False) sofar
      ⟨sofar.filter.append (Filter.metIn top root folder), sofar.found⟩ where
  rules := ⟨_, rfl, fun _ ↦ Filter.isRuleFileWhere_of_mem_metIn⟩
  found := ⟨[], (List.append_nil _).symm, List.nodup_nil, fun _ ↦ iff_of_false List.not_mem_nil id⟩

/-- Two parts of a walk, one after the other, that list nothing in common. -/
theorem Visits.trans (h : Visits top root region listed before after)
    (hlast : Visits top root other more after last)
    (hapart : ∀ names, listed names → ¬ more names) :
    Visits top root (fun names ↦ region names ∨ other names)
      (fun names ↦ listed names ∨ more names) before last where
  rules := by
    obtain ⟨met, hfilter, hmet⟩ := h.rules
    obtain ⟨met', hfilter', hmet'⟩ := hlast.rules
    refine ⟨met ++ met', by rw [hfilter', hfilter, Filter.append_append], ?_⟩
    exact List.forall_mem_append.mpr
      ⟨fun entry hentry ↦ (hmet entry hentry).imp fun _ ↦ Or.inl,
        fun entry hentry ↦ (hmet' entry hentry).imp fun _ ↦ Or.inr⟩
  found := by
    obtain ⟨new, hfound, hnodup, hnew⟩ := h.found
    obtain ⟨new', hfound', hnodup', hnew'⟩ := hlast.found
    refine ⟨new ++ new', by rw [hfound', hfound, List.map_append, List.append_assoc], ?_, ?_⟩
    · refine List.nodup_append.mpr ⟨hnodup, hnodup', ?_⟩
      rintro names hmem _ hmem' rfl
      exact hapart names ((hnew names).mp hmem) ((hnew' names).mp hmem')
    · intro names
      rw [List.mem_append, hnew, hnew']

/-- Only what the region and the listing hold of matters. -/
theorem Visits.congr (h : Visits top root region listed before after)
    (hregion : ∀ names, region names → other names) (hlisted : ∀ names, listed names ↔ more names) :
    Visits top root other more before after where
  rules := by
    obtain ⟨met, hfilter, hmet⟩ := h.rules
    exact ⟨met, hfilter, fun entry hentry ↦ (hmet entry hentry).imp hregion⟩
  found := by
    obtain ⟨new, hfound, hnodup, hnew⟩ := h.found
    exact ⟨new, hfound, hnodup, fun names ↦ (hnew names).trans (hlisted names)⟩

/-- A part of a walk in a region leaves the filter ready for paths that the region does not
reach. -/
theorem Visits.isReadyFor (h : Visits top root region listed before after)
    (hready : before.filter.IsReadyFor further top root names)
    (hapart : ∀ folder, region folder → ¬ names <+: folder) :
    after.filter.IsReadyFor further top root names := by
  obtain ⟨met, hfilter, hmet⟩ := h.rules
  rw [hfilter]
  exact hready.append fun entry hentry ↦ (hmet entry hentry).imp hapart

/-! ## The files of a folder -/

/-- Among the files of a folder the readmes that are not ignored are found. -/
theorem readmesAmong_visits {filter : Filter} (habsolute : root.isAbsolute = true)
    (hnodup : (entries.map Prod.fst).Nodup)
    (hready : ∀ name, filter.IsReadyFor further top root (folder ++ [name])) (found : List Path) :
    Visits top root (fun _ ↦ False) (IsListedIn further top folder entries) ⟨filter, found⟩
      ⟨filter, found ++ readmesAmong filter (root.under folder) entries⟩ where
  rules := ⟨[], (Filter.append_nil _).symm, List.forall_mem_nil _⟩
  found := by
    let files := entries.filter fun pair ↦ !pair.2.isFolder && Text.lower pair.1 == readmeName
    let names := (files.map Prod.fst).map fun name ↦ folder ++ [name]
    refine ⟨names.filter fun file ↦ !filter.ignores (root.under file) false, ?_, ?_, ?_⟩
    · have hchild : (fun pair : Text × Entry ↦ (root.under folder).child pair.1) =
          root.under ∘ (fun name ↦ folder ++ [name]) ∘ Prod.fst :=
        funext fun pair ↦ Path.child_under root folder pair.1
      change found ++ List.filter _ (files.map fun pair ↦ (root.under folder).child pair.1) = _
      rw [hchild, ← List.map_map, ← List.map_map, List.filter_map]
      rfl
    · have hfiles : (files.map Prod.fst).Nodup := hnodup.sublist (List.filter_sublist.map Prod.fst)
      exact (hfiles.map fun a b h ↦ List.singleton_inj.mp (List.append_cancel_left h)).filter _
    · intro file
      have hignores (name : Text) : (!filter.ignores (root.under (folder ++ [name])) false) = true ↔
          ¬ IsIgnored further top (folder ++ [name]) false := by
        rw [Bool.not_eq_true', Bool.eq_false_iff, Ne,
          (hready name).ignores_iff habsolute (List.append_ne_nil_of_right_ne_nil _ (by simp))]
      rw [List.mem_filter, List.mem_map]
      constructor
      · rintro ⟨⟨name, hname, rfl⟩, hkept⟩
        obtain ⟨⟨_, entry⟩, hpair, rfl⟩ := List.mem_map.mp hname
        obtain ⟨hmem, hguard⟩ := List.mem_filter.mp hpair
        rw [Bool.and_eq_true, beq_iff_eq] at hguard
        cases entry with
        | file content => exact ⟨_, content, hmem, hguard.2, rfl, (hignores _).mp hkept⟩
        | folder _ => exact absurd hguard.1 (by simp [Entry.isFolder])
      · rintro ⟨name, content, hmem, hreadme, rfl, hkept⟩
        refine ⟨⟨name, List.mem_map.mpr ⟨_, List.mem_filter.mpr ⟨hmem, ?_⟩, rfl⟩, rfl⟩,
          (hignores name).mpr hkept⟩
        rw [Bool.and_eq_true, beq_iff_eq]
        exact ⟨rfl, hreadme⟩

/-! ## Walks -/

/-- With a filter that is ready for it, a walk from an entry finds what is listed below it. -/
def WalkVisits (further : List Text) (top : Entry) (root : Path) (entry : Entry) : Prop :=
  ∀ names sofar, top.descend? names = some entry → sofar.filter.IsReadyFor further top root names →
    ∃ after, walk sofar (root.under names) entry = .ok after ∧
      Visits top root (fun below ↦ names <+: below) (IsListedFrom further top names) sofar after

def IsListedVia (further : List Text) (top : Entry) (folder : List Text) (pair : Text × Entry)
    (names : List Text) : Prop :=
  pair.2.isFolder = true ∧ ¬ IsIgnored further top (folder ++ [pair.1]) true ∧
    IsListedFrom further top (folder ++ [pair.1]) names

section Folder

variable {filter : Filter}

theorem walk_or_pass_visits (habsolute : root.isAbsolute = true) {pair : Text × Entry}
    (hentry : top.descend? (folder ++ [pair.1]) = some pair.2)
    (hwalk : WalkVisits further top root pair.2)
    (hready : filter.IsReadyFor further top root (folder ++ [pair.1])) (sofar : Walk)
    (hsofar : sofar.filter.IsReadyFor further top root (folder ++ [pair.1])) :
    ∃ after,
      (if pair.2.isFolder && !filter.ignores ((root.under folder).child pair.1) true then
        walk sofar ((root.under folder).child pair.1) pair.2 else pure sofar) = .ok after ∧
      Visits top root (fun below ↦ folder ++ [pair.1] <+: below)
        (IsListedVia further top folder pair) sofar after := by
  have hignores : filter.ignores (root.under (folder ++ [pair.1])) true = true ↔
      IsIgnored further top (folder ++ [pair.1]) true := hready.ignores_iff habsolute (by simp)
  rw [Path.child_under]
  by_cases hguard : pair.2.isFolder = true ∧ ¬ IsIgnored further top (folder ++ [pair.1]) true
  · rw [if_pos (by simpa [← hignores] using hguard)]
    obtain ⟨after, hafter, hvisits⟩ := hwalk _ sofar hentry hsofar
    refine ⟨after, hafter, hvisits.congr (fun _ ↦ id) fun names ↦ ?_⟩
    exact ⟨fun h ↦ ⟨hguard.1, hguard.2, h⟩, fun h ↦ h.2.2⟩
  · rw [if_neg (by simpa [← hignores] using hguard)]
    refine ⟨sofar, rfl, (visits_refl _ sofar).congr (fun _ ↦ id) fun names ↦ ?_⟩
    exact iff_of_false id fun h ↦ hguard ⟨h.1, h.2.1⟩

/-- A walk through some entries of a folder. The filter of the folder decides where it goes; the
filter that it carries is ready for the entries that are left. -/
theorem walkAmong_visits (habsolute : root.isAbsolute = true)
    (hready : ∀ name, filter.IsReadyFor further top root (folder ++ [name]))
    (hentries : ∀ pair ∈ entries, top.descend? (folder ++ [pair.1]) = some pair.2)
    (hwalk : ∀ pair ∈ entries, WalkVisits further top root pair.2)
    (hnodup : (entries.map Prod.fst).Nodup) (sofar : Walk)
    (hsofar : ∀ pair ∈ entries, sofar.filter.IsReadyFor further top root (folder ++ [pair.1])) :
    ∃ after, walkAmong filter sofar (root.under folder) entries = .ok after ∧
      Visits top root (fun below ↦ folder <+: below)
        (fun names ↦ ∃ pair ∈ entries, IsListedVia further top folder pair names) sofar after := by
  induction entries generalizing sofar with
  | nil =>
    refine ⟨sofar, by rw [walkAmong], (visits_refl _ sofar).congr (fun _ ↦ id) fun names ↦ ?_⟩
    simp
  | cons pair entries ih =>
    obtain ⟨hentry, hentries⟩ := List.forall_mem_cons.mp hentries
    obtain ⟨hhead, hwalk⟩ := List.forall_mem_cons.mp hwalk
    obtain ⟨hfirst, hrest⟩ := List.forall_mem_cons.mp hsofar
    obtain ⟨hfresh, hnodup⟩ := List.nodup_cons.mp hnodup
    have hother (other : Text × Entry) (hmem : other ∈ entries) : other.1 ≠ pair.1 := fun heq ↦
      hfresh (List.mem_map.mpr ⟨other, hmem, heq⟩)
    obtain ⟨next, hnext, hvisits⟩ :=
      walk_or_pass_visits habsolute hentry hhead (hready pair.1) sofar hfirst
    obtain ⟨after, hafter, hmore⟩ := ih hentries hwalk hnodup next fun other hmem ↦
      hvisits.isReadyFor (hrest other hmem) fun below hbelow hbelow' ↦
        hother other hmem (eq_of_prefix_concat hbelow' hbelow)
    have hapart (names : List Text) (h : IsListedVia further top folder pair names) :
        ¬ ∃ other ∈ entries, IsListedVia further top folder other names := by
      rintro ⟨other, hmem, h'⟩
      exact hother other hmem (eq_of_prefix_concat h'.2.2.below h.2.2.below)
    refine ⟨after, ?_, (hvisits.trans hmore hapart).congr ?_ fun names ↦ ?_⟩
    · rw [walkAmong]
      split_ifs at hnext ⊢ with hguard
      · rw [hnext]
        exact hafter
      · obtain rfl := Except.ok.inj hnext
        exact hafter
    · rintro below (hbelow | hbelow)
      · exact (List.prefix_append folder [pair.1]).trans hbelow
      · exact hbelow
    · rw [List.exists_mem_cons_iff]

end Folder

/-- A walk finds what is listed, from every entry and whatever it has met elsewhere. -/
theorem walk_visits (habsolute : root.isAbsolute = true) (haccepts : AcceptsPatterns further top)
    (hunique : top.HasUniqueNames) (entry : Entry) : WalkVisits further top root entry := by
  induction entry using Entry.induction with
  | file content =>
    intro names sofar hentry _
    refine ⟨sofar, by rw [walk], (visits_refl _ sofar).congr (fun _ ↦ id) fun below ↦ ?_⟩
    refine iff_of_false id fun h ↦ ?_
    obtain ⟨name, rest, rfl⟩ := h.exists_eq_append_cons
    obtain ⟨found, hfound⟩ := h.isFile
    rw [Entry.descend?_append, hentry] at hfound
    exact absurd hfound (by simp [Entry.descend?, Entry.child?])
  | folder entries ih =>
    intro names sofar hentry hready
    have henter := hready.enter_eq haccepts
    rw [hentry] at henter
    have hinside := hready.entered
    have hfiles := readmesAmong_visits habsolute (hunique names entries hentry) hinside sofar.found
    obtain ⟨after, hafter, hamong⟩ := walkAmong_visits habsolute hinside
      (fun pair hmem ↦ (descend?_of_mem hunique hentry).mpr hmem) ih (hunique names entries hentry)
      ⟨_, sofar.found ++ readmesAmong _ (root.under names) entries⟩ (fun pair _ ↦ hinside pair.1)
    refine ⟨after, ?_, ?_⟩
    · rw [walk, henter]
      exact hafter
    · have hapart (file : List Text) (h : IsListedIn further top names entries file) :
          ¬ ∃ pair ∈ entries, IsListedVia further top names pair file := by
        obtain ⟨name, content, hmem, -, rfl, -⟩ := h
        rintro ⟨pair, -, -, -, hbelow⟩
        have heq := eq_of_prefix_concat hbelow.below (List.prefix_refl _)
        exact hbelow.ne (by rw [heq])
      refine (((visits_entered names sofar).trans hfiles fun _ ↦ False.elim).trans hamong ?_).congr
        ?_ ?_
      · rintro file (h | h)
        · exact h.elim
        · exact hapart file h
      · rintro below ((h | h) | h)
        · exact h
        · exact h.elim
        · exact h
      · intro file
        rw [false_or, isListedFrom_iff hunique hentry]
        rfl

/-! ## Discovery -/

variable {tree : Tree} {path : Path} {further : List Text}

/-- Where all patterns are accepted, the walk comes to its end, and what it finds is what is listed.
-/
theorem exists_readmes (habsolute : tree.here.isAbsolute = true)
    (htop : tree.find? (tree.resolve path) = some top) (hunique : top.HasUniqueNames)
    (haccepts : AcceptsPatterns further top) :
    ∃ found, readmes tree path further = .ok found ∧ found.Nodup ∧
      (found.Pairwise fun a b ↦ a.names ≤ b.names) ∧
      ∀ file, file ∈ found ↔
        ∃ names, file = (tree.resolve path).under names ∧ IsListedFrom further top [] names := by
  obtain ⟨general, hgeneral⟩ := haccepts.general
  let root := tree.resolve path
  let filter : Filter :=
    { root, general, ofRoot := testAt top [], nested := [], readsNested := true }
  have hmake : Filter.make tree root further true = .ok filter := by
    have hroot := haccepts.testIn_eq []
    rw [Filter.make, hgeneral, htop]
    change (do
      let ofRoot ← Filter.testIn (top.descend? [])
      return { filter with ofRoot }) = _
    rw [hroot]
    rfl
  have hready : filter.IsReadyFor further top root [] :=
    { root_eq := rfl
      general := hgeneral
      ofRoot_eq := rfl
      readsNested_eq := rfl
      met := List.forall_mem_nil _
      above := fun folder _ hne hprefix ↦ absurd (List.prefix_nil.mp hprefix) hne }
  obtain ⟨after, hafter, hvisits⟩ := walk_visits (isAbsolute_resolve habsolute path) haccepts
    hunique top [] { filter } rfl hready
  obtain ⟨new, hfound, hnodup, hnew⟩ := hvisits.found
  refine ⟨after.found.mergeSort Path.comesBefore, ?_, ?_, Path.pairwise_mergeSort _, fun file ↦ ?_⟩
  · unfold readmes
    dsimp only
    rw [hmake, htop]
    change (do return (← walk { filter } root top).found.mergeSort Path.comesBefore) = _
    rw [← Path.under_nil root, hafter]
    rfl
  · refine (List.mergeSort_perm _ _).nodup_iff.mpr ?_
    rw [hfound]
    exact hnodup.map (Path.under_injective root)
  · rw [List.mem_mergeSort, hfound, List.nil_append, List.mem_map]
    constructor
    · rintro ⟨names, hmem, rfl⟩
      exact ⟨names, rfl, (hnew names).mp hmem⟩
    · rintro ⟨names, rfl, hlisted⟩
      exact ⟨names, (hnew names).mpr hlisted, rfl⟩

theorem IsListedFrom.of_sameFiles {other : Entry} (hsame : top.SameFiles other)
    (h : IsListedFrom further top folder names) : IsListedFrom further other folder names where
  below := h.below
  ne := h.ne
  isFile := h.isFile.imp fun _ ↦ hsame.descend?_eq_file_iff.mp
  isReadme := h.isReadme
  kept := mt (isIgnored_of_sameFiles hsame).mp h.kept
  reached above hfront hback hne hproper :=
    mt (isIgnored_of_sameFiles hsame).mp (h.reached above hfront hback hne hproper)

/-- The order in which folders list their entries does not matter to what is found. -/
theorem isListedFrom_of_sameFiles {other : Entry} (h : top.SameFiles other) :
    IsListedFrom further other folder names ↔ IsListedFrom further top folder names :=
  ⟨.of_sameFiles h.symm, .of_sameFiles h⟩

/-- The readmes below a path are those that are listed there, sorted and each of them once. Trees
with the same files have the same readmes, in whatever order their folders list the entries. -/
theorem readmes_are_listed (habsolute : tree.here.isAbsolute = true)
    (htop : tree.find? (tree.resolve path) = some top) (hunique : top.HasUniqueNames)
    (haccepts : AcceptsPatterns further top) :
    (∃ found, readmes tree path further = .ok found ∧ found.Nodup ∧
      (found.Pairwise fun a b ↦ a.names ≤ b.names) ∧
      ∀ file, file ∈ found ↔
        ∃ names, file = (tree.resolve path).under names ∧ IsListedFrom further top [] names) ∧
    ∀ (tree' : Tree) (top' : Entry), tree'.here = tree.here →
      tree'.find? (tree.resolve path) = some top' → top'.HasUniqueNames → top.SameFiles top' →
        readmes tree' path further = readmes tree path further := by
  have hlisted := exists_readmes habsolute htop hunique haccepts
  refine ⟨hlisted, fun tree' top' hhere htop' hunique' hsame ↦ ?_⟩
  have hresolve : tree'.resolve path = tree.resolve path := by
    rw [Tree.resolve, hhere, Tree.resolve]
  obtain ⟨found, hfound, hnodup, hsorted, hmem⟩ := hlisted
  obtain ⟨found', hfound', hnodup', hsorted', hmem'⟩ := exists_readmes (hhere ▸ habsolute)
    (hresolve ▸ htop') hunique' (haccepts.of_sameFiles hsame)
  rw [hresolve] at hmem'
  have hunder (file : Path) (hfile : file ∈ found') :
      ∃ names, file = (tree.resolve path).under names :=
    ((hmem' file).mp hfile).imp fun _ ↦ And.left
  have hsame' (file : Path) : file ∈ found' ↔ file ∈ found := by
    rw [hmem, hmem']
    simp only [isListedFrom_of_sameFiles hsame]
  rw [hfound, hfound',
    Path.eq_of_pairwise (tree.resolve path) hnodup' hnodup hsorted' hsorted hunder hsame']

/-- What a walk finds in their order is what is listed. -/
theorem readmes_of_walk {found : List Path} (htop : tree.find? (tree.resolve path) = some top)
    (hwalk : (do
      let filter ← Filter.make tree (tree.resolve path) further true
      return (← walk { filter } (tree.resolve path) top).found) = .ok found)
    (hsorted : found.Pairwise fun a b ↦ Path.comesBefore a b = true) :
    readmes tree path further = .ok found := by
  obtain ⟨filter, hmake, hwalk⟩ := bind_eq_ok.mp hwalk
  obtain ⟨after, hafter, hfound⟩ := bind_eq_ok.mp hwalk
  unfold readmes
  dsimp only
  rw [hmake, htop]
  refine bind_eq_ok.mpr ⟨filter, rfl, bind_eq_ok.mpr ⟨after, hafter, ?_⟩⟩
  rw [Except.ok.inj hfound]
  exact congrArg _ (List.mergeSort_of_pairwise hsorted)

/-- Patterns are accepted if those are that the folders of the tree list. -/
theorem acceptsPatterns_of_folders (hgeneral : (Matcher.test (defaultLines ++ further)).isOk = true)
    (h : ∀ entries ∈ top.folders, (Filter.testIn (some (.folder entries))).isOk = true) :
    AcceptsPatterns further top where
  general := exists_ok_of_isOk hgeneral
  rules folder ls hlines := by
    have htest := testIn_of_hasRuleLines hlines
    obtain ⟨t, hfile, -⟩ := hlines
    obtain ⟨entries, hfolder, -⟩ := Entry.descend?_concat_eq_some_iff.mp hfile
    have hok := h entries (Entry.mem_folders_of_descend? hfolder)
    rw [← hfolder, htest] at hok
    obtain ⟨_, h⟩ := exists_ok_of_isOk hok
    obtain ⟨test, htest, -⟩ := map_eq_ok.mp h
    exact ⟨test, htest⟩

end Matcher

/-! ## A tree -/

/-- Readmes that are ignored by a default pattern, by a further one, by the rule file of the root
and by that of a folder, which takes its rule back for one of them. -/
def nestedEntries : List (Text × Entry) :=
  [("plugins".toList, .folder
      [(".gitignore".toList, .file (Utf8.encode "*/readme.txt\r\n!/kept/readme.txt".toList)),
        ("kept".toList, .folder [("readme.txt".toList, .file [])]),
        ("left".toList, .folder [("readme.txt".toList, .file [])])]),
    (".gitignore".toList, .file (Utf8.encode "build/\n".toList)),
    ("build".toList, .folder [("README.txt".toList, .file [])]),
    ("vendor".toList, .folder [("readme.txt".toList, .file [])]),
    ("drafts".toList, .folder [("readme.txt".toList, .file [])]),
    ("Readme.txt".toList, .file [])]

def nestedTree (entries : List (Text × Entry)) : Tree := ⟨.folder entries, { front := "/".toList }⟩

/-- A file of the tree that is found, under the root. -/
def nestedFile (names : List String) : Path :=
  { front := "/".toList, names := names.map String.toList }

/-- Two of the six readmes are found, and no others are listed, in whatever order the folder has its
entries. -/
theorem readmes_are_listed_nested :
    (nestedTree nestedEntries).here.isAbsolute = true ∧
      (nestedTree nestedEntries).find? ((nestedTree nestedEntries).resolve {}) =
        some (.folder nestedEntries) ∧
      (Entry.folder nestedEntries).HasUniqueNames ∧
      AcceptsPatterns ["drafts/".toList] (.folder nestedEntries) ∧
      readmes (nestedTree nestedEntries) {} ["drafts/".toList] =
        .ok [nestedFile ["Readme.txt"], nestedFile ["plugins", "kept", "readme.txt"]] ∧
      (∀ names, IsListedFrom ["drafts/".toList] (.folder nestedEntries) [] names ↔
        names = ["Readme.txt".toList] ∨
          names = ["plugins".toList, "kept".toList, "readme.txt".toList]) ∧
      readmes (nestedTree nestedEntries.reverse) {} ["drafts/".toList] =
        .ok [nestedFile ["Readme.txt"], nestedFile ["plugins", "kept", "readme.txt"]] := by
  have htop : (nestedTree nestedEntries).find? ((nestedTree nestedEntries).resolve {}) =
      some (.folder nestedEntries) := rfl
  have hunique : (Entry.folder nestedEntries).HasUniqueNames :=
    Entry.hasUniqueNames_of_folders (by decide +kernel)
  have hreversed : (Entry.folder nestedEntries.reverse).HasUniqueNames :=
    Entry.hasUniqueNames_of_folders (by decide +kernel)
  have haccepts : AcceptsPatterns ["drafts/".toList] (.folder nestedEntries) :=
    acceptsPatterns_of_folders (by decide +kernel) (by decide +kernel)
  have hsame : (Entry.folder nestedEntries).SameFiles (.folder nestedEntries.reverse) :=
    Entry.sameFiles_of_perm nestedEntries.reverse_perm.symm (hunique [] _ rfl)
  have hreadmes : readmes (nestedTree nestedEntries) {} ["drafts/".toList] =
      .ok [nestedFile ["Readme.txt"], nestedFile ["plugins", "kept", "readme.txt"]] := by
    refine readmes_of_walk htop ?_ (by decide)
    decide +kernel
  obtain ⟨⟨found, hfound, -, -, hlisted⟩, horder⟩ := readmes_are_listed rfl htop hunique haccepts
  obtain rfl := Except.ok.inj (hreadmes.symm.trans hfound)
  refine ⟨rfl, htop, hunique, haccepts, hreadmes, fun names ↦ ?_, ?_⟩
  · have hfile : ((nestedTree nestedEntries).resolve {}).under names =
        { front := "/".toList, names } := rfl
    have hmem := hlisted (((nestedTree nestedEntries).resolve {}).under names)
    constructor
    · intro h
      have hfound := hmem.mpr ⟨names, rfl, h⟩
      simpa [hfile, nestedFile] using hfound
    · intro h
      obtain ⟨other, hother, h⟩ := hmem.mp (by simpa [hfile, nestedFile] using h)
      rwa [Path.under_injective _ hother]
  · rw [horder (nestedTree nestedEntries.reverse) _ rfl rfl hreversed hsame, hreadmes]

end PluginReadme.Ignore
