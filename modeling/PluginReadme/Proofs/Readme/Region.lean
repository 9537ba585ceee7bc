import PluginReadme.Proofs.Readme.Boundary
import PluginReadme.Proofs.Readme.Header

/-!
# What decides a header

The header is put together from four readings of the lines (`ofLines_eq`): the labelled fields and
the description come from the lines before the first heading of a section, the name from all lines.
So two texts with the same lines up to such a heading agree on every entry but the name. What comes
after the heading counts only where none of the lines before it names the plugin
(`header_eq_iff_of_same_front`).
-/

namespace PluginReadme

variable {ls front back other : List Text} {line heading : Text}

/-! ## Headings and names -/

/-- The heading of a section has a blank where the third mark of a name would be. -/
theorem nameOn?_of_isSectionBetweenBlanks (h : Heading.IsSectionBetweenBlanks heading) :
    nameOn? heading = none := by
  obtain ⟨title, htitle⟩ := Option.isSome_iff_exists.mp h
  obtain ⟨inside, hsection, hpadded, -⟩ := Heading.title?_eq_some htitle
  cases hname : nameOn? heading with
  | none => rfl
  | some name =>
    obtain ⟨enclosed, hbetween, -, -, -⟩ := Heading.pluginName?_eq_some hname
    rw [dropFinalFeed_strip] at hbetween
    have hthird : (Text.strip heading)[2]? = some '=' := by
      rw [Heading.eq_of_between? hbetween]
      rfl
    obtain ⟨c, rest, rfl⟩ := List.exists_cons_of_ne_nil (Heading.ne_nil_of_isPadded hpadded)
    have hblank : (Text.strip heading)[2]? = some c := by
      rw [Heading.eq_of_between? hsection]
      rfl
    obtain rfl : c = '=' := Option.some.inj (hblank.symm.trans hthird)
    exact absurd ((Heading.isTrimmed_of_isPadded hpadded).head '=' rfl) (by decide)

namespace Header

/-! ## The region of the header -/

/-- A header depends on the trimmed lines only. -/
theorem ofLines_congr (h : ls.map Text.strip = other.map Text.strip) :
    ofLines ls = ofLines other := by
  unfold ofLines regionOf
  rw [h]

/-- The region goes on up to the heading of a section, whatever blanks stand around it. -/
theorem regionOf_cons (line : Text) (ls : List Text) :
    regionOf (line :: ls) =
      if Heading.IsSectionBetweenBlanks line then [] else Text.strip line :: regionOf ls := by
  by_cases h : Heading.IsSectionBetweenBlanks line
  · have hstop : ¬ (Heading.section? (Text.strip line)).isNone = true := by
      rw [← Option.not_isSome, h]
      decide
    rw [if_pos h, regionOf, List.map_cons, List.takeWhile_cons, if_neg hstop]
  · have hpass : (Heading.section? (Text.strip line)).isNone = true := by
      rw [← Option.not_isSome, Bool.not_eq_true']
      exact Bool.eq_false_iff.mpr h
    rw [if_neg h, regionOf, List.map_cons, List.takeWhile_cons, if_pos hpass]
    rfl

/-- The region ends at the heading of a section, whatever comes after it. -/
theorem regionOf_append_heading (h : Heading.IsSectionBetweenBlanks heading) :
    regionOf (front ++ heading :: back) = regionOf front := by
  induction front with
  | nil =>
    rw [List.nil_append, regionOf_cons, if_pos h]
    rfl
  | cons line front ih => rw [List.cons_append, regionOf_cons, regionOf_cons, ih]

/-- What follows lines among which a section is opened is not part of the region. -/
theorem regionOf_append_of_exists (h : ∃ line ∈ front, Heading.IsSectionBetweenBlanks line) :
    regionOf (front ++ back) = regionOf front := by
  obtain ⟨heading, hmem, hheading⟩ := h
  obtain ⟨start, rest, rfl⟩ := List.append_of_mem hmem
  rw [List.append_assoc, List.cons_append, regionOf_append_heading hheading,
    regionOf_append_heading hheading]

/-- Lines that are no headings of sections belong to the region. -/
theorem regionOf_append (h : ∀ line ∈ front, ¬ Heading.IsSectionBetweenBlanks line) :
    regionOf (front ++ back) = front.map Text.strip ++ regionOf back := by
  induction front with
  | nil => rfl
  | cons line front ih =>
    obtain ⟨hline, hfront⟩ := List.forall_mem_cons.mp h
    rw [List.cons_append, regionOf_cons, if_neg hline, ih hfront]
    rfl

/-- The lines are those of the region and a rest without region. -/
theorem exists_region (ls : List Text) :
    ∃ front back, ls = front ++ back ∧ front.map Text.strip = regionOf ls ∧ regionOf back = [] ∧
      ∀ line ∈ front, ¬ Heading.IsSectionBetweenBlanks line := by
  induction ls with
  | nil => exact ⟨[], [], rfl, rfl, rfl, List.forall_mem_nil _⟩
  | cons line ls ih =>
    rw [regionOf_cons]
    by_cases hline : Heading.IsSectionBetweenBlanks line
    · rw [if_pos hline]
      refine ⟨[], line :: ls, rfl, rfl, ?_, List.forall_mem_nil _⟩
      rw [regionOf_cons, if_pos hline]
    · obtain ⟨front, back, rfl, hfront, hback, hnone⟩ := ih
      rw [if_neg hline, ← hfront]
      exact ⟨line :: front, back, rfl, rfl, hback, List.forall_mem_cons.mpr ⟨hline, hnone⟩⟩

/-- A region starts the trimmed lines. -/
theorem regionOf_isPrefix (ls : List Text) : regionOf ls <+: ls.map Text.strip :=
  List.takeWhile_prefix _

/-! ## The description -/

def firstRun (ls : List Text) : Text :=
  Text.join [' '] ((ls.dropWhile fun line ↦ !isPlain line).takeWhile isPlain)

def afterName (ls : List Text) : List Text :=
  (ls.dropWhile fun line ↦ (Heading.pluginName? line).isNone).tail

theorem firstRun_nil : firstRun [] = [] := rfl

/-- A line comes after the name if some line before it names the plugin. -/
theorem mem_afterName_iff :
    line ∈ afterName ls ↔
      ∃ name, (Heading.pluginName? name).isSome = true ∧ [name, line].Sublist ls := by
  induction ls with
  | nil => exact iff_of_false List.not_mem_nil fun ⟨_, _, h⟩ ↦ by simp at h
  | cons first ls ih =>
    cases hfirst : (Heading.pluginName? first).isSome with
    | true =>
      have hafter : afterName (first :: ls) = ls := by
        rw [afterName, List.dropWhile_cons_of_neg (by simp [Option.isSome_iff_ne_none.mp hfirst])]
        rfl
      rw [hafter]
      constructor
      · intro hline
        exact ⟨first, hfirst, (List.singleton_sublist.mpr hline).cons_cons first⟩
      · rintro ⟨name, -, hsublist⟩
        exact List.singleton_sublist.mp hsublist.tail
    | false =>
      have hafter : afterName (first :: ls) = afterName ls := by
        rw [afterName, List.dropWhile_cons_of_pos (by rw [← Option.not_isSome, hfirst]; rfl)]
        rfl
      rw [hafter, ih]
      constructor
      · rintro ⟨name, hname, hsublist⟩
        exact ⟨name, hname, hsublist.cons first⟩
      · rintro ⟨name, hname, hsublist⟩
        refine ⟨name, hname, ?_⟩
        cases hsublist with
        | cons _ hrest => exact hrest
        | cons_cons _ hrest =>
          rw [hname] at hfirst
          exact absurd hfirst (by simp)

theorem afterName_eq_nil (h : ∀ line ∈ ls, Heading.pluginName? line = none) :
    afterName ls = [] := by
  rw [List.eq_nil_iff_forall_not_mem]
  intro line hline
  obtain ⟨name, hname, hsublist⟩ := mem_afterName_iff.mp hline
  rw [h name (hsublist.subset List.mem_cons_self)] at hname
  exact absurd hname (by simp)

/-- What follows the first name among more lines is, of these lines, what follows the name among
them. -/
theorem drop_eq_afterName {index : Nat}
    (h : (ls ++ back).findIdx? (fun line ↦ (Heading.pluginName? line).isSome) = some index) :
    ls.drop (index + 1) = afterName ls := by
  induction ls generalizing index with
  | nil => rfl
  | cons line ls ih =>
    rw [List.cons_append, List.findIdx?_cons] at h
    rw [List.drop_succ_cons, afterName]
    cases hname : (Heading.pluginName? line).isSome with
    | true =>
      rw [hname, if_pos rfl, Option.some.injEq] at h
      rw [List.dropWhile_cons_of_neg (by simp [Option.isSome_iff_ne_none.mp hname]), ← h]
      rfl
    | false =>
      rw [hname, if_neg Bool.false_ne_true] at h
      obtain ⟨place, hplace, rfl⟩ := Option.map_eq_some_iff.mp h
      rw [List.dropWhile_cons_of_pos (by rw [← Option.not_isSome, hname]; rfl), ih hplace]
      rfl

/-- A run is empty only if there is no plain line. -/
theorem firstRun_eq_nil_iff : firstRun ls = [] ↔ ∀ line ∈ ls, isPlain line = false := by
  induction ls with
  | nil => exact ⟨fun _ ↦ List.forall_mem_nil _, fun _ ↦ rfl⟩
  | cons line ls ih =>
    cases hplain : isPlain line with
    | true =>
      have hne : line ≠ [] := by
        rintro rfl
        exact absurd hplain (by decide)
      have hrun : firstRun (line :: ls) = Text.join [' '] (line :: ls.takeWhile isPlain) := by
        rw [firstRun, List.dropWhile_cons_of_neg (by simp [hplain]),
          List.takeWhile_cons_of_pos hplain]
      rw [hrun]
      constructor
      · intro hnil
        obtain ⟨c, rest, rfl⟩ := List.exists_cons_of_ne_nil hne
        cases hmore : ls.takeWhile isPlain with
        | nil =>
          rw [hmore, Text.join_singleton] at hnil
          exact absurd hnil hne
        | cons next more =>
          rw [hmore, Text.join_cons (List.cons_ne_nil next more)] at hnil
          exact absurd hnil (List.cons_ne_nil _ _)
      · intro hnone
        rw [hnone line List.mem_cons_self] at hplain
        exact absurd hplain Bool.false_ne_true
    | false =>
      have hrun : firstRun (line :: ls) = firstRun ls := by
        rw [firstRun, List.dropWhile_cons_of_pos (by simp [hplain])]
        rfl
      rw [hrun, ih, List.forall_mem_cons]
      exact ⟨fun h ↦ ⟨hplain, h⟩, fun h ↦ h.2⟩

/-! ## The four readings -/

/-- The first name on the lines; without one it is empty. -/
def nameIn (ls : List Text) : Text := (ls.findSome? nameOn?).getD []

/-- Lines without a name may be left out where the name is looked for. -/
theorem nameIn_append_block (h : ∀ line ∈ other, nameOn? line = none) :
    nameIn (front ++ (other ++ back)) = nameIn (front ++ back) := by
  have hnone : other.findSome? nameOn? = none := List.findSome?_eq_none_iff.mpr h
  rw [nameIn, nameIn, List.findSome?_append, List.findSome?_append, List.findSome?_append, hnone,
    Option.none_or]

theorem nameIn_append_cons (h : nameOn? line = none) :
    nameIn (front ++ line :: back) = nameIn (front ++ back) :=
  nameIn_append_block (List.forall_mem_singleton.mpr h)

/-- The fields come from the region, the name from all lines, and the description from the lines of
the region after the name. -/
theorem ofLines_eq (ls : List Text) :
    ofLines ls =
      { (regionOf ls).foldl read {} with
        pluginName := nameIn ls
        shortDescription := firstRun (afterName (regionOf ls)) } := by
  obtain ⟨rest, hrest⟩ := regionOf_isPrefix ls
  have hname : (ofLines ls).pluginName = nameIn ls := by
    rw [pluginName_ofLines, List.head?_filterMap, nameIn]
  have hunnamed := pluginName_foldl_read {} (regionOf ls)
  have hplain := shortDescription_foldl_read {} (regionOf ls)
  rw [← hname]
  unfold ofLines
  dsimp only
  split
  · next index hindex =>
    rw [← hrest] at hindex
    rw [descriptionOf, drop_eq_afterName hindex]
    rfl
  · next hnone =>
    have hregion : ∀ line ∈ regionOf ls, Heading.pluginName? line = none := by
      intro line hline
      have hsome := List.findIdx?_eq_none_iff.mp hnone line (hrest ▸ List.mem_append_left _ hline)
      rwa [Option.isSome_eq_false_iff, Option.isNone_iff_eq_none] at hsome
    rw [afterName_eq_nil hregion, firstRun_nil]
    change _ = { (regionOf ls).foldl read {} with
      shortDescription := ({} : Header).shortDescription }
    rw [← hplain]

/-- Lines behind the heading of a section decide at most the name. -/
theorem ofLines_append_heading (h : Heading.IsSectionBetweenBlanks heading) :
    ofLines (front ++ heading :: back) =
      { ofLines front with pluginName := nameIn (front ++ back) } := by
  rw [ofLines_eq, ofLines_eq, regionOf_append_heading h,
    nameIn_append_cons (nameOn?_of_isSectionBetweenBlanks h)]

/-- A description that is found on some lines is found on more lines, perhaps as another one. -/
theorem firstRun_afterName_of_sublist (h : ls.Sublist other)
    (hnil : firstRun (afterName other) = []) : firstRun (afterName ls) = [] := by
  rw [firstRun_eq_nil_iff] at hnil ⊢
  intro line hline
  obtain ⟨name, hname, hsublist⟩ := mem_afterName_iff.mp hline
  exact hnil line (mem_afterName_iff.mpr ⟨name, hname, hsublist.trans h⟩)

/-- What follows a name does not matter to it. -/
theorem nameIn_append_eq_iff :
    nameIn (front ++ back) = nameIn (front ++ other) ↔
      (∃ line ∈ front, nameOn? line ≠ none) ∨ nameIn back = nameIn other := by
  unfold nameIn
  rw [List.findSome?_append, List.findSome?_append]
  cases hfront : front.findSome? nameOn? with
  | none =>
    have hnone : ¬∃ line ∈ front, nameOn? line ≠ none := by
      rintro ⟨line, hline, hname⟩
      exact hname (List.findSome?_eq_none_iff.mp hfront line hline)
    rw [Option.none_or, Option.none_or, or_iff_right hnone]
  | some name =>
    obtain ⟨line, hline, hname⟩ := List.exists_of_findSome?_eq_some hfront
    rw [Option.some_or, Option.some_or]
    exact iff_of_true rfl (Or.inl ⟨line, hline, by simp [hname]⟩)

end Header

/-! ## Two texts with the same front -/

namespace Readme

variable {s t : Text}

/-- Texts with the same lines up to the heading of a section agree on their headers apart from the
name. They agree on the name as well if and only if it stands before the heading or the lines after
it name the same plugin first. -/
theorem header_eq_iff_of_same_front (hs : Text.lines s = front ++ heading :: back)
    (ht : Text.lines t = front ++ heading :: other)
    (hheading : Heading.IsSectionBetweenBlanks heading) :
    { (ofText s).header with pluginName := [] } = { (ofText t).header with pluginName := [] } ∧
      ((ofText s).header = (ofText t).header ↔
        (∃ line ∈ front, nameOn? line ≠ none) ∨ Header.nameIn back = Header.nameIn other) := by
  have hleft : (ofText s).header =
      { Header.ofLines front with pluginName := Header.nameIn (front ++ back) } := by
    rw [← Header.ofLines_append_heading hheading, ← hs]
    rfl
  have hright : (ofText t).header =
      { Header.ofLines front with pluginName := Header.nameIn (front ++ other) } := by
    rw [← Header.ofLines_append_heading hheading, ← ht]
    rfl
  rw [hleft, hright]
  refine ⟨rfl, ?_⟩
  rw [← Header.nameIn_append_eq_iff]
  constructor
  · intro heq
    exact congrArg Header.pluginName heq
  · intro hname
    rw [hname]

/-- The tags below the heading are not read, and the name below it is. -/
theorem header_eq_iff_of_same_front_name :
    ((ofText "Tags: a\n== B ==\nTags: b\n=== C ===".toList).header.tags =
        (ofText "Tags: a\n== B ==\n=== D ===".toList).header.tags) ∧
      (ofText "Tags: a\n== B ==\nTags: b\n=== C ===".toList).header ≠
        (ofText "Tags: a\n== B ==\n=== D ===".toList).header := by
  have hs : Text.lines "Tags: a\n== B ==\nTags: b\n=== C ===".toList =
      ["Tags: a".toList] ++ "== B ==".toList :: ["Tags: b".toList, "=== C ===".toList] := by
    decide
  have ht : Text.lines "Tags: a\n== B ==\n=== D ===".toList =
      ["Tags: a".toList] ++ "== B ==".toList :: ["=== D ===".toList] := by
    decide
  obtain ⟨hrest, hname⟩ := header_eq_iff_of_same_front hs ht (by decide)
  have htags := congrArg Header.tags hrest
  refine ⟨htags, ?_⟩
  rw [Ne, hname]
  decide

/-- A name below the first section becomes the name of the plugin. -/
theorem not_header_eq_of_same_front :
    Text.lines "== B ==".toList = ["== B ==".toList] ∧
      Text.lines "== B ==\n=== A ===".toList = ["== B ==".toList, "=== A ===".toList] ∧
      Heading.IsSectionBetweenBlanks "== B ==".toList ∧
      (ofText "== B ==".toList).header.pluginName = [] ∧
      (ofText "== B ==\n=== A ===".toList).header.pluginName = "A".toList := by
  decide

end Readme

end PluginReadme
