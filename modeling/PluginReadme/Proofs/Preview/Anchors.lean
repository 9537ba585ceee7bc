import PluginReadme.Proofs.Outcome
import PluginReadme.Proofs.Preview.Names
import PluginReadme.Proofs.Preview.Tabs

/-!
# References to sections

The page names its sections in attributes: a section, or its tab and its panel, have an `id`, and a
tab controls the panel whose `id` it gives. These values are read off the lines around the contents
of the sections (`values_id_frame`, `values_controls_frame`). They refer to one section each exactly
if the names of the sections are told apart (`toldApart_iff`).
-/

namespace PluginReadme.Page

variable {start name value rest : Text} {panel : Panel} {shown : List Panel}

/-! ## Attributes -/

/-- The attributes in markup and quoted values that take turns. The name of an attribute stands
between the last space and the equals sign before its value. -/
def attributesFrom : List Text → List (Text × Text)
  | markup :: value :: rest =>
    ((Text.takeEndWhile (· != ' ') markup).dropLast, value) :: attributesFrom rest
  | _ => []

def attributesIn (line : Text) : List (Text × Text) := attributesFrom (Text.splitOn '\"' line)

/-- An attribute as it stands in a tag. -/
def assigned (name value : Text) : Text := ' ' :: name ++ ("=\"".toList ++ value ++ ['\"'])

theorem attributesIn_of_not_mem (h : '\"' ∉ rest) : attributesIn rest = [] := by
  rw [attributesIn, Text.splitOn_of_not_mem h]
  rfl

/-- An attribute at the front is read first. -/
theorem attributesIn_assigned (hstart : '\"' ∉ start) (hname : ' ' ∉ name ∧ '\"' ∉ name)
    (hvalue : '\"' ∉ value) (rest : Text) :
    attributesIn (start ++ (assigned name value ++ rest)) = (name, value) :: attributesIn rest := by
  have hmarkup : '\"' ∉ start ++ ' ' :: (name ++ ['=']) := by simp [hstart, hname.2]
  have hline : start ++ (assigned name value ++ rest) =
      (start ++ ' ' :: (name ++ ['='])) ++ '\"' :: (value ++ '\"' :: rest) := by
    simp [assigned]
  have hword : Text.takeEndWhile (· != ' ') (start ++ ' ' :: (name ++ ['='])) = name ++ ['='] := by
    have hspace : ∀ c ∈ (name ++ ['=']).reverse, (c != ' ') = true := by
      intro c hc
      rcases List.mem_append.mp (List.mem_reverse.mp hc) with hc | hc
      · exact bne_iff_ne.mpr fun hspace ↦ hname.1 (hspace ▸ hc)
      · rw [List.mem_singleton.mp hc]
        decide
    calc
      Text.takeEndWhile (· != ' ') (start ++ ' ' :: (name ++ ['='])) =
          (((name ++ ['=']).reverse ++ ' ' :: start.reverse).takeWhile (· != ' ')).reverse := by
        rw [Text.takeEndWhile, List.reverse_append, List.reverse_cons, List.append_assoc,
          List.singleton_append]
      _ = name ++ ['='] := by
        rw [Text.takeWhile_append_cons hspace (by decide), List.reverse_reverse]
  have hsplit : Text.splitOn '\"' (start ++ (assigned name value ++ rest)) =
      (start ++ ' ' :: (name ++ ['='])) :: value :: Text.splitOn '\"' rest := by
    rw [hline, Text.splitOn_append_mark, Text.splitOn_append_mark,
      Text.splitOn_of_not_mem hmarkup, Text.splitOn_of_not_mem hvalue]
    rfl
  rw [attributesIn, hsplit]
  change ((Text.takeEndWhile (· != ' ') _).dropLast, value) :: attributesIn rest = _
  rw [hword, List.dropLast_concat]

def values (name : Text) (lines : List Text) : List Text :=
  (lines.flatMap attributesIn).filterMap fun (other, value) ↦
    if other = name then some value else none

/-- Attributes are read line by line. -/
theorem values_append (name : Text) (front back : List Text) :
    values name (front ++ back) = values name front ++ values name back := by
  rw [values, List.flatMap_append, List.filterMap_append]
  rfl

theorem values_flatMap {α : Type} (name : Text) (f : α → List Text) (xs : List α) :
    values name (xs.flatMap f) = xs.flatMap fun x ↦ values name (f x) := by
  induction xs with
  | nil => rfl
  | cons x xs ih => rw [List.flatMap_cons, List.flatMap_cons, values_append, ih]

/-! ## Lines of sections -/

theorem quote_not_mem_escape (t : Text) : '\"' ∉ Markup.escape t := fun hmem ↦ by
  have hsign : '\"' ∈ signs (Markup.escape t) := List.mem_filter.mpr ⟨hmem, rfl⟩
  rw [signs_escape] at hsign
  exact List.not_mem_nil hsign

theorem attributesIn_titleHtml (panel : Panel) :
    attributesIn (titleHtml panel) = [("class".toList, "section-title".toList)] := by
  have htitle := quote_not_mem_escape panel.title
  have hline : titleHtml panel = "<h2".toList ++ (assigned "class" "section-title" ++
      (">".toList ++ Markup.escape panel.title ++ "</h2>".toList)) := by
    unfold titleHtml assigned
    simp
  rw [hline, attributesIn_assigned (by decide) (by decide) (by decide), attributesIn_of_not_mem]
  simp [htitle]

/-- The button of a tab has a name of its own and names the panel that it controls. -/
theorem attributesIn_tabLine (hid : '\"' ∉ panel.id) (index : Nat) :
    attributesIn (tabLine panel index) =
      [("role".toList, "tab".toList), ("id".toList, "tab-".toList ++ panel.id),
        ("aria-controls".toList, "panel-".toList ++ panel.id),
        ("aria-selected".toList, if index = 0 then "true".toList else "false".toList)] := by
  have htitle := quote_not_mem_escape panel.title
  have hline : tabLine panel index = "<button".toList ++ (assigned "role" "tab" ++
      ([] ++ (assigned "id" ("tab-".toList ++ panel.id) ++
        ([] ++ (assigned "aria-controls" ("panel-".toList ++ panel.id) ++
          ([] ++ (assigned "aria-selected" (if index = 0 then "true".toList else "false".toList) ++
            (">".toList ++ Markup.escape panel.title ++ "</button>".toList)))))))) := by
    unfold tabLine assigned
    simp
  have hstate : '\"' ∉ if index = 0 then "true".toList else "false".toList := by
    split_ifs
    all_goals decide
  rw [hline, attributesIn_assigned (by decide) (by decide) (by decide),
    attributesIn_assigned (by decide) (by decide) (by simp [hid]),
    attributesIn_assigned (by decide) (by decide) (by simp [hid]),
    attributesIn_assigned (by decide) (by decide) hstate, attributesIn_of_not_mem]
  simp [htitle]

/-- A section of the plain page has its name as its `id`. -/
theorem attributesIn_sectionLines (hid : '\"' ∉ panel.id) :
    (sectionLines { panel with html := [] }).flatMap attributesIn =
      [("class".toList, "readme-section".toList), ("id".toList, panel.id),
        ("class".toList, "section-title".toList), ("class".toList, "section-content".toList)] := by
  have hopening : ("<div class=\"readme-section\" id=\"" ++ panel.id ++ "\">" : Text) =
      "<div".toList ++ (assigned "class" "readme-section" ++
        ([] ++ (assigned "id" panel.id ++ ">".toList))) := by
    unfold assigned
    simp
  have hcontent : attributesIn "<div class=\"section-content\">" =
      [("class".toList, "section-content".toList)] := by decide
  have hclosing : attributesIn "</div>" = [] := by decide
  have hempty : attributesIn [] = [] := by decide
  have htitle : attributesIn (titleHtml { panel with html := [] }) =
      [("class".toList, "section-title".toList)] := attributesIn_titleHtml _
  have hnone : attributesIn ">".toList = [] := by decide
  unfold sectionLines
  simp only [List.flatMap_cons, List.flatMap_nil, htitle, hcontent, hclosing, hempty]
  rw [hopening, attributesIn_assigned (by decide) (by decide) (by decide),
    attributesIn_assigned (by decide) (by decide) hid, hnone]
  rfl

/-- A panel has its name as its `id` and names the button that labels it. -/
theorem attributesIn_panelLines (hid : '\"' ∉ panel.id) (index : Nat) :
    (panelLines { panel with html := [] } index).flatMap attributesIn =
      [("role".toList, "tabpanel".toList), ("id".toList, "panel-".toList ++ panel.id),
        ("aria-labelledby".toList, "tab-".toList ++ panel.id),
        ("class".toList, "readme-section".toList), ("class".toList, "section-title".toList)] := by
  have hopening (hidden : Text) :
      ("<div role=\"tabpanel\" id=\"panel-" ++ panel.id ++ "\" aria-labelledby=\"tab-" ++
        panel.id ++ "\" class=\"readme-section\"" ++ hidden ++ ">" : Text) =
      "<div".toList ++ (assigned "role" "tabpanel" ++
        ([] ++ (assigned "id" ("panel-".toList ++ panel.id) ++
          ([] ++ (assigned "aria-labelledby" ("tab-".toList ++ panel.id) ++
            ([] ++ (assigned "class" "readme-section" ++ (hidden ++ ">".toList)))))))) := by
    unfold assigned
    simp
  have hclosing : attributesIn "</div>" = [] := by decide
  have hempty : attributesIn [] = [] := by decide
  have htitle : attributesIn (titleHtml { panel with html := [] }) =
      [("class".toList, "section-title".toList)] := attributesIn_titleHtml _
  have hend : attributesIn ((if index = 0 then "".toList else " hidden".toList) ++ ">".toList) =
      [] := by
    split_ifs
    all_goals decide
  unfold panelLines
  simp only [List.flatMap_cons, List.flatMap_nil, htitle, hclosing, hempty]
  rw [hopening, attributesIn_assigned (by decide) (by decide) (by decide),
    attributesIn_assigned (by decide) (by decide) (by simp [hid]),
    attributesIn_assigned (by decide) (by decide) (by simp [hid]),
    attributesIn_assigned (by decide) (by decide) (by decide), hend]
  rfl

/-! ## The body of a page -/

/-- The lines of the body around the contents of the sections. -/
def frame (theme : Theme) (shown : List Panel) : List Text :=
  bodyLines theme (shown.map fun panel ↦ { panel with html := [] })

theorem values_map {α : Type} (name : Text) (f : α → Text) (xs : List α) :
    values name (xs.map f) = xs.flatMap fun x ↦ values name [f x] := by
  rw [← values_flatMap, List.map_eq_flatMap]

/-- What an attribute says about each section, whatever its place. -/
theorem flatMap_zipIdx_of_eq_singleton {f : Panel × Nat → List Text} {g : Panel → Text}
    (h : ∀ panel ∈ shown, ∀ index, f (panel, index) = [g panel]) :
    shown.zipIdx.flatMap f = shown.map g := by
  calc
    _ = shown.zipIdx.flatMap fun entry ↦ [g entry.1] := by
      apply List.flatMap_congr
      intro entry hentry
      exact h entry.1 (List.fst_mem_of_mem_zipIdx hentry) entry.2
    _ = (shown.zipIdx.map Prod.fst).map g := by
      rw [List.map_map, List.map_eq_flatMap]
      rfl
    _ = shown.map g := by rw [List.zipIdx_map_fst]

theorem values_frame_plain (name : Text) (hshown : shown ≠ []) :
    values name (frame .plain shown) =
      shown.flatMap fun panel ↦ values name (sectionLines { panel with html := [] }) := by
  have hempty : (shown.map fun panel ↦ { panel with html := [] }).isEmpty = false := by
    simpa using hshown
  unfold frame bodyLines
  rw [hempty, if_neg Bool.false_ne_true]
  dsimp only
  rw [List.flatMap_map, values_flatMap]

theorem frame_directory (hshown : shown ≠ []) :
    frame .directory shown = "<div class=\"readme-tabs\" role=\"tablist\">".toList ::
      shown.zipIdx.map (fun (panel, index) ↦ tabLine panel index) ++ ["</div>".toList] ++
      shown.zipIdx.flatMap fun (panel, index) ↦ panelLines { panel with html := [] } index := by
  have hempty : (shown.map fun panel ↦ { panel with html := [] }).isEmpty = false := by
    simpa using hshown
  unfold frame bodyLines
  rw [hempty, if_neg Bool.false_ne_true]
  dsimp only
  rw [List.zipIdx_map, List.map_map, List.flatMap_map]
  rfl

theorem values_frame_directory (name : Text) (hshown : shown ≠ [])
    (hlist : values name ["<div class=\"readme-tabs\" role=\"tablist\">"] = []) :
    values name (frame .directory shown) =
      (shown.zipIdx.flatMap fun entry ↦ values name [tabLine entry.1 entry.2]) ++
      shown.zipIdx.flatMap fun entry ↦
        values name (panelLines { entry.1 with html := [] } entry.2) := by
  have hclosing : values name ["</div>"] = [] := by
    have hnone : attributesIn "</div>" = [] := by decide
    rw [values, List.flatMap_singleton, hnone]
    rfl
  calc
    values name (frame .directory shown) =
        values name ["<div class=\"readme-tabs\" role=\"tablist\">"] ++
          values name (shown.zipIdx.map fun entry ↦ tabLine entry.1 entry.2) ++
          values name ["</div>"] ++
          values name (shown.zipIdx.flatMap fun entry ↦
            panelLines { entry.1 with html := [] } entry.2) := by
      rw [frame_directory hshown, ← List.singleton_append, values_append, values_append,
        values_append]
    _ = _ := by
      rw [hlist, hclosing, List.nil_append, List.append_nil, values_map, values_flatMap]

/-- The names that the attributes `id` give. -/
theorem values_id_frame (hids : ∀ panel ∈ shown, '\"' ∉ panel.id) (theme : Theme) :
    values "id" (frame theme shown) = match theme with
      | .plain => shown.map (·.id)
      | .directory =>
        shown.map (fun panel ↦ "tab-".toList ++ panel.id) ++
          shown.map fun panel ↦ "panel-".toList ++ panel.id := by
  by_cases hshown : shown = []
  · subst hshown
    cases theme
    all_goals decide
  cases theme with
  | plain =>
    rw [values_frame_plain _ hshown, List.map_eq_flatMap]
    apply List.flatMap_congr
    intro panel hpanel
    rw [values, attributesIn_sectionLines (hids panel hpanel)]
    rfl
  | directory =>
    rw [values_frame_directory _ hshown (by decide)]
    congr 1
    · apply flatMap_zipIdx_of_eq_singleton
      intro panel hpanel index
      dsimp only
      rw [values, List.flatMap_singleton, attributesIn_tabLine (hids panel hpanel)]
      rfl
    · apply flatMap_zipIdx_of_eq_singleton
      intro panel hpanel index
      dsimp only
      rw [values, attributesIn_panelLines (hids panel hpanel)]
      rfl

/-- The names that the attributes `aria-controls` give: tabs refer to panels. -/
theorem values_controls_frame (hids : ∀ panel ∈ shown, '\"' ∉ panel.id) (theme : Theme) :
    values "aria-controls" (frame theme shown) = match theme with
      | .plain => []
      | .directory => shown.map fun panel ↦ "panel-".toList ++ panel.id := by
  by_cases hshown : shown = []
  · subst hshown
    cases theme
    all_goals decide
  cases theme with
  | plain =>
    rw [values_frame_plain _ hshown, List.flatMap_eq_nil_iff]
    intro panel hpanel
    rw [values, attributesIn_sectionLines (hids panel hpanel)]
    rfl
  | directory =>
    have hpanels : (shown.zipIdx.flatMap fun entry ↦
        values "aria-controls" (panelLines { entry.1 with html := [] } entry.2)) = [] := by
      rw [List.flatMap_eq_nil_iff]
      intro entry hentry
      rw [values, attributesIn_panelLines (hids entry.1 (List.fst_mem_of_mem_zipIdx hentry))]
      rfl
    rw [values_frame_directory _ hshown (by decide), hpanels, List.append_nil]
    apply flatMap_zipIdx_of_eq_singleton
    intro panel hpanel index
    dsimp only
    rw [values, List.flatMap_singleton, attributesIn_tabLine (hids panel hpanel)]
    rfl

/-- On the page no two elements that belong to sections have one `id`, and each tab controls one of
them. -/
def ToldApart (theme : Theme) (shown : List Panel) : Prop :=
  (values "id" (frame theme shown)).Nodup ∧
    ∀ value ∈ values "aria-controls" (frame theme shown),
      (values "id" (frame theme shown)).count value = 1

/-- The elements of a page are told apart exactly if its sections are. -/
theorem toldApart_iff (hids : ∀ panel ∈ shown, '\"' ∉ panel.id) (theme : Theme) :
    ToldApart theme shown ↔ (shown.map (·.id)).Nodup := by
  have hnodup (start : Text) : (shown.map fun panel ↦ start ++ panel.id).Nodup ↔
      (shown.map (·.id)).Nodup := by
    have hmap : (shown.map fun panel ↦ start ++ panel.id) = (shown.map (·.id)).map (start ++ ·) :=
      List.map_map.symm
    rw [hmap, List.nodup_map_iff (List.append_right_injective start)]
  unfold ToldApart
  rw [values_id_frame hids, values_controls_frame hids]
  cases theme with
  | plain => exact and_iff_left fun value hvalue ↦ absurd hvalue List.not_mem_nil
  | directory =>
    have hdisjoint : List.Disjoint (shown.map fun panel ↦ "tab-".toList ++ panel.id)
        (shown.map fun panel ↦ "panel-".toList ++ panel.id) := by
      intro value htab hpanel
      obtain ⟨first, -, rfl⟩ := List.mem_map.mp htab
      obtain ⟨second, -, heq⟩ := List.mem_map.mp hpanel
      exact absurd (List.head_eq_of_cons_eq heq) (by decide)
    dsimp only
    rw [List.nodup_append', hnodup, hnodup]
    constructor
    · exact fun h ↦ h.1.1
    · intro h
      refine ⟨⟨h, h, hdisjoint⟩, fun value hvalue ↦ ?_⟩
      have hall := List.nodup_append'.mpr ⟨(hnodup _).mpr h, (hnodup _).mpr h, hdisjoint⟩
      exact List.count_eq_one_of_mem hall (List.mem_append_right _ hvalue)

/-! ## Panels of sections -/

theorem length_idsFrom (seen titles : List Text) :
    (idsFrom seen titles).length = titles.length := by
  induction titles generalizing seen with
  | nil => rfl
  | cons title titles ih => rw [idsFrom, List.length_cons, List.length_cons, ih]

/-- The contents of a section have no say in its name. -/
theorem map_id_panels [LinkDefinition.Collector] {options : Markup.Options}
    {sections : List Section} {inOrder : List Panel} (h : panels options sections = .ok inOrder) :
    inOrder.map (·.id) = idsFrom [] (sections.map (·.title)) := by
  have hids : List.Forall₂ (fun (entry : Section × Text) (panel : Panel) ↦ entry.2 = panel.id)
      (sections.zip (idsFrom [] (sections.map (·.title)))) inOrder := by
    refine (mapM_eq_ok.mp h).imp fun entry panel hpanel ↦ ?_
    obtain ⟨html, -, heq⟩ := bind_eq_ok.mp hpanel
    rw [← Except.ok.inj heq]
  have hmap : (sections.zip (idsFrom [] (sections.map (·.title)))).map Prod.snd =
      inOrder.map (·.id) := by
    rwa [← List.forall₂_eq_eq_eq, List.forall₂_map_left_iff, List.forall₂_map_right_iff]
  rw [← hmap, List.map_snd_zip]
  rw [length_idsFrom, List.length_map]

/-- The names of sections are told apart exactly if no section takes the numbered name of another
one for its own, and then every reference on the page of either theme means one section. -/
theorem sections_toldApart_iff (sections : List Section) :
    ((idsFrom [] (sections.map (·.title))).Nodup ↔ NumbersAreFree (sections.map (·.title))) ∧
    ∀ [LinkDefinition.Collector] (options : Markup.Options) (inOrder : List Panel),
      panels options sections = .ok inOrder → ∀ theme, ToldApart theme (shownPanels theme inOrder) ↔
        NumbersAreFree (sections.map (·.title)) := by
  refine ⟨nodup_idsFrom_iff _, fun {_} options inOrder hpanels theme ↦ ?_⟩
  have hids := map_id_panels hpanels
  have hperm : (shownPanels theme inOrder).Perm inOrder := by
    cases theme with
    | plain => exact List.Perm.refl inOrder
    | directory => exact inTabOrder_perm inOrder
  have hquote : ∀ panel ∈ shownPanels theme inOrder, '\"' ∉ panel.id := by
    intro panel hpanel
    have hmem : panel.id ∈ inOrder.map (·.id) := List.mem_map_of_mem (hperm.mem_iff.mp hpanel)
    rw [hids] at hmem
    exact (isName_of_mem_idsFrom hmem).not_mem_quote
  calc
    ToldApart theme (shownPanels theme inOrder)
      ↔ ((shownPanels theme inOrder).map (·.id)).Nodup := toldApart_iff hquote theme
    _ ↔ (inOrder.map (·.id)).Nodup := (hperm.map (·.id)).nodup_iff
    _ ↔ NumbersAreFree (sections.map (·.title)) := by rw [hids, nodup_idsFrom_iff]

/-- Two titles with one name of their own, the second of which is numbered. -/
theorem sections_toldApart_iff_faq :
    let sections : List Section :=
      [⟨"FAQ", "How?", 2, 4⟩, ⟨"Frequently Asked Questions", "Why?", 5, 7⟩]
    let inOrder : List Panel :=
      [⟨"faq", "FAQ", "<p>How?</p>"⟩, ⟨"faq-2", "Frequently Asked Questions", "<p>Why?</p>"⟩]
    panels {} sections = .ok inOrder ∧ NumbersAreFree (sections.map (·.title)) ∧
      ∀ theme, ToldApart theme (shownPanels theme inOrder) := by
  intro sections inOrder
  have hpanels : panels {} sections = .ok inOrder := by decide +kernel
  have hfree : NumbersAreFree (sections.map (·.title)) :=
    (sections_toldApart_iff sections).1.mp (by decide)
  exact ⟨hpanels, hfree,
    fun theme ↦ ((sections_toldApart_iff sections).2 {} inOrder hpanels theme).mpr hfree⟩

/-- The third section has the name for its own that the second one gets with its number. -/
theorem not_sections_toldApart :
    ¬ ∀ (options : Markup.Options) (sections : List Section) (inOrder : List Panel),
      panels options sections = .ok inOrder →
      (inOrder.map (·.id)).Nodup ∧ ∀ theme, ToldApart theme (shownPanels theme inOrder) := by
  intro h
  have hpanels : panels {} [⟨"A", "one", 2, 4⟩, ⟨"A", "two", 5, 7⟩, ⟨"A 2", "three", 8, 10⟩] =
      .ok [⟨"a", "A", "<p>one</p>"⟩, ⟨"a-2", "A", "<p>two</p>"⟩,
        ⟨"a-2", "A 2", "<p>three</p>"⟩] := by
    decide +kernel
  exact absurd (h _ _ _ hpanels).1 (by decide)

end PluginReadme.Page
