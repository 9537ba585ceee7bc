import Mathlib.Data.List.Perm.Basic
import PluginReadme.Proofs.Preview.Signs

/-!
# The order of tabs

In tabs the sections stand by the rank of their names, and sections of one rank by their places in
the readme. The sections of each tab and the ones without a tab of their own are the parts of a
partition (`flatMap_filter_append_perm`), so the order loses no section and repeats none, and the
two themes show the same ones (`sections_in_both_themes`).
-/

namespace PluginReadme.Page

variable {shown : List Panel} {index : Nat} {panel : Panel} {piece : Text}

/-! ## Parts of a list -/

/-- The entries with each key, and the ones with none of the keys, are all entries. -/
theorem flatMap_filter_append_perm {α : Type} (key : α → Text) {keys : List Text}
    (hkeys : keys.Nodup) (xs : List α) :
    ((keys.flatMap fun k ↦ xs.filter fun x ↦ key x == k) ++
      xs.filter fun x ↦ !keys.contains (key x)).Perm xs := by
  -- Without the entries of the first key, the list has the same parts for the other keys.
  induction keys generalizing xs with
  | nil => simp
  | cons first keys ih =>
    obtain ⟨hfirst, hkeys⟩ := List.nodup_cons.mp hkeys
    let others := xs.filter fun x ↦ !(key x == first)
    have hparts : (keys.flatMap fun k ↦ xs.filter fun x ↦ key x == k) =
        keys.flatMap fun k ↦ others.filter fun x ↦ key x == k := by
      apply List.flatMap_congr
      intro k hk
      rw [List.filter_filter]
      apply List.filter_congr
      intro x _
      by_cases hx : key x = k
      · have hne : key x ≠ first := fun heq ↦ hfirst (heq ▸ hx ▸ hk)
        simp [hx, hx ▸ hne]
      · simp [hx]
    have hrest : (xs.filter fun x ↦ !(first :: keys).contains (key x)) =
        others.filter fun x ↦ !keys.contains (key x) := by
      rw [List.filter_filter]
      apply List.filter_congr
      intro x _
      rw [List.contains_cons, Bool.not_or, Bool.and_comm]
    rw [List.flatMap_cons, List.append_assoc, hparts, hrest]
    exact ((ih hkeys others).append_left _).trans (List.filter_append_perm _ xs)

/-! ## Ranks -/

/-- The place of a name among the tabs; the names without a tab share the rank after them. -/
def tabRank (id : Text) : Nat := tabIds.idxOf id

/-- The order of sections with their places in the readme: by rank, then by place. -/
def ComesBefore (a b : Panel × Nat) : Prop :=
  tabRank a.1.id < tabRank b.1.id ∨ tabRank a.1.id = tabRank b.1.id ∧ a.2 < b.2

def placedInTabOrder (placed : List (Panel × Nat)) : List (Panel × Nat) :=
  (tabIds.flatMap fun id ↦ placed.filter fun entry ↦ entry.1.id == id) ++
    placed.filter fun entry ↦ !isTabId entry.1.id

/-- The tab order leaves no section out and shows none twice. -/
theorem placedInTabOrder_perm (placed : List (Panel × Nat)) :
    (placedInTabOrder placed).Perm placed :=
  flatMap_filter_append_perm (fun entry : Panel × Nat ↦ entry.1.id) (by decide) placed

theorem inTabOrder_perm (shown : List Panel) : (inTabOrder shown).Perm shown :=
  flatMap_filter_append_perm Panel.id (by decide) shown

theorem map_fst_placedInTabOrder (shown : List Panel) :
    (placedInTabOrder shown.zipIdx).map Prod.fst = inTabOrder shown := by
  have hfilter (p : Panel → Bool) :
      (shown.zipIdx.filter fun entry ↦ p entry.1).map Prod.fst = shown.filter p := by
    conv_rhs => rw [← List.zipIdx_map_fst 0 shown, List.filter_map]
    rfl
  rw [placedInTabOrder, List.map_append, List.map_flatMap, hfilter fun panel ↦ !isTabId panel.id]
  congr 1
  apply List.flatMap_congr
  intro id _
  exact hfilter fun panel ↦ panel.id == id

theorem pairwise_zipIdx_place (shown : List Panel) :
    shown.zipIdx.Pairwise fun a b ↦ a.2 < b.2 := by
  have hplaces : (shown.zipIdx.map Prod.snd).Pairwise (· < ·) := by
    rw [List.zipIdx_map_snd]
    exact List.pairwise_lt_range' 1
  exact List.pairwise_map.mp hplaces

theorem tabRank_of_not_isTabId {id : Text} (h : (!isTabId id) = true) :
    tabRank id = tabIds.length := by
  rw [isTabId, Bool.not_eq_true', List.contains_eq_mem, decide_eq_false_iff_not] at h
  exact List.idxOf_eq_length_iff.mpr h

/-- Sections come by the rank of their tabs, and those of one rank as in the readme. -/
theorem pairwise_placedInTabOrder (shown : List Panel) :
    (placedInTabOrder shown.zipIdx).Pairwise ComesBefore := by
  have hplaces := pairwise_zipIdx_place shown
  refine List.pairwise_append.mpr ⟨List.pairwise_flatMap.mpr ⟨?_, ?_⟩, ?_, ?_⟩
  · -- The sections of one tab.
    intro id _
    refine (hplaces.filter _).imp_of_mem fun ha hb hlt ↦ Or.inr ⟨?_, hlt⟩
    have ha := (List.mem_filter.mp ha).2
    have hb := (List.mem_filter.mp hb).2
    rw [beq_iff_eq.mp ha, beq_iff_eq.mp hb]
  · -- The sections of different tabs.
    have htabs : tabIds.Pairwise fun id other ↦ tabRank id < tabRank other := by decide
    refine htabs.imp fun hlt a ha b hb ↦ Or.inl ?_
    have ha := (List.mem_filter.mp ha).2
    have hb := (List.mem_filter.mp hb).2
    rwa [beq_iff_eq.mp ha, beq_iff_eq.mp hb]
  · -- The sections without a tab, whose names have the last rank.
    refine (hplaces.filter _).imp_of_mem fun ha hb hlt ↦ Or.inr ⟨?_, hlt⟩
    rw [tabRank_of_not_isTabId (List.mem_filter.mp ha).2,
      tabRank_of_not_isTabId (List.mem_filter.mp hb).2]
  · intro a ha b hb
    obtain ⟨id, hid, ha⟩ := List.mem_flatMap.mp ha
    have ha := (List.mem_filter.mp ha).2
    rw [← beq_iff_eq.mp ha] at hid
    refine Or.inl ?_
    rw [tabRank_of_not_isTabId (List.mem_filter.mp hb).2]
    exact List.idxOf_lt_length_iff.mpr hid

/-! ## Sections on pages -/

theorem join_joinSeam {glue : Text} {front back : List Text} (hfront : front ≠ [])
    (hback : back ≠ []) :
    Text.join glue (joinSeam front back) = Text.join glue front ++ Text.join glue back := by
  obtain ⟨init, last, rfl⟩ := (List.eq_nil_or_concat' front).resolve_left hfront
  obtain ⟨first, more, rfl⟩ := List.exists_cons_of_ne_nil hback
  have hseam : joinSeam (init ++ [last]) (first :: more) = init ++ (last ++ first) :: more := by
    unfold joinSeam
    rw [List.getLast?_concat, List.dropLast_concat]
  have hmore :
      Text.join glue ((last ++ first) :: more) = last ++ Text.join glue (first :: more) := by
    by_cases hnil : more = []
    · rw [hnil, Text.join_singleton, Text.join_singleton]
    · rw [Text.join_cons hnil, Text.join_cons hnil]
      simp only [List.append_assoc]
  rw [hseam]
  by_cases hinit : init = []
  · rw [hinit, List.nil_append, List.nil_append, hmore, Text.join_singleton]
  · rw [Text.join_append hinit (List.cons_ne_nil _ _), hmore,
      Text.join_append hinit (List.cons_ne_nil _ _), Text.join_singleton]
    simp only [List.append_assoc]

/-- The texts that show a section at a place of the page: one below its title, or a tab and a
panel. -/
def pieces : Theme → Panel → Nat → List (List Text)
  | .plain, panel, _ => [sectionLines panel]
  | .directory, panel, index => [[tabLine panel index], panelLines panel index]

/-- The pieces of every section stand in the body. -/
theorem pieces_infix_bodyLines (theme : Theme) {block : List Text}
    (hpanel : (panel, index) ∈ shown.zipIdx) (hblock : block ∈ pieces theme panel index) :
    block <:+: bodyLines theme shown := by
  have hmem : panel ∈ shown := List.fst_mem_of_mem_zipIdx hpanel
  have hnonempty : shown.isEmpty = false := List.isEmpty_eq_false_iff.mpr (List.ne_nil_of_mem hmem)
  unfold bodyLines
  rw [hnonempty, if_neg Bool.false_ne_true]
  cases theme with
  | plain =>
    rw [List.mem_singleton.mp hblock]
    exact List.infix_of_mem_flatten (List.mem_map_of_mem hmem)
  | directory =>
    rcases List.mem_cons.mp hblock with rfl | hblock
    · obtain ⟨front, back, hlines⟩ := List.append_of_mem (List.mem_map_of_mem
        (f := fun place ↦ tabLine place.1 place.2) hpanel)
      have htab : [tabLine panel index] <:+:
          shown.zipIdx.map fun place ↦ tabLine place.1 place.2 := by
        rw [hlines]
        exact ⟨front, back, by simp⟩
      refine htab.trans ?_
      rw [List.cons_append, List.cons_append, List.append_assoc]
      exact List.infix_append [_] _ _
    · rw [List.mem_singleton.mp hblock]
      refine List.IsInfix.trans ?_ (List.suffix_append _ _).isInfix
      exact List.infix_of_mem_flatten (List.mem_map.mpr ⟨_, hpanel, rfl⟩)

theorem bodyLines_ne_nil (theme : Theme) (shown : List Panel) : bodyLines theme shown ≠ [] := by
  cases shown with
  | nil => exact List.cons_ne_nil _ _
  | cons panel shown =>
    cases theme
    all_goals exact List.cons_ne_nil _ _

theorem joinSeam_ne_nil {front : List Text} (hfront : front ≠ []) (back : List Text) :
    joinSeam front back ≠ [] := by
  unfold joinSeam
  split
  · exact List.append_ne_nil_of_right_ne_nil _ (List.cons_ne_nil _ _)
  · exact List.append_ne_nil_of_left_ne_nil hfront _

/-- The body stands on the page, behind the header on whose last line it begins. -/
theorem join_bodyLines_isInfix (theme : Theme) (header : Header) (verdict : Verdict)
    (shown : List Panel) :
    Text.join "\n" (bodyLines theme shown) <:+:
      Text.join "\n" (lines theme header verdict shown) := by
  have hbody := bodyLines_ne_nil theme shown
  obtain ⟨front, hfront, hseam⟩ : ∃ front, front ≠ [] ∧
      joinSeam front (bodyLines theme shown) <:+: lines theme header verdict shown := by
    have hsummary : summaryLines verdict ≠ [] := List.cons_ne_nil _ _
    refine ⟨joinSeam (summaryLines verdict) (headerLines header (verdict.errors.any fun issue ↦
      issue.subject.any fun subject ↦ !subject.key.isEmpty)), joinSeam_ne_nil hsummary _, ?_⟩
    unfold lines
    simp only [List.append_assoc]
    rw [← List.append_assoc, ← List.append_assoc]
    exact List.infix_append _ _ _
  refine List.IsInfix.trans ?_ (Text.join_infix_join _ (joinSeam_ne_nil hfront _) hseam)
  rw [join_joinSeam hfront hbody]
  exact (List.suffix_append _ _).isInfix

/-- Each piece of a section stands on the page of the theme. -/
theorem piece_isInfix_page (theme : Theme) (header : Header) (verdict : Verdict)
    (hpanel : (panel, index) ∈ shown.zipIdx) {block : List Text}
    (hblock : block ∈ pieces theme panel index) :
    Text.join "\n" block <:+: Text.join "\n" (lines theme header verdict shown) := by
  have hbody := pieces_infix_bodyLines theme hpanel hblock
  have hne : block ≠ [] := by
    cases theme with
    | plain =>
      rw [List.mem_singleton.mp hblock]
      exact List.cons_ne_nil _ _
    | directory =>
      rcases List.mem_pair.mp hblock with rfl | rfl
      all_goals exact List.cons_ne_nil _ _
  exact (Text.join_infix_join _ hne hbody).trans (join_bodyLines_isInfix theme header verdict shown)

/-- The name of a section, its title and its content stand in a text, one after the other. -/
def HasParts (panel : Panel) (t : Text) : Prop :=
  ∃ front between next back,
    t = front ++ panel.id ++ between ++ Markup.escape panel.title ++ next ++ panel.html ++ back

theorem HasParts.of_isInfix {s t : Text} (h : HasParts panel s) (hpart : s <:+: t) :
    HasParts panel t := by
  obtain ⟨front, between, next, back, rfl⟩ := h
  obtain ⟨before, after, rfl⟩ := hpart
  exact ⟨before ++ front, between, next, back ++ after, by simp only [List.append_assoc]⟩

/-- The name stands on the first line, the title on the second and the content on one of the rest.
-/
theorem hasParts_join {glue first second : Text} {rest : List Text} (hid : panel.id <:+: first)
    (htitle : Markup.escape panel.title <:+: second) (hrest : panel.html ∈ rest) :
    HasParts panel (Text.join glue (first :: second :: rest)) := by
  have hhtml : Text.join glue [panel.html] <:+: Text.join glue rest := by
    obtain ⟨front, back, rfl⟩ := List.append_of_mem hrest
    exact Text.join_infix_join glue (List.cons_ne_nil _ _) ⟨front, back, by simp⟩
  obtain ⟨front, back, hjoin⟩ := hhtml
  obtain ⟨before, after, rfl⟩ := hid
  obtain ⟨opening, closing, rfl⟩ := htitle
  rw [Text.join_singleton] at hjoin
  rw [Text.join_cons (List.cons_ne_nil _ _), Text.join_cons (List.ne_nil_of_mem hrest), ← hjoin]
  exact ⟨before, after ++ glue ++ opening, closing ++ glue ++ front, back,
    by simp only [List.append_assoc]⟩

/-- One of the pieces of a section has its name, its title and its content. -/
theorem exists_piece_hasParts (theme : Theme) (panel : Panel) (index : Nat) :
    ∃ block ∈ pieces theme panel index, HasParts panel (Text.join "\n" block) := by
  cases theme with
  | plain =>
    exact ⟨_, List.mem_singleton.mpr rfl,
      hasParts_join (List.infix_append _ _ _) (List.infix_append _ _ _) (by simp)⟩
  | directory =>
    refine ⟨_, List.mem_pair.mpr (Or.inr rfl),
      hasParts_join ?_ (List.infix_append _ _ _) List.mem_cons_self⟩
    simp only [List.append_assoc]
    exact List.infix_append' _ _ _

/-- The page of a theme shows the given sections: on it stand the name, the title and the content of
each of them, in the pieces that the theme makes of it. -/
structure Shows (theme : Theme) (header : Header) (verdict : Verdict) (shown : List Panel)
    (page : Text) : Prop where
  page_eq : page = Text.join "\n" (lines theme header verdict shown)
  pieces_stand : ∀ panel index, (panel, index) ∈ shown.zipIdx →
    ∀ block ∈ pieces theme panel index, Text.join "\n" block <:+: page
  parts_stand : ∀ panel ∈ shown, HasParts panel page

/-- Both themes show the sections that they are given. -/
theorem shows_lines (theme : Theme) (header : Header) (verdict : Verdict) (shown : List Panel) :
    Shows theme header verdict shown (Text.join "\n" (lines theme header verdict shown)) := by
  have hpieces : ∀ panel index, (panel, index) ∈ shown.zipIdx → ∀ block ∈ pieces theme panel index,
      Text.join "\n" block <:+: Text.join "\n" (lines theme header verdict shown) :=
    fun _ _ hpanel _ hblock ↦ piece_isInfix_page theme header verdict hpanel hblock
  refine ⟨rfl, hpieces, fun panel hpanel ↦ ?_⟩
  obtain ⟨index, hindex⟩ := List.mem_iff_getElem?.mp hpanel
  have hplace : (panel, index) ∈ shown.zipIdx := List.mk_mem_zipIdx_iff_getElem?.mpr hindex
  obtain ⟨block, hblock, hparts⟩ := exists_piece_hasParts theme panel index
  exact hparts.of_isInfix (hpieces panel index hplace block hblock)

/-- The tab order takes every section once, those with a tab first and in the order of the tabs,
sections of one rank as they stood. So a readme has both pages or none, with the same sections. -/
theorem sections_in_both_themes :
    (∀ given : List Panel, ∃ placed : List (Panel × Nat), placed.Perm given.zipIdx ∧
      placed.Pairwise ComesBefore ∧ placed.map Prod.fst = inTabOrder given) ∧
    ∀ [LinkDefinition.Collector] (options : Markup.Options) (readme : Readme) (verdict : Verdict),
      match panels options readme.sections with
      | .error fault => ∀ theme, html theme options readme verdict = .error fault
      | .ok inOrder => ∃ below beside,
        html .plain options readme verdict = .ok below ∧
        html .directory options readme verdict = .ok beside ∧
        Shows .plain readme.header verdict inOrder below ∧
        Shows .directory readme.header verdict (inTabOrder inOrder) beside ∧
        (inTabOrder inOrder).Perm inOrder := by
  refine ⟨fun given ↦ ?_, fun {_} options readme verdict ↦ ?_⟩
  · exact ⟨placedInTabOrder given.zipIdx, placedInTabOrder_perm _,
      pairwise_placedInTabOrder given, map_fst_placedInTabOrder given⟩
  · have hpage := fun theme ↦ html_eq_map theme options readme verdict
    cases hpanels : panels options readme.sections with
    | error fault =>
      intro theme
      rw [hpage theme, hpanels]
      rfl
    | ok inOrder =>
      rw [hpanels] at hpage
      exact ⟨_, _, hpage .plain, hpage .directory, shows_lines _ _ _ _, shows_lines _ _ _ _,
        inTabOrder_perm inOrder⟩

/-- A repeated tab keeps the order of its sections, and so do the sections without tabs. -/
example : inTabOrder [⟨"notes", "a", "1"⟩, ⟨"faq", "b", "2"⟩, ⟨"description", "c", "3"⟩,
    ⟨"more", "d", "4"⟩, ⟨"faq", "e", "5"⟩] = [⟨"description", "c", "3"⟩, ⟨"faq", "b", "2"⟩,
    ⟨"faq", "e", "5"⟩, ⟨"notes", "a", "1"⟩, ⟨"more", "d", "4"⟩] := by decide

end PluginReadme.Page
