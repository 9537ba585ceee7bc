import PluginReadme.Proofs.QuickFix.Applied

/-!
# Quick fixes resolve their issues

A fix looks at one line, while fences and emphasis are counted over the whole text. Each fix for
them changes what is counted by one, so an odd number becomes even. The other fixes leave a line
that the check of their issue accepts. Hence the issue is gone from the fixed text (`Resolved`). A
fix is missing only where there is nothing to write or nothing to close on the line (`Unfixable`).
-/

namespace PluginReadme.QuickFix

variable {t fixed : Text} {issue : Issue} {front back : List Text} {line new : Text}

/-- The fixed text has no issue of the same kind at the same line. Fences and emphasis are looked at
as a whole, and there it has none of the same kind at all. -/
structure Resolved (issue : Issue) (fixed : Text) : Prop where
  at_line : ∀ other ∈ (Verdict.of (Readme.ofText fixed) []).issues,
    other.code = issue.code → other.line ≠ issue.line
  anywhere : issue.code ∈ ([.unclosedFence, .unbalancedBold, .unbalancedItalic] : List Code) →
    ∀ other ∈ (Verdict.of (Readme.ofText fixed) []).issues, other.code ≠ issue.code

/-- Why there is no fix for an issue. -/
inductive Unfixable (t : Text) (issue : Issue) : Prop where
  | noHeading (code_eq : issue.code = .malformedHeading ∨ issue.code = .hashHeading)
      (none_eq : issue.suggestion = none)
  | evenBold {index : Nat} {line : Text} (code_eq : issue.code = .unbalancedBold)
      (located : issue.IsAt (Text.lines t) index line) (even : Check.boldCount line % 2 = 0)
  | evenItalic {index : Nat} {line : Text} (code_eq : issue.code = .unbalancedItalic)
      (located : issue.IsAt (Text.lines t) index line) (even : Check.italicCount line % 2 = 0)

/-! ## Issues at one line -/

/-- What an issue at the same line of the fixed text says is about the mended line. -/
theorem finding_at_mended_line {other : Issue} (hat : Located t issue front line back)
    (hfixed : Text.lines fixed = front ++ new :: back)
    (h : other ∈ (Verdict.of (Readme.ofText fixed) []).issues)
    (hcode : other.code ∈ Check.mendableCodes) (hsame : other.line = issue.line) :
    Check.Finding fixed front.length new other := by
  obtain ⟨index, found, hother, hfinding⟩ := Check.finding_of_mem_issues h hcode
  have hindex : index = front.length := by
    have hnumber := hother.number_eq
    rw [hsame, hat.number_eq, Option.some.injEq] at hnumber
    omega
  subst hindex
  have hfound := hother.line_eq
  rw [hfixed, List.getElem?_append_right (Nat.le_refl _), Nat.sub_self] at hfound
  obtain rfl : new = found := Option.some.inj hfound
  exact hfinding

/-- An issue of a line is resolved by a line that no longer has it. -/
theorem resolved_of_line_accepted (hat : Located t issue front line back)
    (hfixed : Text.lines fixed = front ++ new :: back)
    (hcode : issue.code ∈ ([.malformedHeading, .hashHeading, .unclosedLink] : List Code))
    (haccepted : ∀ other : Issue, other.code = issue.code →
      ¬Check.Finding fixed front.length new other) : Resolved issue fixed where
  at_line other hother hkind hsame := by
    have hmendable : other.code ∈ Check.mendableCodes := by
      rw [hkind]
      simp only [List.mem_cons, List.not_mem_nil, or_false] at hcode
      rcases hcode with heq | heq | heq
      all_goals
        rw [heq]
        decide
    exact haccepted other hkind (finding_at_mended_line hat hfixed hother hmendable hsame)
  anywhere hwhole := by
    simp only [List.mem_cons, List.not_mem_nil, or_false] at hcode hwhole
    rcases hcode with heq | heq | heq
    all_goals
      rw [heq] at hwhole
      exact absurd hwhole (by decide)

/-! ## Issues of the whole text -/

/-- An issue is resolved if none of its kind is left. -/
theorem resolved_of_code_absent
    (habsent : ∀ other ∈ (Verdict.of (Readme.ofText fixed) []).issues, other.code ≠ issue.code) :
    Resolved issue fixed where
  at_line other hother hkind := absurd hkind (habsent other hother)
  anywhere _ := habsent

/-- One more mark makes their number even. -/
theorem boldCount_even_of_fixed (hlines : Text.lines t = front ++ line :: back)
    (hfixed : Text.lines fixed = front ++ (Text.stripRight line ++ Check.boldMark) :: back)
    (hodd : Check.boldCount t % 2 = 1) : Check.boldCount fixed % 2 = 0 := by
  have hsum := Check.boldCount_replace hlines hfixed
  rw [Check.boldCount_stripRight_append_bold] at hsum
  omega

theorem italicCount_even_of_fixed (hlines : Text.lines t = front ++ line :: back)
    (hfixed : Text.lines fixed = front ++ (Text.stripRight line ++ ['*']) :: back)
    (hodd : Check.italicCount t % 2 = 1) : Check.italicCount fixed % 2 = 0 := by
  have hsum := Check.count_replace hlines hfixed
  rw [Check.count_stripRight_append, List.count_singleton_self] at hsum
  rw [Check.italicCount_mod_two] at hodd ⊢
  omega

/-- The fence that is put in is the only one that comes or goes. -/
theorem countP_isFence_of_fixed {before after : List Text} {tidy : Text → Text}
    (hsource : Text.lines t = before ++ after)
    (htidy : tidy = id ∨ tidy = Text.dropFinalReturn)
    (hfixed : Text.lines fixed = before.map tidy ++ Fence.mark :: after) :
    (Text.lines fixed).countP Fence.isFence = (Text.lines t).countP Fence.isFence + 1 := by
  have hsame : Fence.isFence ∘ tidy = Fence.isFence := by
    rcases htidy with rfl | rfl
    · rfl
    · exact funext Check.isFence_dropFinalReturn
  have hmark : Fence.isFence Fence.mark = true := by decide
  calc
    (Text.lines fixed).countP Fence.isFence =
        (before.map tidy).countP Fence.isFence + (after.countP Fence.isFence + 1) := by
      rw [hfixed, List.countP_append, List.countP_cons_of_pos hmark]
    _ = before.countP Fence.isFence + (after.countP Fence.isFence + 1) := by
      rw [List.countP_map, hsame]
    _ = (Text.lines t).countP Fence.isFence + 1 := by
      rw [hsource, List.countP_append, Nat.add_assoc]

/-! ## Fixes -/

/-- Whatever a fix mends is resolved. -/
theorem Mended.resolved (h : Mended t issue fixed) : Resolved issue fixed := by
  cases h with
  | line hat hfixed hmended =>
    generalize hkind : issue.code = code at hmended
    cases hmended with
    | malformedHeading hmalformed hsuggested =>
      obtain ⟨hwritten, -, -⟩ := isWritten_of_suggested? hmalformed hat.feed_not_mem hsuggested
      refine resolved_of_line_accepted hat hfixed (by rw [hkind]; decide) fun other hother h ↦ ?_
      have hagain := h.isMalformed (hother.trans hkind)
      rw [Check.isMalformed_of_isWritten hwritten] at hagain
      exact Bool.noConfusion hagain
    | hashHeading hhashed hsuggested =>
      obtain ⟨hwritten, -, -⟩ := isWritten_of_ofHashes? hhashed hat.feed_not_mem hsuggested
      refine resolved_of_line_accepted hat hfixed (by rw [hkind]; decide) fun other hother h ↦ ?_
      have hagain := (h.isHashed (hother.trans hkind)).1
      rw [Check.isHashed_of_isWritten hwritten] at hagain
      exact Bool.noConfusion hagain
    | unclosedLink hlink =>
      refine resolved_of_line_accepted hat hfixed (by rw [hkind]; decide) fun other hother h ↦ ?_
      have hagain := h.hasOpenLink (hother.trans hkind)
      rw [Check.hasOpenLink_of_getLast List.getLast?_concat] at hagain
      exact Bool.noConfusion hagain
    | unbalancedBold hodd _ =>
      refine resolved_of_code_absent fun other hother hcode ↦ ?_
      rw [hkind] at hcode
      obtain ⟨_, _, -, hfinding⟩ := Check.finding_of_mem_issues hother (by rw [hcode]; decide)
      have hagain := hfinding.odd_bold hcode
      rw [boldCount_even_of_fixed hat.lines_eq hfixed hodd] at hagain
      exact absurd hagain (by decide)
    | unbalancedItalic hodd _ =>
      refine resolved_of_code_absent fun other hother hcode ↦ ?_
      rw [hkind] at hcode
      obtain ⟨_, _, -, hfinding⟩ := Check.finding_of_mem_issues hother (by rw [hcode]; decide)
      have hagain := hfinding.odd_italic hcode
      rw [italicCount_even_of_fixed hat.lines_eq hfixed hodd] at hagain
      exact absurd hagain (by decide)
  | fence hkind hsource hodd htidy hfixed =>
    refine resolved_of_code_absent fun other hother hcode ↦ ?_
    rw [hkind] at hcode
    obtain ⟨_, _, -, hfinding⟩ := Check.finding_of_mem_issues hother (by rw [hcode]; decide)
    have hagain := hfinding.odd_fences hcode
    rw [countP_isFence_of_fixed hsource htidy hfixed] at hagain
    omega

/-- Links and fences can always be closed. -/
theorem unfixable_of_apply_eq_none (h : issue ∈ (Verdict.of (Readme.ofText t) []).issues)
    (hcode : issue.code ∈ Check.mendableCodes) (hnone : apply t issue = none) :
    Unfixable t issue := by
  obtain ⟨index, line, hat, hfinding⟩ := Check.finding_of_mem_issues h hcode
  have hlocated := located_of_isAt hat
  cases hfinding with
  | malformedHeading hkind hmalformed hsuggestion =>
    rw [apply_malformedHeading hlocated hkind hmalformed hsuggestion] at hnone
    exact .noHeading (Or.inl hkind) (Option.map_eq_none_iff.mp hnone)
  | hashHeading hkind hhashed hsuggestion =>
    rw [apply_hashHeading hlocated hkind hhashed hsuggestion] at hnone
    exact .noHeading (Or.inr hkind) (Option.map_eq_none_iff.mp hnone)
  | unclosedFence hkind hfence hlast _ =>
    obtain ⟨inside, after, -, happly⟩ := apply_unclosedFence hlocated hkind hfence hlast
    exact absurd (happly.symm.trans hnone) (Option.some_ne_none _)
  | unbalancedBold hkind _ =>
    rw [apply_unbalancedBold hlocated hkind] at hnone
    split_ifs at hnone with heven
    exact .evenBold hkind hat heven
  | unbalancedItalic hkind _ =>
    rw [apply_unbalancedItalic hlocated hkind] at hnone
    split_ifs at hnone with heven
    exact .evenItalic hkind hat heven
  | unclosedLink hkind hlink =>
    rw [apply_unclosedLink hlocated hkind hlink] at hnone
    exact absurd hnone (Option.some_ne_none _)

theorem run_eq_none_of_suggestion? {fix : QuickFix} {ls : List Text}
    (hneeds : fix.needsSuggestion = true) (hnone : suggestion? issue = none) :
    fix.run ls issue = none := by
  cases fix with
  | replaceHeading | convertHashes =>
    unfold run
    rw [hnone]
    cases target? ls issue with
    | none => rfl
    | some found => rfl
  | insertField =>
    unfold run
    rw [hnone]
    rfl
  | closeFence | closeBold | closeItalic | closeLink => exact absurd hneeds Bool.false_ne_true

/-- A fix that does something is offered. -/
theorem offered_ne_nil_of_apply (h : (apply t issue).isSome = true) : offered issue ≠ [] := by
  cases hfix : ofCode? issue.code with
  | none =>
    unfold apply at h
    rw [hfix] at h
    exact absurd h Bool.false_ne_true
  | some fix =>
    rw [apply_eq hfix, Option.isSome_map] at h
    unfold offered
    rw [hfix]
    dsimp only
    split_ifs with hnone
    · rw [Bool.and_eq_true, Option.isNone_iff_eq_none] at hnone
      rw [run_eq_none_of_suggestion? hnone.1 hnone.2] at h
      exact absurd h Bool.false_ne_true
    · exact List.cons_ne_nil fix []

/-- A fix for a reported issue resolves it, and is missing for one of three reasons only. Whatever
the issue, a text is fixed only where a fix is offered. -/
theorem resolved_or_unfixable (t : Text) :
    (∀ issue ∈ (Verdict.of (Readme.ofText t) []).issues, issue.code ∈ Check.mendableCodes →
      (∀ fixed, apply t issue = some fixed → Resolved issue fixed) ∧
        (apply t issue = none → Unfixable t issue)) ∧
      ∀ issue : Issue, (apply t issue).isSome = true → offered issue ≠ [] := by
  refine ⟨fun issue hissue hcode ↦ ⟨fun fixed hfix ↦ ?_, fun hnone ↦ ?_⟩, fun issue h ↦ ?_⟩
  · exact (mended_of_apply hissue hcode hfix).resolved
  · exact unfixable_of_apply_eq_none hissue hcode hnone
  · exact offered_ne_nil_of_apply h

/-- The two asterisks join the one that ends the line, and blanks after it are dropped. -/
theorem resolved_or_unfixable_bold :
    ∃ issue ∈ (Verdict.of (Readme.ofText "x **b* \r\n=Y".toList) []).issues,
      issue.code = .unbalancedBold ∧
        apply "x **b* \r\n=Y".toList issue = some "x **b***\r\n=Y".toList ∧
          Resolved issue "x **b***\r\n=Y".toList := by
  let issue : Issue :=
    { Issue.warning .unbalancedBold "Unbalanced bold markers (**)" with
      line := some 1
      hint := some "Ensure bold sections use pairs of ** markers".toList }
  have hmem : issue ∈ (Verdict.of (Readme.ofText "x **b* \r\n=Y".toList) []).issues := by
    decide +kernel
  have happly : apply "x **b* \r\n=Y".toList issue = some "x **b***\r\n=Y".toList := by
    decide +kernel
  exact ⟨issue, hmem, rfl, happly,
    ((resolved_or_unfixable _).1 issue hmem (by decide)).1 _ happly⟩

end PluginReadme.QuickFix
