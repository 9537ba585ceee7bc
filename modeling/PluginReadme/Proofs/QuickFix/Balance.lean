import PluginReadme.Proofs.QuickFix.Resolution

/-!
# The other marker

Two asterisks after a line make one more pair and leave as many asterisks without a partner as
before. One asterisk after a line becomes the second of a pair if the line ends with an odd run of
them (`boldCount_append_asterisk`). So the fix for bold text keeps italic text as it is, and the fix
for italic text takes the balance of bold text away exactly where it completes a pair
(`staysBalanced_iff`).
-/

namespace PluginReadme

namespace Check

variable {t front : Text}

/-! ## Runs at the end -/

def closingRun (t : Text) : Nat := (Text.takeEndWhile (· == '*') t).length

theorem boldCount_replicate (n : Nat) : boldCount (List.replicate n '*') = n / 2 := by
  induction n using Nat.twoStepInduction with
  | zero => rfl
  | one => rfl
  | more n ih _ =>
    rw [List.replicate_succ, List.replicate_succ, boldCount_pair, ih]
    omega

/-- Pairs are counted in the run at the end as if it stood alone. -/
theorem boldCount_append_replicate (h : front.getLast? ≠ some '*') (n : Nat) :
    boldCount (front ++ List.replicate n '*') = boldCount front + n / 2 := by
  rcases List.eq_nil_or_concat' front with rfl | ⟨start, c, rfl⟩
  · rw [List.nil_append, boldCount_replicate]
    exact (Nat.zero_add _).symm
  · have hc : c ≠ '*' := by simpa using h
    have hfront : boldCount (start ++ [c]) = boldCount start := boldCount_append_cons hc start []
    rw [← List.append_cons, boldCount_append_cons hc, boldCount_replicate, hfront]

/-- A text is some text that ends with no asterisk, and its closing run. -/
theorem exists_append_closingRun (t : Text) :
    ∃ front : Text, front.getLast? ≠ some '*' ∧
      t = front ++ List.replicate (closingRun t) '*' := by
  have hrun : Text.takeEndWhile (· == '*') t = List.replicate (closingRun t) '*' := by
    apply List.eq_replicate_of_mem
    intro c hc
    exact eq_of_beq (Text.forall_mem_takeEndWhile _ t c hc)
  refine ⟨Text.dropEndWhile (· == '*') t, fun hlast ↦ ?_, ?_⟩
  · exact absurd (Text.last_dropEndWhile _ t '*' hlast) (by decide)
  · rw [← hrun, Text.dropEndWhile_append_takeEndWhile]

/-- One more asterisk completes a pair exactly after an odd run. -/
theorem boldCount_append_asterisk (t : Text) :
    boldCount (t ++ ['*']) = boldCount t + closingRun t % 2 := by
  obtain ⟨front, hfront, ht⟩ := exists_append_closingRun t
  have hlonger : t ++ ['*'] = front ++ List.replicate (closingRun t + 1) '*' := by
    rw [List.replicate_succ', ← List.append_assoc, ← ht]
  calc
    boldCount (t ++ ['*']) = boldCount front + (closingRun t + 1) / 2 := by
      rw [hlonger, boldCount_append_replicate hfront]
    _ = boldCount front + closingRun t / 2 + closingRun t % 2 := by omega
    _ = boldCount t + closingRun t % 2 := by
      rw [← boldCount_append_replicate hfront, ← ht]

/-! ## Reported markers -/

def emphasisCodes : List Code := [.unbalancedBold, .unbalancedItalic]

def Reports (t : Text) (code : Code) : Prop :=
  ∃ issue ∈ (Verdict.of (Readme.ofText t) []).issues, issue.code = code

theorem reports_of_mem_unbalancedEmphasis {code : Code}
    (h : ∃ issue ∈ unbalancedEmphasis (Text.lines t) t, issue.code = code) : Reports t code := by
  obtain ⟨issue, hissue, hcode⟩ := h
  have hmarkup : issue ∈ markup (Text.lines t) t := by
    simp only [markup, List.mem_append]
    exact Or.inl (Or.inl (Or.inr hissue))
  refine ⟨issue, ?_, hcode⟩
  rw [Verdict.issues_of_nil]
  simp only [issues, List.mem_append]
  exact Or.inl (Or.inl (Or.inr hmarkup))

/-- Unbalanced bold text is reported exactly if the number of its marks is odd. -/
theorem reports_unbalancedBold_iff : Reports t .unbalancedBold ↔ boldCount t % 2 = 1 := by
  constructor
  · rintro ⟨issue, hissue, hcode⟩
    obtain ⟨_, _, -, hfinding⟩ := finding_of_mem_issues hissue (by rw [hcode]; decide)
    exact hfinding.odd_bold hcode
  · intro hodd
    apply reports_of_mem_unbalancedEmphasis
    rw [unbalancedEmphasis, if_pos hodd]
    exact ⟨_, List.mem_append_left _ List.mem_cons_self, rfl⟩

/-- Unbalanced italic text is reported exactly if an odd number of asterisks is left over. -/
theorem reports_unbalancedItalic_iff : Reports t .unbalancedItalic ↔ italicCount t % 2 = 1 := by
  constructor
  · rintro ⟨issue, hissue, hcode⟩
    obtain ⟨_, _, -, hfinding⟩ := finding_of_mem_issues hissue (by rw [hcode]; decide)
    exact hfinding.odd_italic hcode
  · intro hodd
    apply reports_of_mem_unbalancedEmphasis
    rw [unbalancedEmphasis, if_pos hodd]
    exact ⟨_, List.mem_append_right _ List.mem_cons_self, rfl⟩

end Check

namespace QuickFix

variable {t fixed : Text} {issue : Issue} {front back : List Text} {line : Text}

open Check

/-! ## Counts of the fixed text -/

/-- One more asterisk makes one more mark exactly behind an odd run of them. -/
theorem boldCount_of_italic_fixed (hlines : Text.lines t = front ++ line :: back)
    (hfixed : Text.lines fixed = front ++ (Text.stripRight line ++ ['*']) :: back) :
    boldCount fixed = boldCount t + closingRun (Text.stripRight line) % 2 := by
  have hsum := boldCount_replace hlines hfixed
  rw [boldCount_append_asterisk, (sameInline_stripRight line).boldCount_eq] at hsum
  omega

theorem italicCount_of_bold_fixed (hlines : Text.lines t = front ++ line :: back)
    (hfixed : Text.lines fixed = front ++ (Text.stripRight line ++ boldMark) :: back) :
    italicCount fixed % 2 = italicCount t % 2 := by
  have hsum := count_replace hlines hfixed
  have hmark : boldMark.count '*' = 2 := rfl
  rw [count_stripRight_append, hmark] at hsum
  rw [italicCount_mod_two, italicCount_mod_two]
  omega

/-- The fix for bold text leaves italic text as balanced as it was. -/
theorem reports_italic_of_bold_fixed (hlines : Text.lines t = front ++ line :: back)
    (hfixed : Text.lines fixed = front ++ (Text.stripRight line ++ boldMark) :: back) :
    Reports fixed .unbalancedItalic ↔ Reports t .unbalancedItalic := by
  rw [reports_unbalancedItalic_iff, reports_unbalancedItalic_iff,
    italicCount_of_bold_fixed hlines hfixed]

/-- The fix for italic text turns the balance of bold text over exactly after an odd run. -/
theorem reports_bold_of_italic_fixed (hlines : Text.lines t = front ++ line :: back)
    (hfixed : Text.lines fixed = front ++ (Text.stripRight line ++ ['*']) :: back) :
    Reports fixed .unbalancedBold ↔
      (Reports t .unbalancedBold ↔ closingRun (Text.stripRight line) % 2 = 0) := by
  rw [reports_unbalancedBold_iff, reports_unbalancedBold_iff,
    boldCount_of_italic_fixed hlines hfixed]
  omega

/-! ## Both markers -/

/-- No kind of emphasis is unbalanced that was balanced before. -/
def StaysBalanced (t fixed : Text) : Prop :=
  ∀ code ∈ emphasisCodes, ¬Reports t code → ¬Reports fixed code

/-- Closing bold text keeps italic text balanced. -/
theorem staysBalanced_of_bold_fixed (hissue : Reports t .unbalancedBold)
    (hlines : Text.lines t = front ++ line :: back)
    (hfixed : Text.lines fixed = front ++ (Text.stripRight line ++ boldMark) :: back) :
    StaysBalanced t fixed := by
  intro code hcode hbalanced
  simp only [emphasisCodes, List.mem_cons, List.not_mem_nil, or_false] at hcode
  rcases hcode with rfl | rfl
  · exact absurd hissue hbalanced
  · rwa [reports_italic_of_bold_fixed hlines hfixed]

/-- Closing italic text keeps bold text balanced exactly if the line ends with an even run of
asterisks or bold text was not balanced before. -/
theorem staysBalanced_of_italic_fixed_iff (hissue : Reports t .unbalancedItalic)
    (hlines : Text.lines t = front ++ line :: back)
    (hfixed : Text.lines fixed = front ++ (Text.stripRight line ++ ['*']) :: back) :
    StaysBalanced t fixed ↔
      (closingRun (Text.stripRight line) % 2 = 1 → Reports t .unbalancedBold) := by
  have hbold := reports_bold_of_italic_fixed hlines hfixed
  constructor
  · intro hstays hodd
    by_contra hbalanced
    refine hstays .unbalancedBold List.mem_cons_self hbalanced (hbold.mpr ?_)
    exact iff_of_false hbalanced (by omega)
  · intro hpair code hcode hbalanced
    simp only [emphasisCodes, List.mem_cons, List.not_mem_nil, or_false] at hcode
    rcases hcode with rfl | rfl
    · have heven : closingRun (Text.stripRight line) % 2 = 0 := by
        have hnot := mt hpair hbalanced
        omega
      exact fun hreports ↦ hbalanced ((hbold.mp hreports).mpr heven)
    · exact absurd hissue hbalanced

/-- A fix for emphasis takes no balance away, unless it is one for italic text that completes a pair
at the end of its line while bold text was balanced. -/
theorem staysBalanced_iff (h : issue ∈ (Verdict.of (Readme.ofText t) []).issues)
    (hcode : issue.code ∈ emphasisCodes) (hfix : apply t issue = some fixed) :
    ∃ index line, issue.IsAt (Text.lines t) index line ∧
      (StaysBalanced t fixed ↔
        (issue.code = .unbalancedItalic → closingRun (Text.stripRight line) % 2 = 1 →
          Reports t .unbalancedBold)) := by
  have hreported : Reports t issue.code := ⟨issue, h, rfl⟩
  simp only [emphasisCodes, List.mem_cons, List.not_mem_nil, or_false] at hcode
  have hmendable : issue.code ∈ mendableCodes := by
    rcases hcode with heq | heq
    all_goals
      rw [heq]
      decide
  cases mended_of_apply h hmendable hfix with
  | line hat hfixed hmended =>
    refine ⟨_, _, hat.isAt, ?_⟩
    generalize hkind : issue.code = code at hcode hreported hmended
    cases hmended with
    | unbalancedBold _ _ =>
      exact iff_of_true (staysBalanced_of_bold_fixed hreported hat.lines_eq hfixed)
        fun heq ↦ Code.noConfusion heq
    | unbalancedItalic _ _ =>
      rw [staysBalanced_of_italic_fixed_iff hreported hat.lines_eq hfixed]
      exact ⟨fun hpair _ ↦ hpair, fun hpair ↦ hpair rfl⟩
    | malformedHeading _ _ | hashHeading _ _ | unclosedLink _ => simp at hcode
  | fence hkind _ _ _ _ =>
    rw [hkind] at hcode
    simp at hcode

/-- The asterisk completes a pair on its line, and bold text had one mark too many. -/
theorem staysBalanced_iff_bold :
    ∃ issue ∈ (Verdict.of (Readme.ofText "x **b* \r\n=Y".toList) []).issues,
      issue.code ∈ emphasisCodes ∧
        apply "x **b* \r\n=Y".toList issue = some "x **b**\r\n=Y".toList ∧
          ∃ index line, issue.IsAt (Text.lines "x **b* \r\n=Y".toList) index line ∧
            (StaysBalanced "x **b* \r\n=Y".toList "x **b**\r\n=Y".toList ↔
              (issue.code = .unbalancedItalic → closingRun (Text.stripRight line) % 2 = 1 →
                Reports "x **b* \r\n=Y".toList .unbalancedBold)) := by
  let issue : Issue :=
    { Issue.warning .unbalancedItalic "Unbalanced italic markers (*)" with
      line := some 1
      hint := some "Ensure italic sections use pairs of * markers".toList }
  have hmem : issue ∈ (Verdict.of (Readme.ofText "x **b* \r\n=Y".toList) []).issues := by
    decide +kernel
  have happly : apply "x **b* \r\n=Y".toList issue = some "x **b**\r\n=Y".toList := by
    decide +kernel
  exact ⟨issue, hmem, by decide, happly, staysBalanced_iff hmem (by decide) happly⟩

/-- Closing the italic text of a line that ends with its mark opens bold text. -/
theorem not_staysBalanced :
    ∃ issue ∈ (Verdict.of (Readme.ofText "a*".toList) []).issues,
      issue.code = .unbalancedItalic ∧ apply "a*".toList issue = some "a**".toList ∧
        ¬Reports "a*".toList .unbalancedBold ∧ Reports "a**".toList .unbalancedBold ∧
          ¬StaysBalanced "a*".toList "a**".toList := by
  let issue : Issue :=
    { Issue.warning .unbalancedItalic "Unbalanced italic markers (*)" with
      line := some 1
      hint := some "Ensure italic sections use pairs of * markers".toList }
  have hmem : issue ∈ (Verdict.of (Readme.ofText "a*".toList) []).issues := by
    decide +kernel
  have hbefore : ¬Reports "a*".toList .unbalancedBold := by
    rw [reports_unbalancedBold_iff]
    decide
  have hafter : Reports "a**".toList .unbalancedBold := by
    rw [reports_unbalancedBold_iff]
    decide
  refine ⟨issue, hmem, rfl, by decide +kernel, hbefore, hafter, fun hstays ↦ ?_⟩
  exact hstays .unbalancedBold List.mem_cons_self hbefore hafter

end QuickFix

end PluginReadme
