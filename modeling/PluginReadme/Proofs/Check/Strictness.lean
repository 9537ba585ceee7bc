import Mathlib.Data.List.Basic
import PluginReadme.Command.Run
import PluginReadme.Proofs.Check.Findings

/-!
# Stricter settings

Settings are stricter than others if they ignore no further code, count warnings wherever the others
do, and ask for as many points at least (`Settings.IsStricter`). Ignoring more codes only takes
issues away. What is taken away cost points or nothing, and clamping keeps the order of scores, so
the score does not fall (`scoreOf_le_of_sublist`). Hence a verdict that fails under the laxer
settings fails under the stricter ones (`Settings.IsStricter.fails`).
-/

namespace PluginReadme

/-! ## Scores -/

section Scores

variable {found fewer : List Issue}

/-- Fewer issues cost no more points. -/
theorem penalties_le_of_sublist (h : fewer.Sublist found) :
    penalties fewer ≤ penalties found := by
  induction h with
  | slnil => exact le_rfl
  | cons issue _ ih => exact Nat.le_trans ih (Nat.le_add_left _ _)
  | cons_cons issue _ ih => exact Nat.add_le_add_left ih _

theorem clampScore_le {m n : Int} (h : m ≤ n) : clampScore m ≤ clampScore n := by
  unfold clampScore
  omega

/-- A score lies between zero and a hundred. -/
theorem clampScore_bounds (points : Int) : 0 ≤ clampScore points ∧ clampScore points ≤ 100 := by
  unfold clampScore
  omega

/-- More issues do not make the score of a readme better. -/
theorem scoreOf_le_of_sublist (h : fewer.Sublist found) (readme : Readme) :
    scoreOf found readme ≤ scoreOf fewer readme := by
  have hpenalties : (penalties fewer : Int) ≤ penalties found :=
    Int.ofNat_le.mpr (penalties_le_of_sublist h)
  exact clampScore_le (by omega)

end Scores

/-! ## Verdicts -/

namespace Verdict

variable {ignored further : List Text}

theorem score_of (readme : Readme) (ignored : List Text) :
    (Verdict.of readme ignored).score = scoreOf (Verdict.of readme ignored).issues readme := by
  rw [Verdict.of, Verdict.ofIssues]

/-- With further codes to be ignored, exactly the issues with these codes go. -/
theorem issues_of_subset (h : ignored.map Text.upper ⊆ further.map Text.upper) (readme : Readme) :
    (Verdict.of readme further).issues =
      (Verdict.of readme ignored).issues.filter fun issue ↦
        issue.code.name ∉ further.map Text.upper := by
  rw [issues_of, issues_of, kept, kept, List.filter_filter]
  refine List.filter_congr fun issue _ ↦ ?_
  by_cases hmem : issue.code.name ∈ further.map Text.upper
  · simp [hmem]
  · have hless : issue.code.name ∉ ignored.map Text.upper := fun hin ↦ hmem (h hin)
    simp [hmem, hless]

/-- The more codes are ignored, the fewer issues are left, in the same order. -/
theorem sublist_issues_of_subset (h : ignored.map Text.upper ⊆ further.map Text.upper)
    (readme : Readme) :
    (Verdict.of readme further).issues.Sublist (Verdict.of readme ignored).issues := by
  rw [issues_of_subset h]
  exact List.filter_sublist

theorem isValid_eq_false_of_sublist {verdict other : Verdict}
    (h : verdict.issues.Sublist other.issues) (hinvalid : verdict.isValid = false) :
    other.isValid = false := by
  have herrors : verdict.errors.Sublist other.errors := h.filter _
  rw [isValid, List.isEmpty_eq_false_iff] at hinvalid ⊢
  exact fun hnil ↦ hinvalid (List.sublist_nil.mp (hnil ▸ herrors))

/-- More issues have no fewer warnings. -/
theorem warnings_ne_nil_of_sublist {verdict other : Verdict}
    (h : verdict.issues.Sublist other.issues) (hne : verdict.warnings ≠ []) :
    other.warnings ≠ [] := by
  have hwarnings : verdict.warnings.Sublist other.warnings := h.filter _
  exact fun hnil ↦ hne (List.sublist_nil.mp (hnil ▸ hwarnings))

end Verdict

/-! ## Settings -/

namespace Settings

/-- The first settings ignore no code that the others report, count warnings wherever the others do,
and ask for as many points at least. -/
structure IsStricter (strict lax : Settings) : Prop where
  ignored : strict.ignored.map Text.upper ⊆ lax.ignored.map Text.upper
  failOn : strict.failOn = lax.failOn ∨ lax.failOn = .error ∧ strict.failOn = .warning
  leastScore : lax.leastScore ≤ strict.leastScore

variable {strict lax : Settings}

/-- A verdict fails by its errors, by its warnings where these count, or by its score. -/
theorem fails_iff {settings : Settings} {verdict : Verdict} :
    settings.fails verdict = true ↔ verdict.isValid = false ∨
      settings.failOn = .warning ∧ verdict.warnings ≠ [] ∨
      verdict.score < settings.leastScore := by
  rw [fails, Bool.or_eq_true, Bool.or_eq_true, Bool.not_eq_true', Bool.and_eq_true,
    decide_eq_true_eq, decide_eq_true_eq, Bool.not_eq_true', List.isEmpty_eq_false_iff, or_assoc]

theorem IsStricter.failOn_warning (h : strict.IsStricter lax) (hlax : lax.failOn = .warning) :
    strict.failOn = .warning := by
  rcases h.failOn with heq | ⟨-, hwarning⟩
  · exact heq.trans hlax
  · exact hwarning

/-- What fails under the laxer settings fails under the stricter ones. -/
theorem IsStricter.fails (h : strict.IsStricter lax) (readme : Readme)
    (hlax : lax.fails (Verdict.of readme lax.ignored) = true) :
    strict.fails (Verdict.of readme strict.ignored) = true := by
  have hissues := Verdict.sublist_issues_of_subset h.ignored readme
  rw [fails_iff] at hlax ⊢
  rcases hlax with hinvalid | ⟨hlevel, hwarnings⟩ | hscore
  · exact Or.inl (Verdict.isValid_eq_false_of_sublist hissues hinvalid)
  · exact Or.inr (Or.inl
      ⟨h.failOn_warning hlevel, Verdict.warnings_ne_nil_of_sublist hissues hwarnings⟩)
  · have hless := scoreOf_le_of_sublist hissues readme
    have hleast := h.leastScore
    rw [Verdict.score_of] at hscore ⊢
    exact Or.inr (Or.inr (by omega))

end Settings

end PluginReadme
