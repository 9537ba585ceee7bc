import PluginReadme.Proofs.Check.Strictness
import PluginReadme.Proofs.Command.Transcript

/-!
# Checks under stricter settings

The readmes that a check looks at, and their texts, do not depend on what is ignored or on what
makes it fail (`CheckOptions.result_verdicts_eq_ok`). A check that comes to verdicts therefore gives
another check of the same target the texts to judge, and that one either comes to its own verdicts
on them or fails earlier (`CheckOptions.endsIn_verdicts`). So a check that fails on a readme fails
under stricter settings, too (`CheckOptions.code_run_of_isStricter`).
-/

namespace PluginReadme

open Transcript

/-- A program whose last step fails on every result fails. -/
theorem Transcript.EndsIn.code_bind {α : Type} {x : Transcript α} {next : α → Transcript Unit}
    {holds : α → Prop} (hx : EndsIn x holds) (hnext : ∀ a, holds a → (next a).code = 1) :
    (x >>= next).code = 1 := by
  rw [bind_eq_andThen, andThen, code]
  rw [EndsIn] at hx
  cases hresult : x.result with
  | ok a =>
    rw [hresult] at hx
    exact hnext a hx
  | error s =>
    rw [hresult] at hx
    exact hx

namespace Command

variable {tree : Tree} {settings strict lax : Settings} {verbose : Bool} {path : Path}
  {files : List Path} {texts : List Text} {t : Text}

/-! ## Verdicts -/

def entryOf (settings : Settings) (path : Path) (t : Text) : Text × Verdict :=
  (path.text, Verdict.of (Readme.ofText t) settings.ignored)

/-- One verdict that fails makes the exit code 1. -/
theorem exitCode_eq_one {verdicts : List (Text × Verdict)} {entry : Text × Verdict}
    (hmem : entry ∈ verdicts) (hfails : settings.fails entry.2 = true) :
    settings.exitCode (verdicts.map (·.2)) = 1 := by
  rw [Settings.exitCode, if_pos]
  exact List.any_eq_true.mpr ⟨entry.2, List.mem_map_of_mem hmem, hfails⟩

/-- The entry of a readme that fails has a counterpart that fails under stricter settings. -/
theorem exists_mem_zipWith_entryOf (h : strict.IsStricter lax) {entry : Text × Verdict}
    (hmem : entry ∈ List.zipWith (entryOf lax) files texts)
    (hfails : lax.fails entry.2 = true) :
    ∃ other ∈ List.zipWith (entryOf strict) files texts, strict.fails other.2 = true := by
  rw [← List.map_uncurry_zip_eq_zipWith] at hmem ⊢
  obtain ⟨⟨path, t⟩, hzip, rfl⟩ := List.mem_map.mp hmem
  exact ⟨_, List.mem_map_of_mem hzip, h.fails (Readme.ofText t) hfails⟩

section Display

variable [Display]

/-! ## One readme -/

theorem result_verdictOn_eq_ok {entry : Text × Verdict}
    (h : (verdictOn tree settings verbose path).result = .ok entry) :
    ∃ t, (readFile tree path).result = .ok t ∧ entry = entryOf settings path t := by
  obtain ⟨t, ht, h⟩ := result_bind_eq_ok.mp h
  refine ⟨t, ht, ?_⟩
  cases verbose with
  | false => exact (Except.ok.inj h).symm
  | true =>
    obtain ⟨_, -, h⟩ := result_bind_eq_ok.mp h
    exact (Except.ok.inj h).symm

/-- A readme whose text can be read gets the verdict on that text, or the program fails. -/
theorem endsIn_verdictOn (h : (readFile tree path).result = .ok t) :
    EndsIn (verdictOn tree settings verbose path) (· = entryOf settings path t) := by
  refine (endsIn_of_result h).bind fun current hcurrent ↦ ?_
  cases verbose with
  | false => exact endsIn_pure (by rw [hcurrent, entryOf])
  | true =>
    exact (endsIn_say _).bind fun _ _ ↦ endsIn_pure (by rw [hcurrent, entryOf])

/-! ## All readmes of a target -/

theorem exists_texts_of_forall₂ {verdicts : List (Text × Verdict)}
    (h : List.Forall₂ (fun path entry ↦ (verdictOn tree settings verbose path).result = .ok entry)
      files verdicts) :
    ∃ texts, List.Forall₂ (fun path t ↦ (readFile tree path).result = .ok t) files texts ∧
      verdicts = List.zipWith (entryOf settings) files texts := by
  induction h with
  | nil => exact ⟨[], .nil, rfl⟩
  | cons hentry _ ih =>
    obtain ⟨t, ht, rfl⟩ := result_verdictOn_eq_ok hentry
    obtain ⟨texts, htexts, rfl⟩ := ih
    exact ⟨t :: texts, .cons ht htexts, rfl⟩

/-- Every readme gets the verdict on its text, or the program fails. -/
theorem forall₂_endsIn_verdictOn
    (h : List.Forall₂ (fun path t ↦ (readFile tree path).result = .ok t) files texts) :
    List.Forall₂ (fun path entry ↦ EndsIn (verdictOn tree settings verbose path) (· = entry)) files
      (List.zipWith (entryOf settings) files texts) := by
  induction h with
  | nil => exact .nil
  | cons ht _ ih => exact .cons (endsIn_verdictOn ht) ih

theorem endsIn_announce (settings : Settings) (count : Nat) :
    EndsIn (announce settings count) fun _ ↦ True := by
  refine (endsIn_say _).bind fun _ _ ↦ ?_
  cases settings.source with
  | none => exact endsIn_pure trivial
  | some source => exact endsIn_say _

theorem endsIn_report (format : ReportFormat) (ofFolder : Bool) (verdicts : List (Text × Verdict)) :
    EndsIn (report format ofFolder verdicts) fun _ ↦ True := by
  cases format with
  | json =>
    cases ofFolder with
    | true => exact trivial
    | false => exact .forM fun _ _ ↦ trivial
  | overview =>
    refine .forM fun entry _ ↦ ?_
    exact (endsIn_ofExcept .style _).bind fun _ _ ↦ trivial

variable [Ignore.Matcher]

theorem readmesOf_eq (h : strict.excluded = lax.excluded) (target : Path) :
    readmesOf tree strict target = readmesOf tree lax target := by
  rw [readmesOf, readmesOf, h]

namespace CheckOptions

variable {options more : CheckOptions}

structure Reads (tree : Tree) (options : CheckOptions) (settings : Settings) (files : List Path)
    (texts : List Text) : Prop where
  files_eq : (readmesOf tree settings options.target).result = .ok files
  texts_eq : List.Forall₂ (fun path t ↦ (readFile tree path).result = .ok t) files texts

/-- A check that comes to verdicts has read its readmes, and the verdicts are those on the texts. -/
theorem result_verdicts_eq_ok {verdicts : List (Text × Verdict)}
    (h : (options.verdicts tree settings).result = .ok verdicts) :
    ∃ files texts, options.Reads tree settings files texts ∧
      verdicts = List.zipWith (entryOf settings) files texts := by
  obtain ⟨files, hfiles, h⟩ := result_bind_eq_ok.mp h
  have hverdicts : (files.mapM (verdictOn tree settings (options.verbose != 0))).result =
      .ok verdicts := by
    dsimp only at h
    split at h
    · obtain ⟨_, -, h⟩ := result_bind_eq_ok.mp h
      exact h
    · exact h
  obtain ⟨texts, htexts, hzip⟩ := exists_texts_of_forall₂ (result_mapM_eq_ok.mp hverdicts)
  exact ⟨files, texts, ⟨hfiles, htexts⟩, hzip⟩

/-- A check whose readmes can be read comes to the verdicts on the texts or fails. -/
theorem endsIn_verdicts (h : options.Reads tree settings files texts) :
    EndsIn (options.verdicts tree settings) (· = List.zipWith (entryOf settings) files texts) := by
  refine (endsIn_of_result h.files_eq).bind fun found hfound ↦ ?_
  rw [hfound]
  have hverdicts (verbose : Bool) : EndsIn (files.mapM (verdictOn tree settings verbose))
      (· = List.zipWith (entryOf settings) files texts) :=
    .mapM (forall₂_endsIn_verdictOn h.texts_eq)
  dsimp only
  split
  · exact (endsIn_announce _ _).bind fun _ _ ↦ hverdicts _
  · exact hverdicts _

/-! ## Exit codes -/

/-- A check that can only come to verdicts one of which makes it fail does fail. -/
theorem code_run {verdicts : List (Text × Verdict)} {entry : Text × Verdict}
    (hsettings : (options.settings tree).result = .ok settings)
    (hverdicts : EndsIn (options.verdicts tree settings) (· = verdicts)) (hmem : entry ∈ verdicts)
    (hfails : settings.fails entry.2 = true) : (options.run tree).code = 1 := by
  refine (endsIn_of_result hsettings).code_bind fun found hfound ↦ ?_
  rw [hfound]
  refine hverdicts.code_bind fun judged hjudged ↦ ?_
  refine (endsIn_report _ _ _).code_bind fun _ _ ↦ ?_
  rw [hjudged, exitCode_eq_one hmem hfails]
  rfl

/-- The check comes to verdicts on the readmes of its target, and one of them makes it fail. -/
def FailsOnReadme (tree : Tree) (options : CheckOptions) (settings : Settings) : Prop :=
  ∃ verdicts, (options.verdicts tree settings).result = .ok verdicts ∧
    ∃ entry ∈ verdicts, settings.fails entry.2 = true

instance (tree : Tree) (options : CheckOptions) (settings : Settings) :
    Decidable (options.FailsOnReadme tree settings) :=
  match h : (options.verdicts tree settings).result with
  | .ok verdicts =>
    decidable_of_iff (∃ entry ∈ verdicts, settings.fails entry.2 = true)
      ⟨fun hfails ↦ ⟨verdicts, h, hfails⟩, fun ⟨_, hok, hfails⟩ ↦
        Except.ok.inj (h.symm.trans hok) ▸ hfails⟩
  | .error _ => isFalse fun ⟨_, hok, _⟩ ↦ absurd (h.symm.trans hok) (by simp)

/-- Stricter settings that leave out the same files read the same readmes. -/
theorem Reads.of_isStricter (h : options.Reads tree lax files texts)
    (htarget : more.target = options.target) (hexcluded : strict.excluded = lax.excluded) :
    more.Reads tree strict files texts where
  files_eq := by rw [htarget, readmesOf_eq hexcluded, h.files_eq]
  texts_eq := h.texts_eq

end CheckOptions

end Display

namespace CheckOptions

/-- Under stricter settings the verdict on a readme keeps all issues, those whose codes the laxer
settings ignore stand among them, and the score is no higher; and a check that fails on a readme
under the laxer settings fails under the stricter ones. -/
theorem stricter_fails (h : strict.IsStricter lax) :
    (∀ readme : Readme,
      (Verdict.of readme lax.ignored).issues =
          (Verdict.of readme strict.ignored).issues.filter (fun issue ↦
            issue.code.name ∉ lax.ignored.map Text.upper) ∧
        (Verdict.of readme strict.ignored).score ≤ (Verdict.of readme lax.ignored).score ∧
        0 ≤ (Verdict.of readme lax.ignored).score ∧
        (Verdict.of readme lax.ignored).score ≤ 100) ∧
      ∀ [Display] [Ignore.Matcher] (tree : Tree) (options more : CheckOptions),
        more.target = options.target → strict.excluded = lax.excluded →
          (options.settings tree).result = .ok lax → (more.settings tree).result = .ok strict →
            options.FailsOnReadme tree lax →
              (options.run tree).code = 1 ∧ (more.run tree).code = 1 := by
  refine ⟨fun readme ↦ ⟨Verdict.issues_of_subset h.ignored readme, ?_, ?_⟩, ?_⟩
  · rw [Verdict.score_of, Verdict.score_of]
    exact scoreOf_le_of_sublist (Verdict.sublist_issues_of_subset h.ignored readme) readme
  · rw [Verdict.score_of]
    exact clampScore_bounds _
  · intro _ _ tree options more htarget hexcluded hlax hstrict hfailing
    obtain ⟨verdicts, hverdicts, entry, hmem, hfails⟩ := hfailing
    obtain ⟨files, texts, hreads, rfl⟩ := result_verdicts_eq_ok hverdicts
    obtain ⟨other, hother, hstrictFails⟩ := exists_mem_zipWith_entryOf h hmem hfails
    exact ⟨code_run hlax (endsIn_of_result hverdicts) hmem hfails,
      code_run hstrict (endsIn_verdicts (hreads.of_isStricter htarget hexcluded)) hother
        hstrictFails⟩

/-- Of all issues of `===A===` only the short name counts, and only for people who want every point;
it counts as well where warnings make a check fail. -/
theorem stricter_fails_name :
    let tree : Tree := ⟨.folder [("a", .file [0x3D, 0x3D, 0x3D, 0x41, 0x3D, 0x3D, 0x3D])], {}⟩
    let options : CheckOptions :=
      { target := { names := ["a"] }, leastScore := some 96,
        ignored := ["missing_field", "Missing_Section", "MALFORMED_HEADING"] }
    let more : CheckOptions :=
      { options with failOn := some "warning", leastScore := some 98, ignored := ["missing_field"] }
    let lax : Settings :=
      { leastScore := 96, ignored := ["MALFORMED_HEADING", "MISSING_FIELD", "MISSING_SECTION"] }
    let strict : Settings := { leastScore := 98, failOn := .warning, ignored := ["MISSING_FIELD"] }
    strict.IsStricter lax ∧ more.target = options.target ∧ strict.excluded = lax.excluded ∧
      (options.settings tree).result = .ok lax ∧ (more.settings tree).result = .ok strict ∧
      options.FailsOnReadme tree lax ∧ (options.run tree).code = 1 ∧ (more.run tree).code = 1 := by
  intro tree options more lax strict
  have hstricter : strict.IsStricter lax := ⟨by decide +kernel, Or.inr ⟨rfl, rfl⟩, by decide⟩
  have hlax : (options.settings tree).result = .ok lax := by rfl
  have hstrict : (more.settings tree).result = .ok strict := by rfl
  have hfails : options.FailsOnReadme tree lax := by decide +kernel
  obtain ⟨-, hcode⟩ := stricter_fails hstricter
  exact ⟨hstricter, rfl, rfl, hlax, hstrict, hfails,
    hcode tree options more rfl rfl hlax hstrict hfails⟩

end CheckOptions

end Command

end PluginReadme
