import PluginReadme.Command.Run
import PluginReadme.Proofs.Command.Transcript
import PluginReadme.Proofs.Settings.WellFormed

/-!
# Settings of commands

Three commands work with settings: they are loaded, options that were given take their place, and
then the command goes on (`Command.exists_run_eq`). If the score that a check was given is at most a
hundred, as it is after the arguments were read (`Command.hasScoreInRange_of_ofArguments`), the
settings that a command works with are as well-formed as those that it loads
(`Command.isWellFormed_effective`).
-/

namespace PluginReadme.Command

open Transcript

open Settings (IsWellFormed isWellFormed_entries_iff isWellFormed_of_load isWellFormed_merged)

/-! ## Options -/

def HasScoreInRange : Command → Prop
  | .check options => ∀ n, options.leastScore = some n → n ≤ 100
  | _ => True

/-- More codes to ignore leave settings well-formed: they are in upper case, too. -/
theorem isWellFormed_ignoring {settings : Settings} (h : IsWellFormed settings.entries)
    (codes : List Text) : IsWellFormed (ignoring settings codes).entries := by
  unfold ignoring
  split
  · exact h
  · obtain ⟨hscore, hcodes⟩ := isWellFormed_entries_iff.mp h
    refine isWellFormed_entries_iff.mpr ⟨hscore, fun t ht ↦ ?_⟩
    rw [Text.mem_inOrder, List.mem_append] at ht
    rcases ht with ht | ht
    · exact hcodes t ht
    · obtain ⟨u, -, rfl⟩ := List.mem_map.mp ht
      exact Text.upper_upper u

/-! ## Settings first -/

section Display

variable [Display]

/-- The settings of a preview: its options outrank those for the file, and videos may be left out.
-/
def PreviewOptions.settings (tree : Tree) (options : PreviewOptions) : Transcript Settings := do
  let theme ← chosen "--theme" Page.Theme.choices options.theme
  requireFile tree options.file
  let settings ← settingsFor tree options.config options.file
  let settings := settings.merged { theme, base := options.base }
  return { settings with allowVideos := settings.allowVideos && !options.noVideos }

/-- The settings of a repair: the style that was asked for outranks that for the file. -/
def FixOptions.settings (tree : Tree) (options : FixOptions) : Transcript Settings := do
  let style ← chosen "--style" Repair.Style.choices options.style
  requireFile tree options.file
  let settings ← settingsFor tree options.config options.file
  return settings.merged { style }

/-- The settings that a command works with, if it needs any. -/
def settings? (tree : Tree) : Command → Option (Transcript Settings)
  | .check options => some (options.settings tree)
  | .preview options => some (options.settings tree)
  | .fix options => some (options.settings tree)
  | .init _ => none
  | .version => none

variable {tree : Tree} {command : Command} {program : Transcript Settings} {config : Option Path}
  {target : Path}

/-- The settings come first, and nothing else depends on where they come from. -/
theorem exists_run_eq [Ignore.Matcher] [LinkDefinition.Collector]
    (h : command.settings? tree = some program) :
    ∃ next, command.run tree = program >>= next := by
  cases command with
  | check options =>
    obtain rfl := Option.some.inj h
    exact ⟨_, rfl⟩
  | preview options =>
    obtain rfl := Option.some.inj h
    refine ⟨fun settings ↦ do
      let readme := Readme.ofText (← readFile tree options.file)
      let html ← ofExcept .markup (page settings readme)
      options.output.elim (echo html) fun output ↦ do
        writeFile tree output html
        say ("[green]Wrote[/green] " ++ output.text), ?_⟩
    rw [run, PreviewOptions.run, PreviewOptions.settings, bind_assoc]
    refine bind_congr fun theme ↦ ?_
    rw [bind_assoc]
    refine bind_congr fun _ ↦ ?_
    rw [bind_assoc]
    refine bind_congr fun found ↦ Eq.trans ?_ (pure_bind _ _).symm
    cases options.output <;> rfl
  | fix options =>
    obtain rfl := Option.some.inj h
    refine ⟨fun settings ↦ do
      let current ← readFile tree options.file
      options.conclude tree current (repair settings.style current), ?_⟩
    rw [run, FixOptions.run, FixOptions.input, FixOptions.settings]
    simp only [bind_assoc, pure_bind]
  | init options => cases h
  | version => cases h

/-! ## Loaded settings -/

/-- Settings for a target were loaded from somewhere. -/
theorem exists_load_of_settingsFor {settings : Settings}
    (h : (settingsFor tree config target).result = .ok settings) :
    ∃ path, Settings.load tree path = .ok settings := by
  have loads {path : Path} (h : (loaded (Settings.load tree path)).result = .ok settings) :
      ∃ path, Settings.load tree path = .ok settings := by
    refine ⟨path, ?_⟩
    cases hload : Settings.load tree path with
    | ok found =>
      rw [hload] at h
      exact congrArg _ (Except.ok.inj h)
    | error fault =>
      rw [hload] at h
      cases fault with
      | invalid fault => exact absurd h (result_refuse_ne_ok _ _)
      | _ => exact absurd h (result_stop_ne_ok _ _)
  cases config with
  | none => exact loads h
  | some path =>
    obtain ⟨entry, -, h⟩ := result_bind_eq_ok.mp h
    cases entry with
    | none =>
      obtain ⟨_, hrefuse, -⟩ := result_bind_eq_ok.mp h
      exact absurd hrefuse (result_refuse_ne_ok _ _)
    | some entry => exact loads h

/-! ## Well-formed settings -/

/-- The settings that a command works with are well-formed. -/
theorem isWellFormed_of_command {settings : Settings} (hcommand : command.HasScoreInRange)
    (hprogram : command.settings? tree = some program) (h : program.result = .ok settings) :
    IsWellFormed settings.entries := by
  cases command with
  | check options =>
    obtain rfl := Option.some.inj hprogram
    obtain ⟨format, -, h⟩ := result_bind_eq_ok.mp h
    obtain ⟨failOn, -, h⟩ := result_bind_eq_ok.mp h
    obtain ⟨entry, -, h⟩ := result_bind_eq_ok.mp h
    cases entry with
    | none =>
      obtain ⟨_, hrefuse, -⟩ := result_bind_eq_ok.mp h
      exact absurd hrefuse (result_refuse_ne_ok _ _)
    | some entry =>
      obtain ⟨found, hfound, h⟩ := result_bind_eq_ok.mp h
      obtain rfl := Except.ok.inj h
      obtain ⟨path, hload⟩ := exists_load_of_settingsFor hfound
      have hmerged : IsWellFormed
          (found.merged { format, failOn, leastScore := options.leastScore }).entries :=
        isWellFormed_merged (isWellFormed_of_load hload) hcommand
      exact isWellFormed_ignoring hmerged options.ignored
  | preview options =>
    obtain rfl := Option.some.inj hprogram
    obtain ⟨theme, -, h⟩ := result_bind_eq_ok.mp h
    obtain ⟨_, -, h⟩ := result_bind_eq_ok.mp h
    obtain ⟨found, hfound, h⟩ := result_bind_eq_ok.mp h
    obtain rfl := Except.ok.inj h
    obtain ⟨path, hload⟩ := exists_load_of_settingsFor hfound
    have hmerged : IsWellFormed (found.merged { theme, base := options.base }).entries :=
      isWellFormed_merged (isWellFormed_of_load hload) fun n hn ↦ by cases hn
    have hparts := isWellFormed_entries_iff.mp hmerged
    exact isWellFormed_entries_iff.mpr hparts
  | fix options =>
    obtain rfl := Option.some.inj hprogram
    obtain ⟨style, -, h⟩ := result_bind_eq_ok.mp h
    obtain ⟨_, -, h⟩ := result_bind_eq_ok.mp h
    obtain ⟨found, hfound, h⟩ := result_bind_eq_ok.mp h
    obtain rfl := Except.ok.inj h
    obtain ⟨path, hload⟩ := exists_load_of_settingsFor hfound
    exact isWellFormed_merged (isWellFormed_of_load hload) fun n hn ↦ by cases hn
  | init options => cases hprogram
  | version => cases hprogram

end Display

theorem leastScore_of_ofArguments {arguments : List Text} {options : CheckOptions} {n : Nat}
    (h : ofArguments arguments = some (.check options)) (hn : options.leastScore = some n) :
    n ≤ 100 := by
  have hnamed {name : Text} {rest : List Text} (h : named? name rest = some (.check options)) :
      ∃ given, check? given = some (.check options) := by
    unfold named? at h
    split_ifs at h
    · obtain ⟨given, -, h⟩ := Option.bind_eq_some_iff.mp h
      exact ⟨given, h⟩
    · obtain ⟨given, -, h⟩ := Option.bind_eq_some_iff.mp h
      obtain ⟨file, -, h⟩ := Option.bind_eq_some_iff.mp h
      cases h
    · obtain ⟨given, -, h⟩ := Option.bind_eq_some_iff.mp h
      obtain ⟨file, -, h⟩ := Option.bind_eq_some_iff.mp h
      cases h
    · obtain ⟨given, -, h⟩ := Option.bind_eq_some_iff.mp h
      obtain ⟨file, -, h⟩ := Option.bind_eq_some_iff.mp h
      cases h
    · obtain ⟨given, -, h⟩ := Option.bind_eq_some_iff.mp h
      unfold version? at h
      split_ifs at h
      cases h
  have hcheck : ∃ given, check? given = some (.check options) := by
    unfold ofArguments at h
    split at h
    · exact hnamed h
    · exact hnamed h
    · cases h
  obtain ⟨given, hgiven⟩ := hcheck
  obtain ⟨folder, -, hgiven⟩ := Option.bind_eq_some_iff.mp hgiven
  obtain ⟨score, hscore, hgiven⟩ := Option.bind_eq_some_iff.mp hgiven
  cases hgiven
  dsimp only at hn
  subst hn
  unfold score? at hscore
  split at hscore
  · cases hscore
  · obtain ⟨m, -, hm⟩ := Option.bind_eq_some_iff.mp hscore
    split_ifs at hm with hbounds
    simp only [Bool.and_eq_true, decide_eq_true_eq] at hbounds
    have hnat := Option.some.inj (Option.some.inj hm)
    omega

/-- No command that arguments stand for asks for a score above a hundred. -/
theorem hasScoreInRange_of_ofArguments {arguments : List Text} {command : Command}
    (h : ofArguments arguments = some command) : command.HasScoreInRange := by
  cases command with
  | check options => exact fun n ↦ leastScore_of_ofArguments h
  | _ => exact trivial

/-- Settings are well-formed wherever they come from: a table that is accepted, of which each
setting has what its last spelling says or its default value; a file or folder; overrides with
allowed values, each of which is taken while the rest stays; and a command. -/
theorem isWellFormed_effective :
    (∀ (source : Path) (table : Toml.Table) (settings : Settings),
      Settings.ofTable source table = .ok settings →
        IsWellFormed settings.entries ∧ Settings.IsReadFrom source table settings.entries) ∧
    (∀ (tree : Tree) (path : Path) (settings : Settings),
      Settings.load tree path = .ok settings → IsWellFormed settings.entries) ∧
    (∀ entries overrides, IsWellFormed entries → Settings.AreAllowed overrides →
      ∃ merged, Settings.overridden entries overrides = .ok merged ∧ IsWellFormed merged ∧
        Settings.IsOverridden entries overrides merged) ∧
    (∀ (settings : Settings) (given : Settings.Overrides),
      Settings.overridden settings.entries given.byName = .ok (settings.merged given).entries) ∧
    ∀ [Display] (tree : Tree) (command : Command) (program : Transcript Settings)
      (settings : Settings), command.HasScoreInRange → command.settings? tree = some program →
        program.result = .ok settings → IsWellFormed settings.entries :=
  ⟨fun _ _ _ h ↦ ⟨Settings.isWellFormed_of_ofTable h, Settings.isReadFrom_of_ofTable h⟩,
    fun _ _ _ h ↦ isWellFormed_of_load h,
    fun _ _ h hallowed ↦ Settings.overridden_eq_ok h hallowed,
    Settings.overridden_byName,
    fun _ _ _ _ hcommand hprogram h ↦ isWellFormed_of_command hcommand hprogram h⟩

/-- Of two spellings the later one counts, and codes become upper case on both ways. -/
theorem isWellFormed_effective_spellings :
    let content := "fail-on = 'warning'\nfail_on = 'error'\nignore = ['tag']\n"
    let path : Path := { names := [Settings.ownFile] }
    let tree : Tree :=
      ⟨.folder [(Settings.ownFile, .file (content.toList.map fun c ↦ c.toNat.toUInt8))], {}⟩
    let arguments : List Text :=
      ["check", "--min-score", "7", "--ignore", "x"].map String.toList
    let command : Command := .check { leastScore := some 7, ignored := ["x"] }
    let settings : Settings :=
      { leastScore := 7, ignored := ["TAG", "X"], source := some path }
    ofArguments arguments = some command ∧
      (∃ program, command.settings? tree = some program ∧ program.result = .ok settings) ∧
      IsWellFormed settings.entries := by
  intro content path tree arguments command settings
  have hcommand : ofArguments arguments = some command := by decide +kernel
  have hresult : (CheckOptions.settings tree { leastScore := some 7, ignored := ["x"] }).result =
      .ok settings :=
    eq_ok_of_toOption (by decide +kernel)
  obtain ⟨-, -, -, -, hwell⟩ := isWellFormed_effective
  exact ⟨hcommand, ⟨_, rfl, hresult⟩,
    hwell tree command _ settings (hasScoreInRange_of_ofArguments hcommand) rfl hresult⟩

end PluginReadme.Command
