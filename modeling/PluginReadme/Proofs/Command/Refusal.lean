import PluginReadme.Proofs.Command.Settings
import PluginReadme.Proofs.Settings.Readable

/-!
# What commands do with wrong settings

A command that comes to its settings (`LoadsFrom`) depends on how they are loaded and on nothing
else at that point. It refuses wrong settings with a message and exit code 1, if the message can be
told: the message holds names and paths as they are, so that it may have tags that the display does
not take. Where loading gives no answer, the command breaks off (`Command.refuses_of_load`,
`Command.breaksOff_of_load`). Whether loading answers does not depend on the display.
-/

namespace PluginReadme

namespace Transcript

open Command

variable {α β : Type} {message : Text}

/-! ## Refusals -/

section Display

variable [Display]

def errorLine (message : Text) : Text := "[red]Error:[/red] " ++ message

/-- The error line with the message can be printed. -/
def IsTold (message : Text) : Prop := ∃ ls, Display.lines width (errorLine message) = .ok ls

/-- The program prints an error line with the message and stops with exit code 1. -/
structure Refuses (program : Transcript α) (message : Text) : Prop where
  result : program.result = .error (.exit 1)
  writes : program.writes = []
  output : ∃ ls, Display.lines width (errorLine message) = .ok ls ∧ program.output = lineText ls

end Display

/-- The program stops without a word, and not by an exit code. -/
structure BreaksOff (program : Transcript α) : Prop where
  result : ∃ failure, program.result = .error (.failure failure)
  writes : program.writes = []
  output : program.output = []

theorem stop_bind (s : Stop) (next : α → Transcript β) : stop s >>= next = stop s :=
  andThen_stop s next

section Display

variable [Display]

theorem refuse_bind (message : Text) (next : α → Transcript β) :
    refuse message >>= next = refuse message := by
  rw [refuse, refuse, bind_assoc]
  exact bind_congr fun _ ↦ stop_bind (.exit 1) next

/-- A message that can be printed is an error line. -/
theorem refuses_of_isTold (h : IsTold message) :
    Refuses (refuse message : Transcript α) message := by
  obtain ⟨ls, hls⟩ := h
  have hrefuse : (refuse message : Transcript α) = ⟨lineText ls, [], .error (.exit 1)⟩ := by
    change (say (errorLine message) >>= fun _ ↦ exit 1) = _
    rw [say_of_lines hls, put_bind]
    change Transcript.mk (_ ++ []) [] _ = _
    rw [List.append_nil]
    rfl
  rw [hrefuse]
  exact ⟨rfl, rfl, ls, hls, rfl⟩

/-- A message that cannot be printed leaves no line. -/
theorem breaksOff_of_not_isTold (h : ¬ IsTold message) :
    BreaksOff (refuse message : Transcript α) := by
  cases hlines : Display.lines width (errorLine message) with
  | ok ls => exact absurd ⟨ls, hlines⟩ h
  | error fault =>
    have hrefuse : (refuse message : Transcript α) = failure (.style fault) := by
      change (say (errorLine message) >>= fun _ ↦ exit 1) = _
      rw [say_of_error hlines]
      rfl
    rw [hrefuse]
    exact ⟨⟨_, rfl⟩, rfl, rfl⟩

/-- A message without an opening bracket can be told. -/
theorem isTold_of_not_mem [LawfulDisplay] (h : '[' ∉ message) : IsTold message := by
  have hrest : '[' ∉ (" " ++ message : Text) := List.not_mem_append (by decide) h
  have hline : IsStyled (styled "red" "Error:" ++ (" " ++ message)) :=
    .part (by decide) (.inl (by decide)) (.bare hrest)
  exact LawfulDisplay.prints (by decide) hline

end Display

end Transcript

namespace Command

open Transcript

/-! ## Commands that come to their settings -/

/-- An option with a few choices has one of them, if it was given. -/
def IsChoice {α : Type} (choices : List (Text × α)) (given : Option Text) : Prop :=
  ∀ name, given = some name → (choices.lookup name).isSome = true

def Stands (tree : Tree) (path : Path) : Prop := ∃ entry, tree.find path = .ok entry

def settingsPath (tree : Tree) (config : Option Path) (target : Path) : Path :=
  config.getD (if tree.hasFolder target then target else target.parent)

/-- The command loads its settings from the path: its options with choices have one of them, and
what it works on stands in the tree, as does the file that it names for the settings. -/
inductive LoadsFrom (tree : Tree) : Command → Path → Prop
  | check (options : CheckOptions) (format : IsChoice ReportFormat.choices options.format)
      (failOn : IsChoice FailLevel.choices options.failOn) (target : Stands tree options.target)
      (config : ∀ path, options.config = some path → Stands tree path) :
      LoadsFrom tree (.check options) (settingsPath tree options.config options.target)
  | preview (options : PreviewOptions) (theme : IsChoice Page.Theme.choices options.theme)
      (file : tree.hasFile options.file = true)
      (config : ∀ path, options.config = some path → Stands tree path) :
      LoadsFrom tree (.preview options) (settingsPath tree options.config options.file)
  | fix (options : FixOptions) (style : IsChoice Repair.Style.choices options.style)
      (file : tree.hasFile options.file = true)
      (config : ∀ path, options.config = some path → Stands tree path) :
      LoadsFrom tree (.fix options) (settingsPath tree options.config options.file)

variable {tree : Tree} {command : Command} {path target : Path} {config : Option Path}

theorem exists_look (h : Stands tree path) : ∃ entry, look tree path = pure (some entry) := by
  obtain ⟨entry, hentry⟩ := h
  exact ⟨entry, by rw [look, hentry]⟩

/-- A check without options loads the settings for the working folder. -/
theorem loadsFrom_check (h : tree.hasFolder {} = true) : LoadsFrom tree (.check {}) {} := by
  have hstands : Stands tree {} := by
    rw [Tree.hasFolder, Tree.find?] at h
    cases hfind : tree.find {} with
    | ok entry => exact ⟨entry, hfind⟩
    | error fault =>
      rw [hfind] at h
      cases h
  have hpath : settingsPath tree none {} = {} := if_pos h
  have hcheck : LoadsFrom tree (.check {}) (settingsPath tree none {}) :=
    .check {} (fun _ h ↦ by cases h) (fun _ h ↦ by cases h) hstands fun _ h ↦ by cases h
  rwa [hpath] at hcheck

section Display

variable [Display]

theorem exists_chosen {α : Type} {choices : List (Text × α)} {given : Option Text}
    (h : IsChoice choices given) (option : Text) :
    ∃ value, chosen option choices given = pure value := by
  cases given with
  | none => exact ⟨none, rfl⟩
  | some name =>
    obtain ⟨value, hvalue⟩ := Option.isSome_iff_exists.mp (h name rfl)
    refine ⟨some value, ?_⟩
    rw [chosen, hvalue]

theorem requireFile_of_hasFile (h : tree.hasFile path = true) :
    requireFile tree path = pure () := by
  rw [Tree.hasFile, Tree.find?] at h
  cases hfind : tree.find path with
  | error fault =>
    rw [hfind] at h
    cases h
  | ok entry =>
    rw [hfind] at h
    have hfile : (!entry.isFolder) = true := h
    rw [Bool.not_eq_true'] at hfile
    have hlook : look tree path = pure (some entry) := by rw [look, hfind]
    rw [requireFile, hlook, pure_bind]
    dsimp only
    rw [hfile, if_neg Bool.false_ne_true]

/-- The settings for a target are loaded from one path. -/
theorem settingsFor_eq (h : ∀ path, config = some path → Stands tree path) (target : Path) :
    settingsFor tree config target =
      loaded (Settings.load tree (settingsPath tree config target)) := by
  cases config with
  | none => rfl
  | some path =>
    obtain ⟨entry, hentry⟩ := exists_look (h path rfl)
    unfold settingsFor
    dsimp only
    rw [hentry, pure_bind]
    rfl

variable [Ignore.Matcher] [LinkDefinition.Collector]

/-- A command that comes to its settings goes on with what is loaded. -/
theorem exists_run_eq_loaded (h : LoadsFrom tree command path) :
    ∃ next, command.run tree = loaded (Settings.load tree path) >>= next := by
  have hprogram : ∃ program, command.settings? tree = some program ∧
      ∃ next, program = loaded (Settings.load tree path) >>= next := by
    cases h with
    | check options format failOn target config =>
      obtain ⟨format, hformat⟩ := exists_chosen format "--format"
      obtain ⟨failOn, hfailOn⟩ := exists_chosen failOn "--fail-on"
      obtain ⟨entry, hentry⟩ := exists_look target
      refine ⟨_, rfl, ?_⟩
      rw [CheckOptions.settings, hformat, pure_bind, hfailOn, pure_bind, hentry, pure_bind,
        settingsFor_eq config]
      exact ⟨_, rfl⟩
    | preview options theme file config =>
      obtain ⟨theme, htheme⟩ := exists_chosen theme "--theme"
      refine ⟨_, rfl, ?_⟩
      rw [PreviewOptions.settings, htheme, pure_bind, requireFile_of_hasFile file, pure_bind,
        settingsFor_eq config]
      exact ⟨_, rfl⟩
    | fix options style file config =>
      obtain ⟨style, hstyle⟩ := exists_chosen style "--style"
      refine ⟨_, rfl, ?_⟩
      rw [FixOptions.settings, hstyle, pure_bind, requireFile_of_hasFile file, pure_bind,
        settingsFor_eq config]
      exact ⟨_, rfl⟩
  obtain ⟨program, hsettings, next, hnext⟩ := hprogram
  obtain ⟨last, hrun⟩ := exists_run_eq hsettings
  rw [hrun, hnext, bind_assoc]
  exact ⟨_, rfl⟩

/-! ## Wrong settings -/

variable {fault : Settings.LoadFault}

/-- Wrong settings are refused with the message about them. -/
theorem run_of_invalid {f : Settings.Fault} (h : LoadsFrom tree command path)
    (hload : Settings.load tree path = .error (.invalid f)) :
    command.run tree = refuse f.message := by
  obtain ⟨next, hrun⟩ := exists_run_eq_loaded h
  rw [hrun, hload]
  exact refuse_bind f.message next

/-- Any other fault of loading is a failure of the command. -/
theorem run_of_fault (h : LoadsFrom tree command path)
    (hload : Settings.load tree path = .error fault) (hfault : ∀ f, fault ≠ .invalid f) :
    command.run tree = failure (.settings fault) := by
  obtain ⟨next, hrun⟩ := exists_run_eq_loaded h
  rw [hrun, hload]
  cases fault with
  | invalid f => exact absurd rfl (hfault f)
  | _ => exact stop_bind _ next

/-- Where loading tells what is wrong and the message can be told, the command refuses. -/
theorem refuses_of_load {f : Settings.Fault} (h : LoadsFrom tree command path)
    (hload : Settings.load tree path = .error (.invalid f)) (htold : IsTold f.message) :
    Refuses (command.run tree) f.message := by
  rw [run_of_invalid h hload]
  exact refuses_of_isTold htold

/-- In every other case of a fault the command breaks off without a word. -/
theorem breaksOff_of_load (h : LoadsFrom tree command path)
    (hload : Settings.load tree path = .error fault)
    (hnone : ∀ f, fault = .invalid f → ¬ IsTold f.message) : BreaksOff (command.run tree) := by
  by_cases hinvalid : ∃ f, fault = .invalid f
  · obtain ⟨f, rfl⟩ := hinvalid
    rw [run_of_invalid h hload]
    exact breaksOff_of_not_isTold (hnone f rfl)
  · rw [run_of_fault h hload fun f hf ↦ hinvalid ⟨f, hf⟩]
    exact ⟨⟨_, rfl⟩, rfl, rfl⟩

end Display

/-- Loading answers, with settings or with what is wrong with them, if and only if the content of
the file can be read. On any display, a command that comes to its settings answers wrong ones with
an error line and exit code 1 if loading tells what is wrong and the message can be told, as a
lawful display tells all messages without brackets; otherwise it breaks off without a word. -/
theorem refuses_or_breaksOff (tree : Tree) (path : Path) :
    (Settings.IsAnswered (Settings.load tree path) ↔
      ∀ source content, Settings.loadedFile? tree path = some (source, content) →
        Settings.IsReadable source content) ∧
    ∀ [Display] [Ignore.Matcher] [LinkDefinition.Collector] (command : Command)
        (fault : Settings.LoadFault),
      LoadsFrom tree command path → Settings.load tree path = .error fault →
        (∀ f, fault = .invalid f → IsTold f.message → Refuses (command.run tree) f.message) ∧
        (∀ [LawfulDisplay] (f : Settings.Fault), fault = .invalid f → '[' ∉ f.message →
          Refuses (command.run tree) f.message) ∧
        ((∀ f, fault = .invalid f → ¬ IsTold f.message) → BreaksOff (command.run tree)) := by
  refine ⟨Settings.isAnswered_load_iff, fun command fault h hload ↦ ⟨?told, ?plain, ?broken⟩⟩
  case told =>
    rintro f rfl htold
    exact refuses_of_load h hload htold
  case plain =>
    rintro _ f rfl hplain
    exact refuses_of_load h hload (isTold_of_not_mem hplain)
  case broken => exact breaksOff_of_load h hload

/-- A setting that is not known is refused, and a project file whose tools are no table is not. -/
theorem refuses_or_breaksOff_tables :
    let own : Tree := ⟨.folder [(Settings.ownFile, .file [0x78, 0x3D, 0x31])], {}⟩
    let project : Tree :=
      ⟨.folder [(Settings.projectFile, .file [0x74, 0x6F, 0x6F, 0x6C, 0x3D, 0x33])], {}⟩
    let fault : Settings.Fault :=
      { key := "x", source := { names := [Settings.ownFile] }, cause := .unknownOption }
    (LoadsFrom own (.check {}) {} ∧
      Settings.load own {} = .error (.invalid fault) ∧ Refuses (run own (.check {})) fault.message ∧
      (run own (.check {})).output =
        "Error: Invalid value for 'x' in .wp-readme.toml: unknown option\n") ∧
    LoadsFrom project (.check {}) {} ∧
      Settings.load project {} = .error (.notTools "int") ∧
      BreaksOff (run project (.check {})) := by
  intro own project fault
  have hown : LoadsFrom own (.check {}) {} := loadsFrom_check rfl
  have hproject : LoadsFrom project (.check {}) {} := loadsFrom_check rfl
  have hunknown : Settings.load own {} = .error (.invalid fault) := by decide +kernel
  have htools : Settings.load project {} = .error (.notTools "int") := by decide +kernel
  obtain ⟨-, hcommands⟩ := refuses_or_breaksOff own {}
  obtain ⟨-, hplain, -⟩ := hcommands (.check {}) _ hown hunknown
  obtain ⟨-, hcommands⟩ := refuses_or_breaksOff project {}
  obtain ⟨-, -, hbreaks⟩ := hcommands (.check {}) _ hproject htools
  have hrefuses : Refuses (run own (.check {})) fault.message :=
    hplain fault rfl (by decide +kernel)
  have hline : Display.lines width (errorLine fault.message) =
      .ok ["Error: Invalid value for 'x' in .wp-readme.toml: unknown option"] := by
    decide +kernel
  obtain ⟨ls, hls, houtput⟩ := hrefuses.output
  obtain rfl := Except.ok.inj (hline.symm.trans hls)
  exact ⟨⟨hown, hunknown, hrefuses, houtput⟩, hproject, htools, hbreaks fun f h ↦ by cases h⟩

/-- A settings file with a byte that is no text has no answer, and the command breaks off. -/
theorem breaksOff_of_stray_byte :
    let tree : Tree := ⟨.folder [(Settings.ownFile, .file [0xFF])], {}⟩
    ¬Settings.IsAnswered (Settings.load tree {}) ∧ BreaksOff (run tree (.check {})) := by
  intro tree
  have hload : Settings.load tree {} =
      .error (.notText { cause := .start, offset := 0, count := 1, byte := 0xFF }) := by
    decide +kernel
  rw [run_of_fault (loadsFrom_check rfl) hload (fun f h ↦ by cases h), hload]
  exact ⟨id, ⟨_, rfl⟩, rfl, rfl⟩

end Command

end PluginReadme
