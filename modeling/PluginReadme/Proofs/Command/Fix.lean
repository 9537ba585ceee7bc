import Mathlib.Data.Option.Basic
import PluginReadme.Command.Run
import PluginReadme.Proofs.Command.Transcript
import PluginReadme.Proofs.Repair.Log

/-!
# What the command that repairs says and writes

The command reads the style and the file without a word (`FixOptions.isQuiet_input`), and then all
depends on the log. With an empty log it says that no changes are needed and writes nothing
(`FixOptions.conclude_of_nil`). Otherwise it shows every change, whose message holds no tag that
could stop it (`Repair.bracket_not_mem_message`), and writes the repaired text where that was asked
for (`FixOptions.conclude_of_ne_nil`). What is said is therefore true of tidy files only
(`FixOptions.stays_iff`).
-/

namespace PluginReadme

open Transcript

/-! ## Messages of changes -/

namespace Repair

variable {style : Style} {ls : List Text}

/-- Numbers hold no bracket. -/
theorem bracket_not_mem_ofNat (n : Nat) : '[' ∉ Text.ofNat n := by
  intro h
  exact absurd (Nat.isDigit_of_mem_toDigits (by decide) (by decide) h) (by decide)

/-- Only the language of a block can bring an opening bracket into a message. -/
theorem Change.bracket_not_mem_message {change : Change}
    (h : ∀ language number, change = .removedLanguage language number → '[' ∉ language) :
    '[' ∉ change.message := by
  have append {front back : Text} (hfront : '[' ∉ front) (hback : '[' ∉ back) :
      '[' ∉ front ++ back := List.not_mem_append hfront hback
  have number := bracket_not_mem_ofNat
  cases change with
  | normalizedHeading line => exact append (by decide) (number line)
  | closedHeading line => exact append (by decide) (number line)
  | convertedHashes level line =>
    exact append (append (append (by decide) (number level)) (by decide)) (number line)
  | removedBlock line => exact append (by decide) (number line)
  | inlinedBlock line => exact append (append (by decide) (number line)) (by decide)
  | unifiedIndentation line => exact append (by decide) (number line)
  | normalizedBlock count line =>
    exact append (append (append (by decide) (number count)) (by decide)) (number line)
  | removedLanguage language line =>
    exact append (append (append (by decide) (h language line rfl)) (by decide)) (number line)
  | indentedBlock count line =>
    exact append (append (append (append (by decide) (number count)) (by decide)) (number line))
      (by decide)
  | cutBlankLines => decide

/-- What is logged of a line is no change of a block. -/
theorem removedLanguage_not_mem_line {language content : Text} {number place : Nat} :
    Change.removedLanguage language place ∉ (line number content).changes := by
  intro h
  unfold line at h
  split at h
  · next heading change heq =>
    obtain rfl := List.mem_singleton.mp h
    rw [Option.orElse_eq_some] at heq
    rcases heq with hheading | ⟨-, hhash⟩
    · unfold heading? at hheading
      dsimp only at hheading
      split_ifs at hheading
      all_goals cases hheading
    · unfold hashHeading? at hhash
      split_ifs at hhash
      obtain ⟨_, -, hpair⟩ := Option.map_eq_some_iff.mp hhash
      cases hpair
  · exact absurd h List.not_mem_nil

theorem language_of_mem_block {current : Block} {language : Text} {number : Nat}
    (h : Change.removedLanguage language number ∈ (block style current).changes) :
    language = current.language := by
  obtain ⟨place, word, code, closed⟩ := current
  match code with
  | [] => exact absurd (List.mem_singleton.mp h) (by simp)
  | [source] => exact absurd (List.mem_singleton.mp h) (by simp)
  | first :: second :: more =>
    cases style with
    | indented =>
      simp only [block, List.mem_append, List.mem_ite_nil_left, List.mem_ite_nil_right,
        List.mem_singleton, reduceCtorEq, and_false, false_or, or_false] at h
      exact (Change.removedLanguage.inj h.2).1
    | fenced =>
      simp only [block, List.mem_append, List.mem_ite_nil_right, List.mem_singleton, reduceCtorEq,
        and_false, or_false] at h

/-- A language that is logged is one word. -/
theorem isWordChar_of_removedLanguage {language : Text} {number : Nat}
    (h : Change.removedLanguage language number ∈ (lines style ls).changes) :
    ∀ c ∈ language, isWordChar c = true := by
  rcases List.mem_append.mp h with h | h
  · obtain ⟨outcome, houtcome, hchange⟩ := List.mem_flatMap.mp h
    obtain ⟨c, hc, rfl⟩ := List.mem_map.mp houtcome
    have hcut := isCut_of_mem_chunks hc
    cases c with
    | line place content => exact absurd hchange removedLanguage_not_mem_line
    | block current =>
      obtain ⟨place, word, code, closed⟩ := current
      rw [language_of_mem_block hchange]
      exact (opening?_eq_some hcut.1).2
  · rw [cutBlanks] at h
    dsimp only at h
    split_ifs at h
    · exact absurd (List.mem_singleton.mp h) (by simp)
    · exact absurd h List.not_mem_nil

/-- No message of a change holds a tag. -/
theorem bracket_not_mem_message {change : Change} (h : change ∈ (lines style ls).changes) :
    '[' ∉ change.message := by
  apply change.bracket_not_mem_message
  rintro language number rfl hbracket
  exact absurd (isWordChar_of_removedLanguage h _ hbracket) (by decide)

end Repair

namespace Command

section Display

variable [Display]

/-! ## What is read -/

theorem isQuiet_chosen {α : Type} (option : Text) (choices : List (Text × α)) (name : Option Text) :
    IsQuiet (chosen option choices name) := by
  unfold chosen
  split
  · exact isQuiet_pure _
  · split
    · exact isQuiet_pure _
    · exact isQuiet_refuse _

theorem isQuiet_requireFile (tree : Tree) (path : Path) : IsQuiet (requireFile tree path) := by
  refine (isQuiet_look tree path).bind fun entry ↦ ?_
  cases entry with
  | none => exact isQuiet_refuse _
  | some entry =>
    dsimp only
    split
    · exact isQuiet_refuse _
    · exact isQuiet_pure _

theorem isQuiet_loaded (result : Except Settings.LoadFault Settings) : IsQuiet (loaded result) := by
  unfold loaded
  split
  · exact isQuiet_pure _
  · exact isQuiet_refuse _
  · exact isQuiet_stop _

theorem isQuiet_settingsFor (tree : Tree) (config : Option Path) (target : Path) :
    IsQuiet (settingsFor tree config target) := by
  cases config with
  | none => exact isQuiet_loaded _
  | some path =>
    refine (isQuiet_look tree path).bind fun entry ↦ ?_
    cases entry with
    | none => exact (isQuiet_refuse _).bind fun _ ↦ isQuiet_loaded _
    | some entry => exact isQuiet_loaded _

namespace FixOptions

variable {tree : Tree} {options : FixOptions} {style : Repair.Style} {t : Text}

/-- The style and the file are read without a word. -/
theorem isQuiet_input (tree : Tree) (options : FixOptions) : IsQuiet (options.input tree) := by
  refine (isQuiet_chosen _ _ _).bind fun _ ↦ (isQuiet_requireFile _ _).bind fun _ ↦ ?_
  exact (isQuiet_settingsFor _ _ _).bind fun _ ↦ (isQuiet_readFile _ _).bind fun _ ↦ isQuiet_pure _

/-- With an input, a repair is its conclusion. -/
theorem run_of_input (h : (options.input tree).result = .ok (style, t)) :
    options.run tree = options.conclude tree t (repair style t) := by
  rw [run, isQuiet_input tree options _ h]
  rfl

theorem writeFault?_of_input (h : (options.input tree).result = .ok (style, t)) :
    tree.writeFault? options.file = none := by
  obtain ⟨_, -, h⟩ := result_bind_eq_ok.mp h
  obtain ⟨_, -, h⟩ := result_bind_eq_ok.mp h
  obtain ⟨_, -, h⟩ := result_bind_eq_ok.mp h
  obtain ⟨current, hread, -⟩ := result_bind_eq_ok.mp h
  exact writeFault?_of_readFile hread

/-! ## What is said and written -/

/-- The message that there is nothing to do is printed as one line. -/
def SaysNoChanges : Prop :=
  Display.lines width "[green]No changes needed.[/green]" = .ok ["No changes needed."]

/-- Without changes the program says so, writes nothing and is done. -/
theorem conclude_of_nil {repaired : Repaired} (hsilent : SaysNoChanges)
    (h : repaired.changes = []) :
    options.conclude tree t repaired = ⟨"No changes needed.\n", [], .error (.exit 0)⟩ := by
  unfold conclude
  dsimp only
  rw [h, if_pos (by rfl), say_of_lines hsilent, put_bind]
  rfl

/-- Changes are shown, each on lines that start with a space, and the new text is written. -/
theorem conclude_of_ne_nil [LawfulDisplay] {repaired : Repaired} (h : repaired.changes ≠ [])
    (hbracket : ∀ change ∈ repaired.changes, '[' ∉ change.message) (hwrite : options.write = true)
    (htext : repaired.text ≠ t) (hfault : tree.writeFault? options.file = none) :
    (∃ rest, (options.conclude tree t repaired).output = ' ' :: rest) ∧
      (options.conclude tree t repaired).writes = [(options.file, repaired.text)] := by
  have hmessage : ∀ change ∈ repaired.changes, '[' ∉ (" • " ++ change.message : Text) :=
    fun change hchange ↦ List.not_mem_append (by decide) (hbracket change hchange)
  obtain ⟨shown, hshown, hspace⟩ := exists_forM_say hmessage
  change (repaired.changes.forM fun change ↦ say ("  • " ++ change.message)) = _ at hshown
  have hwritten : (writeFile tree options.file repaired.text >>= fun _ ↦
      say ("[green]Updated[/green] " ++ options.file.text)).writes =
        [(options.file, repaired.text)] := by
    rw [writeFile, hfault]
    change [(options.file, repaired.text)] ++ (say _).writes = _
    rw [writes_say, List.append_nil]
  obtain ⟨rest, rfl⟩ := hspace h
  unfold conclude
  dsimp only
  rw [if_neg (by simpa using h), hshown, put_bind, hwrite, if_pos rfl,
    if_pos (bne_iff_ne.mpr htext)]
  split_ifs
  · refine ⟨⟨_, rfl⟩, ?_⟩
    rw [echo, put_bind]
    exact hwritten
  · exact ⟨⟨_, rfl⟩, hwritten⟩

end FixOptions

end Display

namespace FixOptions

/-- A repair gives a text back if and only if it logs nothing and the text is tidy. With leave to
write, the command writes nothing where it says that no changes are needed, and the repaired text
everywhere else; so what it says means that the file equals its repair exactly for tidy files. -/
theorem stays_iff (style : Repair.Style) (t : Text) :
    ((repair style t).text = t ↔ (repair style t).changes = [] ∧ IsTidy t) ∧
      ∀ [Display] [LawfulDisplay] (tree : Tree) (options : FixOptions), SaysNoChanges →
        (options.input tree).result = .ok (style, t) → options.write = true →
          ((options.run tree).output = "No changes needed.\n" ↔ (repair style t).changes = []) ∧
          ((options.run tree).output = "No changes needed.\n" ∧ IsTidy t ↔
            (repair style t).text = t) ∧
          (options.run tree).writes = if (repair style t).changes = [] then []
            else [(options.file, (repair style t).text)] := by
  refine ⟨text_repair_eq_iff style t, fun tree options hsilent hinput hwrite ↦ ?_⟩
  rw [run_of_input hinput, text_repair_eq_iff]
  by_cases h : (repair style t).changes = []
  · rw [conclude_of_nil hsilent h, if_pos h]
    simp [h]
  · have htext : (repair style t).text ≠ t := fun heq ↦ h ((text_repair_eq_iff style t).mp heq).1
    obtain ⟨⟨rest, houtput⟩, hwrites⟩ := conclude_of_ne_nil h
      (fun change ↦ Repair.bracket_not_mem_message) hwrite htext (writeFault?_of_input hinput)
    rw [houtput, hwrites, if_neg h]
    simp [h]

/-- A heading is closed in the file. -/
theorem stays_iff_heading :
    let tree : Tree := ⟨.folder [("a".toList, .file [0x3D, 0x41, 0x3D])], {}⟩
    let options : FixOptions := { file := { names := ["a"] }, write := true }
    SaysNoChanges ∧
      (options.input tree).result = .ok (.indented, "=A=".toList) ∧ options.write = true ∧
      (options.run tree).output ≠ "No changes needed.\n".toList ∧
      (options.run tree).writes = [({ names := ["a"] }, "= A =".toList)] := by
  intro tree options
  have hsilent : SaysNoChanges := by
    unfold SaysNoChanges
    decide +kernel
  have hinput : (options.input tree).result = .ok (.indented, "=A=".toList) := by rfl
  have hchanges : (repair .indented "=A=".toList).changes = [.normalizedHeading 1] := by decide
  obtain ⟨-, hcommand⟩ := stays_iff .indented "=A=".toList
  obtain ⟨houtput, -, hwrites⟩ := hcommand tree options hsilent hinput rfl
  refine ⟨hsilent, hinput, rfl, ?_, ?_⟩
  · rw [Ne, houtput, hchanges]
    simp
  · rw [hwrites, hchanges]
    decide

/-- In neither style does the log tell of every change: one space is repaired to nothing. -/
theorem not_changes_eq_nil_iff :
    ¬∃ style : Repair.Style, ∀ t : Text,
      (repair style t).changes = [] ↔ (repair style t).text = t := by
  rintro ⟨style, h⟩
  have hspace : (repair style " ").changes = [] ∧ (repair style " ").text ≠ " ".toList := by
    cases style <;> decide
  exact hspace.2 ((h " ").mp hspace.1)

end FixOptions

end Command

end PluginReadme
