import Mathlib.Data.List.Forall2
import PluginReadme.Command.Transcript
import PluginReadme.Proofs.Terminal.Display

/-!
# Steps of a command

A command goes on only with a result (`result_bind_eq_ok`). The steps that look something up are
quiet: where they give a result, they have printed and written nothing (`IsQuiet`), and steps that
are quiet make a quiet command. A message is printed line by line (`say_of_lines`), and no message
writes a file. A step that need not give a result, but then makes the program fail, is known by what
it says of its results (`EndsIn`).
-/

namespace PluginReadme.Transcript

open Command

variable {α β : Type}

/-! ## Results -/

theorem bind_eq_andThen (x : Transcript α) (next : α → Transcript β) :
    x >>= next = andThen x next := rfl

/-- Two steps in a row have a result exactly if both of them have. -/
theorem result_bind_eq_ok {x : Transcript α} {next : α → Transcript β} {b : β} :
    (x >>= next).result = .ok b ↔ ∃ a, x.result = .ok a ∧ (next a).result = .ok b := by
  rw [bind_eq_andThen, andThen]
  cases x.result with
  | ok a => simp
  | error s => simp

theorem result_stop_ne_ok (s : Stop) (a : α) : (stop s : Transcript α).result ≠ .ok a := by
  intro h
  cases h

theorem result_refuse_ne_ok [Display] (message : Text) (a : α) :
    (refuse message : Transcript α).result ≠ .ok a := by
  intro h
  obtain ⟨_, -, hexit⟩ := result_bind_eq_ok.mp h
  exact result_stop_ne_ok (.exit 1) a hexit

/-! ## Quiet steps -/

/-- Nothing is printed or written on the way to a result. -/
def IsQuiet (x : Transcript α) : Prop := ∀ a, x.result = .ok a → x = pure a

theorem isQuiet_pure (a : α) : IsQuiet (pure a : Transcript α) := by
  intro b hb
  rw [show b = a from (Except.ok.inj hb).symm]

theorem isQuiet_stop (s : Stop) : IsQuiet (stop s : Transcript α) :=
  fun a h ↦ absurd h (result_stop_ne_ok s a)

/-- Two quiet steps in a row are quiet. -/
theorem IsQuiet.bind {x : Transcript α} {next : α → Transcript β} (hx : IsQuiet x)
    (hnext : ∀ a, IsQuiet (next a)) : IsQuiet (x >>= next) := by
  intro b hb
  obtain ⟨a, ha, hrest⟩ := result_bind_eq_ok.mp hb
  rw [hx a ha, bind_eq_andThen, andThen_pure]
  exact hnext a b hrest

/-- A refusal prints nothing on the way to a result, for it has none. -/
theorem isQuiet_refuse [Display] (message : Text) : IsQuiet (refuse message : Transcript α) :=
  fun a h ↦ absurd h (result_refuse_ne_ok message a)

theorem isQuiet_look (tree : Tree) (path : Path) : IsQuiet (look tree path) := by
  unfold look
  split
  · exact isQuiet_pure _
  · exact isQuiet_stop _
  · exact isQuiet_pure _

theorem isQuiet_readFile [Display] (tree : Tree) (path : Path) :
    IsQuiet (readFile tree path) := by
  unfold readFile
  dsimp only
  split
  · exact isQuiet_refuse _
  · exact isQuiet_refuse _
  · split
    · exact isQuiet_pure _
    · exact isQuiet_refuse _

/-- A file that was read can be written. -/
theorem writeFault?_of_readFile [Display] {tree : Tree} {path : Path} {t : Text}
    (h : (readFile tree path).result = .ok t) : tree.writeFault? path = none := by
  unfold readFile at h
  dsimp only at h
  split at h
  · exact absurd h (result_refuse_ne_ok _ t)
  · exact absurd h (result_refuse_ne_ok _ t)
  · next content hfind =>
    rw [Tree.writeFault?, hfind]
    rfl

/-! ## Results or failures -/

instance : LawfulMonad Transcript := LawfulMonad.mk' Transcript
  (fun ⟨output, writes, result⟩ ↦ by
    cases result with
    | ok a => simp [Functor.map, andThen]
    | error s => rfl)
  (fun a next ↦ andThen_pure a next)
  (fun ⟨output, writes, result⟩ next last ↦ by
    cases result with
    | ok a =>
      simp only [bind_eq_andThen, andThen]
      cases (next a).result with
      | ok b => simp [List.append_assoc]
      | error s => rfl
    | error s => rfl)

/-- The result, if there is one, has the property; without a result the program fails. -/
def EndsIn (x : Transcript α) (holds : α → Prop) : Prop :=
  match x.result with
  | .ok a => holds a
  | .error s => s.code = 1

theorem endsIn_of_result {x : Transcript α} {a : α} (h : x.result = .ok a) :
    EndsIn x (· = a) := by
  rw [EndsIn, h]

theorem endsIn_pure {a : α} {holds : α → Prop} (ha : holds a) :
    EndsIn (pure a : Transcript α) holds := ha

/-- What holds of the result of one step may be used for the next. -/
theorem EndsIn.bind {x : Transcript α} {next : α → Transcript β} {before : α → Prop}
    {after : β → Prop} (hx : EndsIn x before) (hnext : ∀ a, before a → EndsIn (next a) after) :
    EndsIn (x >>= next) after := by
  rw [bind_eq_andThen, andThen]
  rw [EndsIn] at hx
  cases hresult : x.result with
  | ok a =>
    rw [hresult] at hx
    exact hnext a hx
  | error s =>
    rw [hresult] at hx
    exact hx

theorem endsIn_ofExcept {ε : Type} (cause : ε → Failure) (x : Except ε α) :
    EndsIn (ofExcept cause x) fun _ ↦ True := by
  cases x with
  | ok a => exact trivial
  | error fault => exact (rfl : (Stop.failure _).code = 1)

theorem EndsIn.forM {f : α → Transcript Unit} {as : List α}
    (h : ∀ a ∈ as, EndsIn (f a) fun _ ↦ True) : EndsIn (as.forM f) fun _ ↦ True := by
  induction as with
  | nil => exact trivial
  | cons a as ih =>
    obtain ⟨ha, hrest⟩ := List.forall_mem_cons.mp h
    exact ha.bind fun _ _ ↦ ih hrest

/-- Steps that are taken one by one give one result each. -/
theorem result_mapM_eq_ok {f : α → Transcript β} {as : List α} {bs : List β} :
    (as.mapM f).result = .ok bs ↔ List.Forall₂ (fun a b ↦ (f a).result = .ok b) as bs := by
  induction as generalizing bs with
  | nil =>
    rw [List.mapM_nil, List.forall₂_nil_left_iff]
    exact ⟨fun h ↦ (Except.ok.inj h).symm, fun h ↦ h ▸ rfl⟩
  | cons a as ih =>
    rw [List.mapM_cons, result_bind_eq_ok, List.forall₂_cons_left_iff]
    refine exists_congr fun b ↦ ?_
    rw [result_bind_eq_ok]
    constructor
    · rintro ⟨hb, more, hmore, heq⟩
      exact ⟨more, hb, ih.mp hmore, (Except.ok.inj heq).symm⟩
    · rintro ⟨more, hb, hmore, rfl⟩
      exact ⟨hb, more, ih.mpr hmore, rfl⟩

/-- Steps over a list end in the list of what each of them ends in. -/
theorem EndsIn.mapM {f : α → Transcript β} {as : List α} {bs : List β}
    (h : List.Forall₂ (fun a b ↦ EndsIn (f a) (· = b)) as bs) : EndsIn (as.mapM f) (· = bs) := by
  induction h with
  | nil => exact endsIn_pure rfl
  | cons hstep _ ih =>
    rw [List.mapM_cons]
    refine hstep.bind fun b hb ↦ ih.bind fun more hmore ↦ ?_
    exact endsIn_pure (by rw [hb, hmore])

/-- A message is printed, or the program fails. -/
theorem endsIn_say [Display] (message : Text) : EndsIn (say message) fun _ ↦ True :=
  (endsIn_ofExcept .style _).bind fun _ _ ↦ trivial

/-! ## Messages -/

theorem put_bind (t : Text) (next : Unit → Transcript α) :
    put t >>= next = ⟨t ++ (next ()).output, (next ()).writes, (next ()).result⟩ := by
  rw [bind_eq_andThen]
  simp [andThen, put]

def lineText (ls : List Text) : Text := ls.flatMap fun line ↦ line ++ ['\n']

section Display

variable [Display]

/-- A message whose styles can be read is printed line by line. -/
theorem say_of_lines {message : Text} {ls : List Text} (h : Display.lines width message = .ok ls) :
    say message = put (lineText ls) := by
  rw [say, h]
  rfl

/-- A message whose styles cannot be read makes the program fail. -/
theorem say_of_error {message : Text} {fault : StyleFault}
    (h : Display.lines width message = .error fault) : say message = failure (.style fault) := by
  rw [say, h]
  rfl

theorem writes_say (message : Text) : (say message).writes = [] := by
  cases h : Display.lines width message with
  | ok ls =>
    rw [say_of_lines h]
    rfl
  | error fault =>
    rw [say_of_error h]
    rfl

/-- Messages without tags that start with a space are all printed, with a space in front. -/
theorem exists_forM_say [LawfulDisplay] {message : α → Text} {as : List α}
    (h : ∀ a ∈ as, '[' ∉ message a) :
    ∃ t, (as.forM fun a ↦ say (' ' :: message a)) = put t ∧
      (as ≠ [] → ∃ rest, t = ' ' :: rest) := by
  induction as with
  | nil => exact ⟨[], rfl, fun hne ↦ absurd rfl hne⟩
  | cons a as ih =>
    obtain ⟨ha, hrest⟩ := List.forall_mem_cons.mp h
    obtain ⟨line, more, hlines⟩ := LawfulDisplay.indents (show 0 < width by decide) ha
    obtain ⟨t, ht, -⟩ := ih hrest
    refine ⟨lineText ((' ' :: line) :: more) ++ t, ?_, fun _ ↦ ⟨_, rfl⟩⟩
    change (say (' ' :: message a) >>= fun _ ↦ as.forM fun a ↦ say (' ' :: message a)) = _
    rw [say_of_lines hlines, ht, put_bind]
    rfl

end Display

end PluginReadme.Transcript
