import PluginReadme.Ignore.Pattern
import PluginReadme.Report.Overview
import PluginReadme.Settings.File

/-!
# Transcripts

What a command does, as a value: the text that it prints, the files that it writes, and a result or
the reason why it stopped. What was printed before it stopped stays printed.
-/

namespace PluginReadme

namespace Command

/-- Why a command breaks off without a message of its own. -/
inductive Failure where
  | style (fault : StyleFault)
  | markup (fault : Markup.Fault)
  | settings (fault : Settings.LoadFault)
  | pattern (fault : Ignore.Fault)
  | system (path : Path) (fault : OpenFault)

def Failure.message : Failure → Text
  | .style fault => fault.message
  | .markup fault => fault.message
  | .settings fault => fault.message
  | .pattern fault => fault.message
  | .system path fault => fault.message path

/-- Why a command stops: it is done, with an exit code, or it breaks off. -/
inductive Stop where
  | exit (code : Nat)
  | failure (failure : Failure)

def Stop.code : Stop → Nat
  | .exit code => code
  | .failure _ => 1

end Command

/-- What is printed and written on the way to a result. -/
structure Transcript (α : Type) where
  output : Text := []
  writes : List (Path × Text) := []
  result : Except Command.Stop α

namespace Transcript

open Command

/-- Goes on with the result, unless the command stopped. -/
def andThen {α β : Type} (transcript : Transcript α) (next : α → Transcript β) : Transcript β :=
  match transcript.result with
  | .ok a =>
    let further := next a
    ⟨transcript.output ++ further.output, transcript.writes ++ further.writes, further.result⟩
  | .error stop => ⟨transcript.output, transcript.writes, .error stop⟩

instance : Monad Transcript where
  pure a := { result := .ok a }
  bind := andThen

/-! ## Steps -/

def width : Nat := 100

def stop {α : Type} (stop : Stop) : Transcript α := { result := .error stop }

def exit {α : Type} (code : Nat) : Transcript α := stop (.exit code)

def failure {α : Type} (failure : Failure) : Transcript α := stop (.failure failure)

def ofExcept {ε α : Type} (cause : ε → Failure) : Except ε α → Transcript α
  | .ok a => pure a
  | .error fault => failure (cause fault)

def put (t : Text) : Transcript Unit := { output := t, result := .ok () }

/-- The escape sequence of a terminal that starts with the given character. -/
def sequence : Recogniser Unit := fun _ t ↦
  match t with
  | '\x1b' :: '[' :: rest =>
    let inside := rest.takeWhile fun c ↦ c == ';' || c == '?' || c.isDigit
    if (rest.drop inside.length).head?.any Char.isAlpha then some ((), inside.length + 2) else none
  | _ => none

/-- Prints a text on lines of its own, without the escape sequences of terminals. -/
def echo (t : Text) : Transcript Unit := put (Scan.substitute sequence (fun _ ↦ []) t ++ ['\n'])

/-- Prints a message, which may hold style tags. -/
def say [Display] (message : Text) : Transcript Unit := do
  let lines ← ofExcept .style (Display.lines width message)
  put (lines.flatMap fun line ↦ line ++ ['\n'])

/-- Stops with a message about what is wrong. -/
def refuse [Display] {α : Type} (message : Text) : Transcript α := do
  say ("[red]Error:[/red] " ++ message)
  exit 1

/-! ## Files -/

def look (tree : Tree) (path : Path) : Transcript (Option Entry) :=
  match tree.find path with
  | .ok entry => pure (some entry)
  | .error .longName => failure (.system path .longName)
  | .error _ => pure none

def readFile [Display] (tree : Tree) (path : Path) : Transcript Text :=
  let refused (cause : Text) : Transcript Text :=
    refuse ("Failed to read " ++ path.text ++ ": " ++ cause)
  match tree.find path with
  | .error fault => refused (fault.message path)
  | .ok (.folder _) => refused (OpenFault.message .isFolder path)
  | .ok (.file content) =>
    match Utf8.decode content with
    | .ok t => pure t
    | .error fault => refused fault.message

def writeFile [Display] (tree : Tree) (path : Path) (t : Text) : Transcript Unit :=
  match tree.writeFault? path with
  | some fault => refuse ("Failed to write " ++ path.text ++ ": " ++ fault.message path)
  | none => { writes := [(path, t)], result := .ok () }

/-! ## Laws -/

theorem andThen_pure {α β : Type} (a : α) (next : α → Transcript β) :
    andThen (pure a) next = next a := by
  simp [andThen, pure]

theorem andThen_stop {α β : Type} (s : Stop) (next : α → Transcript β) :
    andThen (stop s) next = stop s := by
  simp [andThen, stop]

end Transcript

end PluginReadme
