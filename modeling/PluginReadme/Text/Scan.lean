import PluginReadme.Text.Basic

/-!
# Scanning for marks

A mark is described by a recogniser, which looks at a place of the text (the character before it
and what follows) and answers what it read there and how many characters after the first belong to
it. Marks are taken from left to right and do not overlap; everything else is plain.
-/

namespace PluginReadme

/-- Reads a mark at a place between a character and the rest of the text: its meaning and the
number of characters it has after the first. -/
abbrev Recogniser (α : Type) := Option Char → Text → Option (α × Nat)

/-- A plain character or a mark. -/
inductive Piece (α : Type) where
  | plain (c : Char)
  | mark (value : α)

namespace Scan

/-- The pieces from a place on, of which the first `skip` characters belong to a mark read
before. -/
def piecesFrom {α : Type} (read : Recogniser α) : Nat → Option Char → Text → List (Piece α)
  | _, _, [] => []
  | skip + 1, _, c :: rest => piecesFrom read skip (some c) rest
  | 0, before, c :: rest =>
    match read before (c :: rest) with
    | some (value, extra) => .mark value :: piecesFrom read extra (some c) rest
    | none => .plain c :: piecesFrom read 0 (some c) rest

/-- The text as plain characters and marks, in order. -/
def pieces {α : Type} (read : Recogniser α) (t : Text) : List (Piece α) :=
  piecesFrom read 0 none t

/-- Writes a text anew, each mark through `write`. -/
def substitute {α : Type} (read : Recogniser α) (write : α → Text) (t : Text) : Text :=
  (pieces read t).flatMap fun
    | .plain c => [c]
    | .mark value => write value

/-- Writes a text anew, each mark through `write`, which may fail. -/
def substituteE {ε α : Type} (read : Recogniser α) (write : α → Except ε Text) (t : Text) :
    Except ε Text := do
  let parts ← (pieces read t).mapM fun
    | .plain c => .ok [c]
    | .mark value => write value
  return parts.flatten

/-- A run of plain characters or a mark. -/
inductive Stretch (α : Type) where
  | plain (t : Text)
  | mark (value : α)

/-- Puts a plain character in front. -/
def addPlain {α : Type} (c : Char) : List (Stretch α) → List (Stretch α)
  | .plain t :: rest => .plain (c :: t) :: rest
  | rest => .plain [c] :: rest

/-- The pieces with neighbouring plain characters taken together. -/
def stretches {α : Type} : List (Piece α) → List (Stretch α)
  | [] => []
  | .plain c :: rest => addPlain c (stretches rest)
  | .mark value :: rest => .mark value :: stretches rest

/-- A mark with the offset of its first character and the offset after its last. -/
structure Hit (α : Type) where
  start : Nat
  stop : Nat
  value : α

def hitsFrom {α : Type} (read : Recogniser α) : Nat → Nat → Option Char → Text → List (Hit α)
  | _, _, _, [] => []
  | skip + 1, place, _, c :: rest => hitsFrom read skip (place + 1) (some c) rest
  | 0, place, before, c :: rest =>
    match read before (c :: rest) with
    | some (value, extra) =>
      ⟨place, place + extra + 1, value⟩ :: hitsFrom read extra (place + 1) (some c) rest
    | none => hitsFrom read 0 (place + 1) (some c) rest

/-- The marks of a text with their offsets. -/
def hits {α : Type} (read : Recogniser α) (t : Text) : List (Hit α) := hitsFrom read 0 0 none t

end Scan

end PluginReadme
