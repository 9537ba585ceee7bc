import PluginReadme.Text.Basic

/-!
# Differences of texts

Two texts are compared line by line. The longest run of lines that both have is kept, the first one
of that length, and the lines on either side of it are compared in the same way. In a long text,
lines that come again and again do not start a run, but they may lengthen one.
-/

namespace PluginReadme.Diff

/-- Lines that both texts have, or lines of the old text in whose place the new one has others. -/
inductive Block where
  | same (lines : List Text)
  | change (old new : List Text)
  deriving DecidableEq, Repr

namespace Block

def old : Block → List Text
  | .same lines => lines
  | .change old _ => old

def new : Block → List Text
  | .same lines => lines
  | .change _ new => new

end Block

/-! ## Common runs -/

/-- A run of lines that both texts have: where it starts in each, and its length. -/
structure Run where
  old : Nat := 0
  new : Nat := 0
  length : Nat := 0
  deriving DecidableEq, Repr

/-- The number of lines that two lists have in common at their fronts. -/
def commonLength : List Text → List Text → Nat
  | a :: as, b :: bs => if a = b then commonLength as bs + 1 else 0
  | _, _ => 0

/-- The lines of which a text of two hundred lines or more has more than one in a hundred. -/
def frequent (lines : List Text) : List Text :=
  if lines.length < 200 then []
  else (lines.filter fun line ↦ lines.length / 100 + 1 < lines.count line).eraseDups

/-- For every line of the new text, the length of the longest run that ends with it and with a line
of the old text. `before` is that of the line before in the row of the old line before. -/
def row (frequent : List Text) (line : Text) : (before : Nat) → List Nat → List Text → List Nat
  | before, length :: lengths, other :: others =>
    (if line = other && !frequent.contains line then before + 1 else 0) ::
      row frequent line length lengths others
  | _, _, _ => []

def best (old : Nat) (run : Run) (lengths : List Nat) : Run :=
  lengths.zipIdx.foldl
    (fun run (length, new) ↦
      if run.length < length then ⟨old + 1 - length, new + 1 - length, length⟩ else run) run

/-- The best run, from a line of the old text on. -/
def bestFrom (frequent : List Text) (new : List Text) :
    (place : Nat) → Run → List Nat → List Text → Run
  | _, run, _, [] => run
  | place, run, lengths, line :: rest =>
    let lengths := row frequent line 0 lengths new
    bestFrom frequent new (place + 1) (best place run lengths) lengths rest

/-- A run with the common lines around it. -/
def lengthened (old new : List Text) (run : Run) : Run :=
  let before := commonLength (old.take run.old).reverse (new.take run.new).reverse
  let after := commonLength (old.drop (run.old + run.length)) (new.drop (run.new + run.length))
  ⟨run.old - before, run.new - before, run.length + before + after⟩

/-- The longest common run, of length zero if there is none. -/
def longestRun (frequent old new : List Text) : Run :=
  lengthened old new (bestFrom frequent new 0 {} (new.map fun _ ↦ 0) old)

/-! ## Scripts -/

/-- The blocks of two lists of lines. Each step divides off at least one line of the old text. -/
def blocksFrom (frequent : List Text) : (steps : Nat) → (old new : List Text) → List Block
  | 0, old, new => [.change old new]
  | steps + 1, old, new =>
    let run := longestRun frequent old new
    if run.length = 0 then [.change old new]
    else
      blocksFrom frequent steps (old.take run.old) (new.take run.new) ++
        .same ((old.drop run.old).take run.length) ::
        blocksFrom frequent steps (old.drop (run.old + run.length))
          (new.drop (run.new + run.length))

/-- Puts a block in front. Empty ones fall away, and two runs become one. -/
def addBlock : Block → List Block → List Block
  | .change [] [], blocks => blocks
  | .same a, .same b :: blocks => .same (a ++ b) :: blocks
  | block, blocks => block :: blocks

def blocks (old new : List Text) : List Block :=
  (blocksFrom (frequent new) old.length old new).foldr addBlock []

end PluginReadme.Diff
