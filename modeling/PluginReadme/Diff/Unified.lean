import PluginReadme.Diff.Script
import PluginReadme.Text.Lines

/-!
# Unified differences

The changes of a text with the lines around them, three before and three after. Changes that are
near to each other share a hunk.
-/

namespace PluginReadme.Diff

def context : Nat := 3

/-- Blocks that are shown together, and the number of lines before them in either text. -/
structure Hunk where
  old : Nat := 0
  new : Nat := 0
  blocks : List Block := []
  deriving DecidableEq, Repr

namespace Hunk

def oldLines (hunk : Hunk) : List Text := hunk.blocks.flatMap Block.old

def newLines (hunk : Hunk) : List Text := hunk.blocks.flatMap Block.new

def add (hunk : Hunk) (block : Block) : Hunk := { hunk with blocks := hunk.blocks ++ [block] }

/-- The hunk with the last lines of a common run that follows the lines of another hunk. -/
def after (hunk : Hunk) (lines : List Text) : Hunk :=
  let skipped := lines.length - context
  { old := hunk.old + hunk.oldLines.length + skipped
    new := hunk.new + hunk.newLines.length + skipped
    blocks := [.same (lines.drop skipped)] }

def hasChange (hunk : Hunk) : Bool :=
  hunk.blocks.any fun
    | .same _ => false
    | .change _ _ => true

end Hunk

/-- The hunks of blocks, of which those before are in a hunk already. A common run that is too long
to be shown whole ends a hunk. -/
def hunksFrom (hunk : Hunk) : List Block → List Hunk
  | [] => if hunk.hasChange then [hunk] else []
  | [.same lines] =>
    if hunk.hasChange then [hunk.add (.same (lines.take context))] else []
  | .same lines :: rest =>
    if 2 * context < lines.length then
      hunk.add (.same (lines.take context)) :: hunksFrom (hunk.after lines) rest
    else hunksFrom (hunk.add (.same lines)) rest
  | block :: rest => hunksFrom (hunk.add block) rest

def hunks : List Block → List Hunk
  | .same lines :: rest => hunksFrom (Hunk.after {} lines) rest
  | blocks => hunksFrom {} blocks

/-! ## Text -/

/-- A range of lines: the first one and their number, unless it is one. An empty range is named by
the line before it. -/
def rangeText (before length : Nat) : Text :=
  if length = 1 then Text.ofNat (before + 1)
  else Text.ofNat (if length = 0 then before else before + 1) ++ ',' :: Text.ofNat length

def Block.text : Block → Text
  | .same lines => lines.flatMap fun line ↦ ' ' :: line
  | .change old new =>
    (old.flatMap fun line ↦ '-' :: line) ++ new.flatMap fun line ↦ '+' :: line

def Hunk.text (hunk : Hunk) : Text :=
  "@@ -" ++ rangeText hunk.old hunk.oldLines.length ++ " +" ++
    rangeText hunk.new hunk.newLines.length ++ " @@\n" ++ hunk.blocks.flatMap Block.text

/-- The difference of two texts under the names of their files; nothing if there is none. -/
def unified (oldName newName old new : Text) : Text :=
  match hunks (blocks (Text.wideLines old) (Text.wideLines new)) with
  | [] => []
  | hunks => "--- " ++ oldName ++ "\n+++ " ++ newName ++ "\n" ++ hunks.flatMap Hunk.text

end PluginReadme.Diff
