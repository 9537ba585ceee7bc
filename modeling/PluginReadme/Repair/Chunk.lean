import PluginReadme.Readme.Fence

/-!
# Chunks

For repairs a readme is a sequence of single lines and fenced blocks. A block opens at a line of
three backticks with at most one word after them and ends at the next line of three backticks alone,
or with the text.
-/

namespace PluginReadme.Repair

/-- A fenced block: the number, from one, of its first line, the word after its fence, the lines
inside, and whether a fence closes it. -/
structure Block where
  number : Nat
  language : Text
  lines : List Text
  closed : Bool
  deriving DecidableEq, Repr

inductive Chunk where
  | line (number : Nat) (content : Text)
  | block (block : Block)
  deriving DecidableEq, Repr

/-- The chunks from a line on. `current` is the block that is open, with its lines last first. -/
def chunksFrom (current : Option Block) (number : Nat) : List Text → List Chunk
  | [] =>
    match current with
    | some block => [.block { block with lines := block.lines.reverse }]
    | none => []
  | line :: rest =>
    match current with
    | some block =>
      if Fence.isClosing line then
        .block { block with lines := block.lines.reverse, closed := true } ::
          chunksFrom none (number + 1) rest
      else chunksFrom (some { block with lines := line :: block.lines }) (number + 1) rest
    | none =>
      match Fence.opening? line with
      | some language => chunksFrom (some ⟨number, language, [], false⟩) (number + 1) rest
      | none => .line number line :: chunksFrom none (number + 1) rest

def chunks (lines : List Text) : List Chunk := chunksFrom none 1 lines

end PluginReadme.Repair
