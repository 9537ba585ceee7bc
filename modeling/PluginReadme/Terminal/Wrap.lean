import PluginReadme.Text.Blank
import PluginReadme.Text.Columns

/-!
# Wrapping

A text is cut into lines of at most a number of columns, between words where that is possible. A
word keeps the blanks after it, and the first word of a line those before it.
-/

namespace PluginReadme.Terminal

/-! ## Columns -/

def fitting : Nat → List Cluster → Text
  | _, [] => []
  | room, cluster :: rest =>
    if cluster.width ≤ room then cluster.text ++ fitting (room - cluster.width) rest else []

def padded (width : Nat) (t : Text) : Text := t ++ List.replicate (width - Text.width t) ' '

def cut (width : Nat) (t : Text) : Text :=
  if width < Text.width t then padded width (fitting width (Cluster.ofText t)) else t

/-- Puts a text in front of the first piece. -/
def ontoFirst (t : Text) : List Text → List Text
  | [] => [t]
  | first :: more => (t ++ first) :: more

/-- The parts of a word that fit into the given columns, of which `room` are left in the first. -/
def foldedFrom (width room : Nat) : List Cluster → List Text
  | [] => [[]]
  | cluster :: rest =>
    if room < cluster.width then
      [] :: ontoFirst cluster.text (foldedFrom width (width - cluster.width) rest)
    else ontoFirst cluster.text (foldedFrom width (room - cluster.width) rest)

/-- The parts of a word that is longer than a line. -/
def folded (width : Nat) (word : Text) : List Text := foldedFrom width width (Cluster.ofText word)

/-- The pieces between tabs with spaces in place of the tabs, at least one for each, up to the next
of the stops that are eight columns apart; `column` is where the first piece starts. -/
def expandedFrom (column : Nat) : List Text → Text
  | [] => []
  | [last] => last
  | piece :: rest =>
    let reached := column + Text.width (piece ++ [' '])
    let stop := (reached + 7) / 8 * 8
    piece ++ ' ' :: List.replicate (stop - reached) ' ' ++ expandedFrom stop rest

def expanded (line : Text) : Text := expandedFrom 0 (Text.splitOn '\t' line)

/-! ## Words -/

/-- The words of a line with the blanks after them; blanks in front belong to the first word. The
characters of the word just read come last first. -/
def wordsFrom (word : Text) : Text → List Text
  | [] => if Text.isBlankText word then [] else [word.reverse]
  | c :: rest =>
    if !isBlank c && word.head?.any isBlank && !Text.isBlankText word then
      word.reverse :: wordsFrom [c] rest
    else wordsFrom (c :: word) rest

def words (line : Text) : List Text := wordsFrom [] line

/-! ## Lines -/

/-- Lines in the making: those that are done, last first, and the one that is being filled. -/
structure Filling where
  done : List Text
  current : Text

def Filling.lines (filling : Filling) : List Text := (filling.current :: filling.done).reverse

def Filling.isNew (filling : Filling) : Bool := filling.done.isEmpty && filling.current.isEmpty

def Filling.breakBefore (filling : Filling) (piece : Text) : Filling :=
  if filling.isNew then { filling with current := piece }
  else ⟨filling.current :: filling.done, piece⟩

/-- Puts a word on the line if it fits there without the blanks after it, or on the next line; a
word longer than a line starts a new one and goes on over as many as it needs. -/
def Filling.add (width : Nat) (filling : Filling) (word : Text) : Filling :=
  let needed := Text.width (Text.stripRight word)
  if needed + Text.width filling.current ≤ width then
    { filling with current := filling.current ++ word }
  else if width < needed then (folded width word).foldl Filling.breakBefore filling
  else filling.breakBefore word

/-- A line cut into lines of at most the given columns. -/
def dividedLine (width : Nat) (line : Text) : List Text :=
  let pieces := words line
  if pieces.isEmpty then [line] else (pieces.foldl (Filling.add width) ⟨[], []⟩).lines

/-- The line without those of its last blanks that stand beyond the width. -/
def withoutOverhang (width : Nat) (line : Text) : Text :=
  let blanks := (Text.takeEndWhile isBlank line).length
  line.take (line.length - min blanks (line.length - width))

def wrapped (width : Nat) (t : Text) : List Text :=
  (Text.splitOn '\n' t).flatMap fun line ↦
    (dividedLine width (expanded line)).map fun piece ↦ cut width (withoutOverhang width piece)

end PluginReadme.Terminal
