import PluginReadme.Text.Basic
import PluginReadme.Text.Table.Joined
import PluginReadme.Text.Table.Pictured
import PluginReadme.Text.Table.Wide

/-!
# Columns

The number of columns that a text takes on a terminal. A character without a column belongs to the
one before it. A joiner makes one picture of the characters at its sides, and a presentation sign
makes a picture of a narrow character, so what cannot be parted is a cluster of characters.
-/

namespace PluginReadme

/-- The columns that a character takes by itself. -/
def columns (c : Char) : Nat :=
  let n := c.toNat
  if n < 0x20 || (0x7F ≤ n && n < 0xA0) || Table.joined.covers c then 0
  else if Table.wide.covers c then 2
  else 1

/-- The sign that joins the characters at its sides. -/
def isJoiner (c : Char) : Bool := c.toNat == 0x200D

/-- The sign that asks for the picture of the character before it. -/
def isPresentation (c : Char) : Bool := c.toNat == 0xFE0F

/-- A narrow character that has a wide picture. -/
def hasPicture (c : Char) : Bool := Table.pictured.covers c

namespace Text

/-- The columns of a text after a character that took some; what is joined takes none. -/
def widthAfter (seen : Option Char) : Text → Nat
  | [] => 0
  | c :: rest =>
    if isJoiner c then
      match rest with
      | [] => 0
      | _ :: rest => widthAfter seen rest
    else if isPresentation c then
      (if seen.any hasPicture then 1 else 0) + widthAfter none rest
    else if columns c = 0 then widthAfter seen rest
    else columns c + widthAfter (some c) rest

def width (t : Text) : Nat := widthAfter none t

end Text

/-- Characters that cannot be parted, and the columns that they take together. -/
structure Cluster where
  text : Text
  width : Nat
  deriving DecidableEq, Repr

namespace Cluster

/-- Adds characters that take no column of their own. -/
def join (cluster : Cluster) (t : Text) : Cluster := { cluster with text := cluster.text ++ t }

/-- The clusters from the given one on, of which the rest of the text may still join the first.
`seen` is the last character that took columns and was not made a picture. -/
def afterCluster (seen : Option Char) (cluster : Cluster) : Text → List Cluster
  | [] => [cluster]
  | c :: rest =>
    if isJoiner c then
      match rest with
      | [] => [cluster.join [c]]
      | next :: rest => afterCluster seen (cluster.join [c, next]) rest
    else if isPresentation c then
      if seen.any hasPicture then
        afterCluster none { cluster.join [c] with width := cluster.width + 1 } rest
      else afterCluster seen (cluster.join [c]) rest
    else if columns c = 0 then afterCluster seen (cluster.join [c]) rest
    else cluster :: afterCluster (some c) ⟨[c], columns c⟩ rest

def ofText : Text → List Cluster
  | [] => []
  | c :: rest =>
    if isJoiner c || isPresentation c || columns c = 0 then afterCluster none ⟨[c], 0⟩ rest
    else afterCluster (some c) ⟨[c], columns c⟩ rest

def toText (clusters : List Cluster) : Text := clusters.flatMap text

theorem toText_afterCluster (seen : Option Char) (cluster : Cluster) (t : Text) :
    toText (afterCluster seen cluster t) = cluster.text ++ t := by
  fun_induction afterCluster seen cluster t <;> simp_all [toText, join]

/-- Nothing of a text is lost in its clusters. -/
theorem toText_ofText (t : Text) : toText (ofText t) = t := by
  unfold ofText
  split
  · rfl
  · split <;> simp [toText_afterCluster]

end Cluster

end PluginReadme
