import PluginReadme.Text.Ascii

/-!
# Tables of code points

A class of characters is a list of closed ranges; a case map is a list of ranges, each with a step
and a shift. Both are searched in order, so that membership is a plain search of a list. Names of
characters stand in rows with several entries; an entry is a name, an equals sign and the code
points in base sixteen, with a point between two of them.
-/

namespace PluginReadme

/-- Closed ranges of code points. -/
abbrev RangeTable := List (Nat × Nat)

def RangeTable.covers (table : RangeTable) (c : Char) : Bool :=
  table.any fun (low, high) ↦ low ≤ c.toNat && c.toNat ≤ high

/-- Closed ranges of code points with the step from one member to the next and the shift from a
member to its image. -/
abbrev ShiftTable := List (Nat × Nat × Nat × Int)

/-- The image of a character; one that no range has is its own image. -/
def ShiftTable.apply (table : ShiftTable) (c : Char) : Char :=
  let n := c.toNat
  match table.find? fun (low, high, step, _) ↦ low ≤ n && n ≤ high && (n - low) % step == 0 with
  | some (_, _, _, shift) => Char.ofNat (n + shift).toNat
  | none => c

abbrev NameTable := List String

/-- The characters of an entry such as `nvle=2264.20D2`, if it is the entry of the name. -/
def NameTable.entryFor? (name entry : Text) : Option Text := do
  let codes ← Text.after? (name ++ "=") entry
  let numbers ← (Text.splitOn '.' codes).mapM (Text.number? 16)
  return numbers.map Char.ofNat

def NameTable.named? (table : NameTable) (name : Text) : Option Text :=
  table.findSome? fun row ↦ (Text.splitOn ' ' row.toList).findSome? (NameTable.entryFor? name)

end PluginReadme
