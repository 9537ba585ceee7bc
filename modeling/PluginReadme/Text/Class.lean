import PluginReadme.Text.Basic
import PluginReadme.Text.Table.Digit
import PluginReadme.Text.Table.Hidden
import PluginReadme.Text.Table.Word

/-!
# Classes of characters

The classes that rules on readme texts speak of: word characters, decimal digits of any script, and
characters that can be shown.
-/

namespace PluginReadme

/-- Letters, digits and other numbers of any script, and the underscore. -/
def isWordChar (c : Char) : Bool :=
  if c.toNat < 0x80 then c.isAlphanum || c == '_' else Table.word.covers c

/-- The value of a decimal digit of any script. -/
def digitValue? (c : Char) : Option Nat :=
  if c.toNat < 0x80 then if c.isDigit then some (c.toNat - 0x30) else none
  else
    (Table.zeros.find? fun first ↦ first ≤ c.toNat && c.toNat < first + 10).map (c.toNat - ·)

def isDecimal (c : Char) : Bool := (digitValue? c).isSome

/-- A character that a quoted text can show as it is. -/
def isShown (c : Char) : Bool :=
  if c.toNat < 0x80 then 0x20 ≤ c.toNat && c.toNat < 0x7F else !Table.hidden.covers c

end PluginReadme
