import PluginReadme.Text.Basic

/-!
# ASCII classes and radix numbers
-/

namespace PluginReadme

/-- The marks that a backslash can precede. -/
def isAsciiPunctuation (c : Char) : Bool :=
  let n := c.toNat
  (0x21 ≤ n && n ≤ 0x2F) || (0x3A ≤ n && n ≤ 0x40) || (0x5B ≤ n && n ≤ 0x60) ||
    (0x7B ≤ n && n ≤ 0x7E)

def hexValue? (c : Char) : Option Nat :=
  let n := c.toNat
  if 0x30 ≤ n && n ≤ 0x39 then some (n - 0x30)
  else if 0x41 ≤ n && n ≤ 0x46 then some (n - 0x37)
  else if 0x61 ≤ n && n ≤ 0x66 then some (n - 0x57)
  else none

def isHexDigit (c : Char) : Bool := (hexValue? c).isSome

namespace Text

/-- The number written by digits of a base, if all are such digits; the empty text is zero. -/
def number? (base : Nat) (t : Text) : Option Nat :=
  t.foldl (fun total c ↦ do
    let value ← hexValue? c
    if value < base then return (← total) * base + value else none) (some 0)

end Text

end PluginReadme
