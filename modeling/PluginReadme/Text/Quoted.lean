import PluginReadme.Text.Class

/-!
# Quoted texts

How a text is shown inside a message: between single quotes, or between double quotes if it holds
single quotes only. The quote, the backslash and characters without a printed form are escaped.
-/

namespace PluginReadme.Text

/-- The last `count` digits of a number in base sixteen. -/
def hexDigits (count n : Nat) : Text :=
  let digits := Nat.toDigits 16 n
  List.replicate (count - digits.length) '0' ++ digits

/-- A character between the given quotes. -/
def quotedChar (quote c : Char) : Text :=
  let n := c.toNat
  if c == quote || c == '\\' then ['\\', c]
  else if c == '\n' then "\\n"
  else if c == '\r' then "\\r"
  else if c == '\t' then "\\t"
  else if isShown c then [c]
  else if n < 0x100 then "\\x" ++ hexDigits 2 n
  else if n < 0x10000 then "\\u" ++ hexDigits 4 n
  else "\\U" ++ hexDigits 8 n

def quoted (t : Text) : Text :=
  let quote := if t.contains '\'' && !t.contains '\"' then '\"' else '\''
  quote :: t.flatMap (quotedChar quote) ++ [quote]

end PluginReadme.Text
