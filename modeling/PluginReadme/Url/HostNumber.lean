import PluginReadme.Text.Ascii

/-!
# Numeric hosts

The two notations of a host as a number: four decimal parts between points, and up to eight
hexadecimal parts between colons.
-/

namespace PluginReadme.Url

/-- A decimal number below 256 without needless zeros in front. -/
def isOctet (t : Text) : Bool :=
  t.all Char.isDigit && t.length ≤ 3 && (Text.number? 10 t).any (· ≤ 255) &&
    (t == ['0'] || t.head?.any (· != '0'))

def isIpv4 (t : Text) : Bool :=
  let parts := Text.splitOn '.' t
  parts.length == 4 && parts.all isOctet

def isHextet (t : Text) : Bool := !t.isEmpty && t.length ≤ 4 && t.all isHexDigit

/-- The parts beside a gap: none if the text starts or ends with the gap. -/
def sideOfGap (parts : List Text) : List Text := if parts == [[]] then [] else parts

/-- Eight parts between colons. A gap of two colons stands for one or more parts, and the last two
parts may be written as a decimal host. -/
def isIpv6 (t : Text) : Bool :=
  let address := t.takeWhile (· != '%')
  let zone := t.drop (address.length + 1)
  let goodZone := address.length == t.length || (!zone.isEmpty && !zone.contains '%')
  let written := Text.splitOn ':' address
  let last := written.getLastD []
  let parts := if last.contains '.' then written.dropLast ++ [['0'], ['0']] else written
  let inner := parts.tail.dropLast
  let goodLast := !last.contains '.' || isIpv4 last
  let goodParts :=
    match inner.findIdx? List.isEmpty with
    | some index =>
      let front := sideOfGap (parts.take (index + 1))
      let back := sideOfGap (parts.drop (index + 2))
      front.length + back.length ≤ 7 && (front ++ back).all isHextet
    | none => parts.length == 8 && parts.all isHextet
  goodZone && goodLast && 3 ≤ written.length && parts.length ≤ 9 && goodParts

end PluginReadme.Url
