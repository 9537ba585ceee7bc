import PluginReadme.Text.Ascii
import PluginReadme.Text.Utf8

/-!
# Percent encoding

Characters that may not stand in an address are written as the bytes of their UTF-8 form, each a
percent sign and two digits of base sixteen.
-/

namespace PluginReadme.Url

def percentByte (byte : UInt8) : Text :=
  '%' :: (Text.hexDigits 2 byte.toNat).map Char.toUpper

def percentChar (c : Char) : Text := (Utf8.encode [c]).flatMap percentByte

/-- Letters, digits and the marks that have a meaning in an address or none anywhere. -/
def isAddressChar (c : Char) : Bool :=
  c.isAlphanum || (";/?:@&=+$,-_.!~*'()#" : Text).contains c

def encode : Text → Text
  | '%' :: a :: b :: rest =>
    if isHexDigit a && isHexDigit b then '%' :: a :: b :: encode rest
    else "%25" ++ encode (a :: b :: rest)
  | c :: rest => (if isAddressChar c then [c] else percentChar c) ++ encode rest
  | [] => []

/-- Encodes everything but letters, digits and the four unreserved marks. -/
def encodeComponent (t : Text) : Text :=
  t.flatMap fun c ↦ if c.isAlphanum || ("_.-~" : Text).contains c then [c] else percentChar c

end PluginReadme.Url
