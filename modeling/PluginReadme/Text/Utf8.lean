import PluginReadme.Text.Quoted

/-!
# UTF-8

Decoding of bytes, with the place and the cause of the first fault. A fault covers the longest
beginning of a character that could still have been completed.
-/

namespace PluginReadme

abbrev Bytes := List UInt8

namespace Utf8

inductive Cause where
  | start
  | continuation
  | cut
  deriving DecidableEq, Repr

/-- The first fault: its cause, the offset of its first byte, the number of its bytes and the value
of the first. -/
structure Fault where
  cause : Cause
  offset : Nat
  count : Nat
  byte : Nat
  deriving DecidableEq, Repr

def Cause.message : Cause → Text
  | .start => "invalid start byte"
  | .continuation => "invalid continuation byte"
  | .cut => "unexpected end of data"

def Fault.message (fault : Fault) : Text :=
  let place :=
    if fault.count = 1 then
      "byte 0x" ++ Text.hexDigits 2 fault.byte ++ " in position " ++ Text.ofNat fault.offset
    else
      "bytes in position " ++ Text.ofNat fault.offset ++ "-" ++
        Text.ofNat (fault.offset + fault.count - 1)
  "'utf-8' codec can't decode " ++ place ++ ": " ++ fault.cause.message

/-- For a first byte: the bits it carries, the number of bytes to follow and the bounds of the
second byte. -/
def lead? (byte : Nat) : Option (Nat × Nat × Nat × Nat) :=
  if 0xC2 ≤ byte && byte ≤ 0xDF then some (byte - 0xC0, 1, 0x80, 0xBF)
  else if byte == 0xE0 then some (0, 2, 0xA0, 0xBF)
  else if byte == 0xED then some (0xD, 2, 0x80, 0x9F)
  else if 0xE1 ≤ byte && byte ≤ 0xEF then some (byte - 0xE0, 2, 0x80, 0xBF)
  else if byte == 0xF0 then some (0, 3, 0x90, 0xBF)
  else if 0xF1 ≤ byte && byte ≤ 0xF3 then some (byte - 0xF0, 3, 0x80, 0xBF)
  else if byte == 0xF4 then some (4, 3, 0x80, 0x8F)
  else none

/-- Reads the bytes after the first: `need` of them are missing, `seen` are read and hold the bits
`value`, and the next one is bounded. -/
def follow : (need low high value seen : Nat) → Bytes → Except (Cause × Nat) Nat
  | 0, _, _, value, _, _ => .ok value
  | _ + 1, _, _, _, seen, [] => .error (.cut, seen)
  | need + 1, low, high, value, seen, byte :: rest =>
    if low ≤ byte.toNat && byte.toNat ≤ high then
      follow need 0x80 0xBF (value * 64 + (byte.toNat - 0x80)) (seen + 1) rest
    else .error (.continuation, seen)

/-- The text from an offset on, of which the first `skip` bytes belong to a character read
before. -/
def decodeFrom : (skip offset : Nat) → Bytes → Except Fault Text
  | _, _, [] => .ok []
  | skip + 1, offset, _ :: rest => decodeFrom skip (offset + 1) rest
  | 0, offset, byte :: rest =>
    let n := byte.toNat
    if n < 0x80 then return Char.ofNat n :: (← decodeFrom 0 (offset + 1) rest)
    else
      match lead? n with
      | none => .error ⟨.start, offset, 1, n⟩
      | some (bits, need, low, high) =>
        match follow need low high bits 1 rest with
        | .error (cause, seen) => .error ⟨cause, offset, seen, n⟩
        | .ok value => return Char.ofNat value :: (← decodeFrom need (offset + 1) rest)

def decode (bytes : Bytes) : Except Fault Text := decodeFrom 0 0 bytes

def encode (t : Text) : Bytes := t.flatMap String.utf8EncodeChar

end Utf8

end PluginReadme
