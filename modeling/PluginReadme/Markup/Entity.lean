import PluginReadme.Markup.EntityTable
import PluginReadme.Text.Scan

/-!
# Escaped characters

A backslash before a mark stands for the mark, and a name or a number between an ampersand and a
semicolon for the character it names. What names no character stays as it is written.
-/

namespace PluginReadme.Entity

/-- A code point that a number may name: no control character other than white space, no
noncharacter and no half of a surrogate pair. -/
def isNameable (n : Nat) : Bool :=
  !((0xD800 ≤ n && n ≤ 0xDFFF) || (0xFDD0 ≤ n && n ≤ 0xFDEF) || n % 0x10000 == 0xFFFF ||
    n % 0x10000 == 0xFFFE || n ≤ 0x08 || n == 0x0B || (0x0E ≤ n && n ≤ 0x1F) ||
    (0x7F ≤ n && n ≤ 0x9F) || 0x10FFFF < n)

/-- The code point that a number names: up to eight digits, in base sixteen after an `x`. -/
def numbered? : Text → Option Nat
  | '#' :: 'x' :: digits | '#' :: 'X' :: digits =>
    if digits.length == 0 || 8 < digits.length then none else Text.number? 16 digits
  | '#' :: digits =>
    if digits.length == 0 || 8 < digits.length then none else Text.number? 10 digits
  | _ => none

def value? (name : Text) : Option Text :=
  match Table.entities.named? name with
  | some characters => some characters
  | none =>
    match numbered? name with
    | some n => if isNameable n then some [Char.ofNat n] else none
    | none => none

/-- The name at the beginning of a text that a semicolon ends: a letter or a number sign and up to
31 letters and digits. -/
def name? : Text → Option Text
  | [] => none
  | c :: rest =>
    let more := rest.takeWhile Char.isAlphanum
    if (c.isAlpha || c == '#') && 1 ≤ more.length && more.length ≤ 31 &&
        (rest.drop more.length).head? == some ';' then some (c :: more) else none

def escape : Recogniser Text := fun _ t ↦
  match t with
  | '\\' :: c :: _ => if isAsciiPunctuation c then some ([c], 1) else none
  | '&' :: rest => do
    let name ← name? rest
    let characters ← value? name
    return (characters, name.length + 1)
  | _ => none

def decode (t : Text) : Text := Scan.substitute escape id t

end PluginReadme.Entity
