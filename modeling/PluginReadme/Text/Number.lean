import PluginReadme.Text.Blank
import PluginReadme.Text.Class

/-!
# Whole numbers as they are typed

A whole number has a sign at most, and decimal digits of any script with single underscores between
them. Blanks around it do not count.
-/

namespace PluginReadme.Text

/-- Reads digits on: `total` is the number so far, and `mayBreak` says that a digit was read last.
-/
def digitsFrom : (total : Nat) → (mayBreak : Bool) → Text → Option Nat
  | total, mayBreak, [] => if mayBreak then some total else none
  | total, mayBreak, c :: rest =>
    match digitValue? c with
    | some value => digitsFrom (total * 10 + value) true rest
    | none => if c == '_' && mayBreak then digitsFrom total false rest else none

/-- The whole number that a text stands for. -/
def wholeNumber? (t : Text) : Option Int :=
  match strip t with
  | '-' :: rest => (digitsFrom 0 false rest).map fun n ↦ -n
  | '+' :: rest => (digitsFrom 0 false rest).map fun n ↦ n
  | digits => (digitsFrom 0 false digits).map fun n ↦ n

end PluginReadme.Text
