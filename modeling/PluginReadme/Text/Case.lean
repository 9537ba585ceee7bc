import PluginReadme.Text.Basic
import PluginReadme.Text.Table.CaseIgnorable
import PluginReadme.Text.Table.Cased
import PluginReadme.Text.Table.Lower
import PluginReadme.Text.Table.Upper

/-!
# Letter case

Lower and upper case of whole texts, with the letters whose image has several characters and the
sigma at the end of a word; and the comparison of ASCII letters without regard to case, under which
four letters beyond ASCII equal an ASCII one.
-/

namespace PluginReadme

/-! ## Without regard to case -/

/-- The small ASCII letter that a character equals without regard to case, or itself: dotted and
dotless i, the long s and the Kelvin sign count as ASCII letters. -/
def foldCase (c : Char) : Char :=
  let n := c.toNat
  if 0x41 ≤ n && n ≤ 0x5A then Char.ofNat (n + 0x20)
  else if n == 0x130 || n == 0x131 then 'i'
  else if n == 0x17F then 's'
  else if n == 0x212A then 'k'
  else c

namespace Text

/-- What follows a beginning written in small letters, without regard to case. -/
def afterFolded? : Text → Text → Option Text
  | [], t => some t
  | _ :: _, [] => none
  | a :: start, c :: t => if foldCase c = a then afterFolded? start t else none

/-! ## Lower case -/

def isCased (c : Char) : Bool :=
  if c.toNat < 0x80 then c.isAlpha else Table.cased.covers c

/-- The characters that stand between a letter and its neighbours without parting them. -/
def isCaseIgnorable (c : Char) : Bool :=
  let n := c.toNat
  if n < 0x80 then n == 0x27 || n == 0x2E || n == 0x3A || n == 0x5E || n == 0x60
  else Table.caseIgnorable.covers c

/-- The first character that case rules do not pass over has a case. -/
def meetsCased (t : Text) : Bool :=
  match t.find? fun c ↦ !isCaseIgnorable c with
  | some c => isCased c
  | none => false

/-- The lower case of a character between the characters before it, nearest first, and those
after it. A sigma that ends a word has a form of its own. -/
def lowerBetween (before : Text) (c : Char) (rest : Text) : Text :=
  let n := c.toNat
  if n < 0x80 then [c.toLower]
  else if n == 0x3A3 then
    if meetsCased before && !meetsCased rest then [Char.ofNat 0x3C2] else [Char.ofNat 0x3C3]
  else if n == 0x130 then ['i', Char.ofNat 0x307]
  else [Table.lower.apply c]

def lowerFrom : Text → Text → Text
  | _, [] => []
  | before, c :: rest => lowerBetween before c rest ++ lowerFrom (c :: before) rest

def lower (t : Text) : Text := lowerFrom [] t

/-! ## Upper case -/

def upperOf (c : Char) : Text :=
  if c.toNat < 0x80 then [c.toUpper]
  else
    match Table.upperSequences.find? fun (n, _) ↦ n == c.toNat with
    | some (_, image) => image.map Char.ofNat
    | none => [Table.upper.apply c]

def upper (t : Text) : Text := t.flatMap upperOf

end Text

end PluginReadme
