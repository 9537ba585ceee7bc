import PluginReadme.Text.Ascii
import PluginReadme.Toml.Fault

/-!
# Texts, keys, numbers and dates

The parts of a TOML document that hold no other values. A text between double quotes knows
escapes, one between single quotes none; three quotes let it run over several lines.
-/

namespace PluginReadme.Toml

/-! ## Blanks and comments -/

def isSpace (c : Char) : Bool := c == ' ' || c == '\t'

def isSpaceOrFeed (c : Char) : Bool := isSpace c || c == '\n'

def skipSpaces (t : Text) : Text := t.dropWhile isSpace

/-- A control character other than the tab, which comments and texts must not hold. -/
def isControl (c : Char) : Bool := (c.toNat < 0x20 && c != '\t') || c.toNat == 0x7F

/-- A control character that a text of several lines must not hold. -/
def isLineControl (c : Char) : Bool := isControl c && c != '\n'

/-- The `length` characters at the front and what follows, unless a forbidden one is among them. -/
def stretch (forbidden : Char → Bool) (length : Nat) : Reader Text := fun t ↦
  let front := t.take length
  let legal := front.takeWhile fun c ↦ !forbidden c
  match front.drop legal.length with
  | [] => .ok (front, t.drop length)
  | c :: _ => .error (.forbidden c, t.drop legal.length)

def skipComment (t : Text) : Except (Cause × Text) Text :=
  match t with
  | '#' :: rest => do
    let (_, rest) ← stretch isControl (rest.takeWhile (· != '\n')).length rest
    return rest
  | _ => .ok t

/-! ## Texts -/

/-- The character that digits of base sixteen stand for. -/
def hexChar (count : Nat) (t : Text) : Except (Cause × Text) Char :=
  let digits := t.take count
  match if digits.length = count then Text.number? 16 digits else none with
  | some n => if n.isValidChar then .ok (Char.ofNat n) else .error (.noCharacter, t.drop count)
  | none => .error (.hexDigits, t)

/-- What an escape stands for, read after its backslash, with the number of its characters. A
backslash at the end of a line takes the blanks and line ends after it away. -/
def escape (manyLines : Bool) (t : Text) : Except (Cause × Text) (Text × Nat) :=
  let bad : Except (Cause × Text) (Text × Nat) := .error (.escape, t.drop 1)
  match t with
  | [] => bad
  | c :: rest =>
    if manyLines && isSpaceOrFeed c then
      match skipSpaces t with
      | [] => .ok ([], t.length)
      | '\n' :: _ => .ok ([], (t.takeWhile isSpaceOrFeed).length)
      | other => .error (.escape, other)
    else if c == 'u' then return ([← hexChar 4 rest], 5)
    else if c == 'U' then return ([← hexChar 8 rest], 9)
    else if c == 'b' then .ok (['\x08'], 1)
    else if c == 't' then .ok (['\t'], 1)
    else if c == 'n' then .ok (['\n'], 1)
    else if c == 'f' then .ok (['\x0c'], 1)
    else if c == 'r' then .ok (['\r'], 1)
    else if c == '\"' || c == '\\' then .ok ([c], 1)
    else bad

/-- The text up to the closing double quotes, of which the first `skip` characters belong to an
escape read before. -/
def escapedFrom (manyLines : Bool) : (skip : Nat) → Reader Text
  | _, [] => .error (.openText, [])
  | skip + 1, _ :: rest => escapedFrom manyLines skip rest
  | 0, c :: rest =>
    if c == '\"' && !manyLines then .ok ([], rest)
    else if c == '\"' && Text.startsWith "\"\"" rest then .ok ([], rest.drop 2)
    else if c == '\\' then do
      let (meaning, length) ← escape manyLines rest
      let (more, rest) ← escapedFrom manyLines length rest
      return (meaning ++ more, rest)
    else if if manyLines then isLineControl c else isControl c then .error (.illegal c, c :: rest)
    else do
      let (more, rest) ← escapedFrom manyLines 0 rest
      return (c :: more, rest)

/-- The text up to a closing mark, without escapes. -/
def plainTo (mark : Text) (forbidden : Char → Bool) : Reader Text := fun t ↦
  match Text.indexOf? mark t with
  | none => .error (.missing mark, [])
  | some length => do
    let (front, rest) ← stretch forbidden length t
    return (front, rest.drop mark.length)

/-- Up to two more quotes at the end of a text between three quotes belong to it. -/
def withFurtherQuotes (quote : Char) (t rest : Text) : Text × Text :=
  let extra := (rest.takeWhile (· == quote)).take 2
  (t ++ extra, rest.drop extra.length)

/-- The text between three quotes of a kind, without the line end right after the first three. -/
def manyLines (quote : Char) : Reader Text := fun t ↦ do
  let start := if Text.startsWith "\n" t then t.drop 1 else t
  let (inside, rest) ←
    if quote == '\"' then escapedFrom true 0 start
    else plainTo [quote, quote, quote] isLineControl start
  return withFurtherQuotes quote inside rest

/-- A text between single or double quotes on one line, if one starts here. -/
def oneLine? (t : Text) : Option (Except (Cause × Text) (Text × Text)) :=
  match t with
  | '\"' :: rest => some (escapedFrom false 0 rest)
  | '\'' :: rest => some (plainTo "'" isControl rest)
  | _ => none

/-- A text in any notation, if one starts here. -/
def quotedText? (t : Text) : Option (Except (Cause × Text) (Text × Text)) :=
  if Text.startsWith "\"\"\"" t then some (manyLines '\"' (t.drop 3))
  else if Text.startsWith "'''" t then some (manyLines '\'' (t.drop 3))
  else oneLine? t

/-! ## Keys -/

def isKeyChar (c : Char) : Bool := c.isAlphanum || c == '-' || c == '_'

def startsKey (c : Char) : Bool := isKeyChar c || c == '\"' || c == '\''

def keyPart : Reader Text := fun t ↦
  match oneLine? t, t with
  | some read, _ => read
  | none, c :: _ =>
    if isKeyChar c then .ok (t.takeWhile isKeyChar, t.dropWhile isKeyChar)
    else .error (.keyStart, t)
  | none, [] => .error (.keyStart, t)

/-- The parts of a key between points; each takes at least one of the characters. -/
def keyFrom : (characters : Nat) → Reader Key
  | 0, t => .error (.keyStart, t)
  | characters + 1, t => do
    let (part, rest) ← keyPart t
    match skipSpaces rest with
    | '.' :: rest => do
      let (parts, rest) ← keyFrom characters (skipSpaces rest)
      return (part :: parts, rest)
    | rest => return ([part], rest)

def key : Reader Key := fun t ↦ keyFrom t.length t

/-! ## Numbers -/

/-- The digits at the front of a text, each after one underscore at most. -/
def moreDigits (isDigit : Char → Bool) : Text → Text
  | '_' :: c :: rest => if isDigit c then '_' :: c :: moreDigits isDigit rest else []
  | c :: rest => if isDigit c then c :: moreDigits isDigit rest else []
  | [] => []

def digits (isDigit : Char → Bool) (t : Text) : Text :=
  if t.head?.any isDigit then moreDigits isDigit t else []

def numberOf (base : Nat) (written : Text) : Nat :=
  (Text.number? base (written.filter (· != '_'))).getD 0

/-- A number in another base than ten, whose digits follow the two characters that name it. -/
def based? (t : Text) : Option (Value × Text) :=
  let read (base : Nat) (rest : Text) : Option (Value × Text) :=
    let isDigit (c : Char) : Bool := (hexValue? c).any (· < base)
    match digits isDigit rest with
    | [] => none
    | written => some (.integer (numberOf base written), rest.drop written.length)
  match t with
  | '0' :: 'x' :: rest => read 16 rest
  | '0' :: 'b' :: rest => read 2 rest
  | '0' :: 'o' :: rest => read 8 rest
  | _ => none

def signOf : Text → Text
  | c :: _ => if c == '+' || c == '-' then [c] else []
  | [] => []

/-- A point and the digits after it. -/
def fractionOf : Text → Text
  | '.' :: rest =>
    match digits Char.isDigit rest with
    | [] => []
    | written => '.' :: written
  | _ => []

def exponentOf : Text → Text
  | c :: rest =>
    let sign := signOf rest
    match digits Char.isDigit (rest.drop sign.length) with
    | [] => []
    | written => if c == 'e' || c == 'E' then c :: sign ++ written else []
  | [] => []

def integer (sign whole : Text) : Except Cause Value :=
  let count := (whole.filter (· != '_')).length
  let n : Int := numberOf 10 whole
  if mostDigits < count then .error (.tooLong count)
  else .ok (.integer (if sign == ['-'] then -n else n))

/-- A decimal number. A zero at its front is its whole integer part. -/
def decimal? (t : Text) : Option (Except (Cause × Text) (Value × Text)) :=
  let sign := signOf t
  let body := t.drop sign.length
  let whole := if Text.startsWith "0" body then ['0'] else digits Char.isDigit body
  let rest := body.drop whole.length
  let fraction := fractionOf rest
  let rest := rest.drop fraction.length
  let exponent := exponentOf rest
  let rest := rest.drop exponent.length
  if whole.isEmpty then none
  else if fraction.isEmpty && exponent.isEmpty then
    match integer sign whole with
    | .ok n => some (.ok (n, rest))
    | .error cause => some (.error (cause, t))
  else some (.ok (.decimal (sign ++ whole ++ fraction ++ exponent), rest))

/-- Infinity or no number. -/
def special? (t : Text) : Option (Value × Text) :=
  let sign := signOf t
  let body := t.drop sign.length
  if Text.startsWith "inf" body || Text.startsWith "nan" body then
    some (.decimal (sign ++ body.take 3), body.drop 3)
  else none

def number? (t : Text) : Option (Except (Cause × Text) (Value × Text)) :=
  (based? t).map .ok <|> decimal? t <|> (special? t).map .ok

/-! ## Dates and times -/

def twoDigits? (low high : Nat) (a b : Char) : Option Nat :=
  if a.isDigit && b.isDigit then
    (Text.number? 10 [a, b]).filter fun n ↦ low ≤ n && n ≤ high
  else none

/-- A time of day and the text after it: hours, minutes and seconds, with a fraction at most. -/
def clock? (t : Text) : Option (Text × Text) :=
  match t with
  | h :: h' :: ':' :: m :: m' :: ':' :: s :: s' :: rest => do
    let _ ← twoDigits? 0 23 h h'
    let _ ← twoDigits? 0 59 m m'
    let _ ← twoDigits? 0 59 s s'
    let fraction := match rest with
      | '.' :: rest => match rest.takeWhile Char.isDigit with
        | [] => []
        | written => '.' :: written
      | _ => []
    return (t.take (8 + fraction.length), rest.drop fraction.length)
  | _ => none

/-- The distance of a time of day from that of the prime meridian. -/
def zoneOf (t : Text) : Text :=
  match t with
  | 'Z' :: _ => ['Z']
  | 'z' :: _ => ['z']
  | sign :: h :: h' :: ':' :: m :: m' :: _ =>
    if (sign == '+' || sign == '-') && (twoDigits? 0 23 h h').isSome &&
      (twoDigits? 0 59 m m').isSome then t.take 6 else []
  | _ => []

def daysIn (year month : Nat) : Nat :=
  if month = 2 then
    if year % 4 = 0 && (year % 100 != 0 || year % 400 = 0) then 29 else 28
  else if [4, 6, 9, 11].contains month then 30
  else 31

/-- The year and the month with the number of the day, at the front of a text. -/
def day? (t : Text) : Option (Nat × Nat × Nat) :=
  match t with
  | y :: y' :: y'' :: y''' :: '-' :: m :: m' :: '-' :: d :: d' :: _ => do
    let century ← twoDigits? 0 99 y y'
    let year ← twoDigits? 0 99 y'' y'''
    let month ← twoDigits? 1 12 m m'
    let day ← twoDigits? 1 31 d d'
    return (century * 100 + year, month, day)
  | _ => none

/-- A day, with a time of day at most, if the text starts with one. -/
def dateOrMoment? (t : Text) : Option (Except (Cause × Text) (Value × Text)) :=
  (day? t).map fun (year, month, day) ↦
    if year = 0 || daysIn year month < day then .error (.noDate, t)
    else
      let date := t.take 10
      let rest := t.drop 10
      match rest with
      | mark :: after =>
        match if mark == 'T' || mark == 't' || mark == ' ' then clock? after else none with
        | some (clock, rest) =>
          let zone := zoneOf rest
          .ok (.moment (date ++ mark :: clock ++ zone), rest.drop zone.length)
        | none => .ok (.date date, rest)
      | [] => .ok (.date date, rest)

/-- The scalar other than a text that the text starts with. -/
def bareScalar : Reader Value := fun t ↦
  if Text.startsWith "true" t then .ok (.bool true, t.drop 4)
  else if Text.startsWith "false" t then .ok (.bool false, t.drop 5)
  else
    match dateOrMoment? t, clock? t, number? t with
    | some read, _, _ => read
    | none, some (clock, rest), _ => .ok (.time clock, rest)
    | none, none, some read => read
    | none, none, none => .error (.value, t)

end PluginReadme.Toml
