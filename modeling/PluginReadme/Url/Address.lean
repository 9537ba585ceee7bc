import PluginReadme.Text.Blank
import PluginReadme.Text.Case
import PluginReadme.Url.Encode
import PluginReadme.Url.Punycode

/-!
# Link addresses

An address is cut into its parts, its host is written in ASCII, and the whole is put together again
and percent-encoded. Addresses of schemes that run or embed something are refused.
-/

namespace PluginReadme.Url

/-- The parts of an address. The scheme has its colon, the query its question mark and the fragment
its number sign; `slashes` says that two slashes stand before the host, and `number` is what follows
the colon after the host. -/
structure Address where
  scheme : Text := []
  slashes : Bool := false
  user : Text := []
  host : Text := []
  number : Text := []
  path : Text := []
  query : Text := []
  fragment : Text := []
  deriving DecidableEq, Repr

/-! ## Cutting -/

def isSchemeChar (c : Char) : Bool :=
  let d := foldCase c
  ('a' ≤ d && d ≤ 'z') || ('0' ≤ d && d ≤ '9') || d == '.' || d == '+' || d == '-'

def cutScheme (t : Text) : Text × Text :=
  let name := t.takeWhile isSchemeChar
  match t.drop name.length with
  | ':' :: rest => if name.isEmpty then ([], t) else (name ++ [':'], rest)
  | _ => ([], t)

/-- The text before the first character of a class and the text from it on. -/
def cutAt (p : Char → Bool) (t : Text) : Text × Text := t.span fun c ↦ !p c

/-- The text before the last occurrence of a character and the text after it. -/
def cutLast? (c : Char) (t : Text) : Option (Text × Text) :=
  if t.contains c then
    let tail := Text.takeEndWhile (· != c) t
    some (t.take (t.length - tail.length - 1), tail)
  else none

def isHostEnd (c : Char) : Bool := c == '/' || c == '?' || c == '#'

/-- The characters that a host cannot have. -/
def isNoHostChar (c : Char) : Bool :=
  ("%/?;#'\x7b\x7d|\\^\x60<>\" \r\n\t" : Text).contains c

def cutUser (t : Text) : Text × Text :=
  let (front, rest) := cutAt isHostEnd t
  match cutLast? '@' front with
  | some (user, host) => (user, host ++ rest)
  | none => ([], t)

/-- The host without the number after its last colon, and that number. -/
def cutNumber (t : Text) : Text × Text :=
  match cutLast? ':' t with
  | some (host, number) => if number.all Char.isDigit then (host, number) else (t, [])
  | none => (t, [])

def isLabelChar (c : Char) : Bool := c.isAlphanum || c == '+' || c == '_' || c == '-'

/-- A label of a host name; characters beyond ASCII count as letters. -/
def isLabel (label : Text) : Bool :=
  label.length ≤ 63 && label.all fun c ↦ isLabelChar c || 0x7F < c.toNat

/-- Keeps the labels of a host name up to the first faulty one, of which the longest good
beginning is kept; the second part is what no longer belongs to the host. -/
def cutLabels : List Text → List Text × Option Text
  | [] => ([], none)
  | label :: more =>
    if isLabel label then
      let (kept, left) := cutLabels more
      (label :: kept, left)
    else
      let good := (label.take 63).takeWhile isLabelChar
      ([good], some (Text.join "." (label.drop good.length :: more)))

/-- The host name in its checked form, and the text that goes to the path. -/
def checkHost (host : Text) : Text × Text :=
  if Text.startsWith "[" host && Text.endsWith "]" host then
    (if 255 < host.length then [] else host.tail.dropLast, [])
  else
    let (labels, left) := cutLabels (Text.splitOn '.' host)
    let name := Text.join "." labels
    (if 255 < name.length then [] else name, left.getD [])

/-- Schemes whose addresses have a host only after two slashes. -/
def slashedSchemes : List Text := ["http:", "https:", "ftp:", "gopher:", "file:"]

/-- Cuts what follows the host into path, query and fragment. -/
def Address.withTail (address : Address) (rest : Text) : Address :=
  let (front, fragment) := cutAt (· == '#') rest
  let (path, query) := cutAt (· == '?') front
  { address with path, query, fragment }

def Address.ofText (t : Text) : Address :=
  let (scheme, rest) := cutScheme (Text.strip t)
  let hostless := decide (scheme = ("javascript:" : Text))
  let slashes := Text.startsWith "//" rest && !hostless
  let rest := if slashes then rest.drop 2 else rest
  if !hostless && (slashes || (!scheme.isEmpty && !slashedSchemes.contains scheme)) then
    let (user, rest) := cutUser rest
    let (front, rest) := cutAt isNoHostChar rest
    let (front, rest) :=
      if Text.endsWith ":" front then (front.dropLast, ':' :: rest) else (front, rest)
    let (host, number) := cutNumber front
    let (name, left) := checkHost host
    { scheme, slashes, user, host := name, number : Address }.withTail (left ++ rest)
  else { scheme, slashes : Address }.withTail rest

/-! ## Writing -/

/-- The text of a host. One with a colon in it stands in brackets, which are part of the address and
not encoded. -/
def hostText (host : Text) : Text :=
  if host.contains ':' then '[' :: encode host ++ [']'] else encode host

def Address.text (address : Address) : Text :=
  let front := address.scheme ++ (if address.slashes then ("//" : Text) else []) ++
    (if address.user.isEmpty then [] else address.user ++ ['@'])
  let back := (if address.number.isEmpty then [] else ':' :: address.number) ++
    address.path ++ address.query ++ address.fragment
  encode front ++ hostText address.host ++ encode back

def isLabelDot (c : Char) : Bool :=
  c == '.' || c.toNat == 0x3002 || c.toNat == 0xFF0E || c.toNat == 0xFF61

def asciiHost (host : Text) : Text :=
  let labels := Text.splitOn '.' (host.map fun c ↦ if isLabelDot c then '.' else c)
  Text.join "." (labels.map fun label ↦
    if label.all (·.toNat < 0x7F) then label else "xn--" ++ Punycode.encode label)

/-- The written form of an address, with the host in ASCII for the schemes that are known to have
one. -/
def normalForm (t : Text) : Text :=
  let address := Address.ofText t
  let known := address.scheme.isEmpty ||
    (["http:", "https:", "mailto:"] : List Text).contains address.scheme
  (if known then { address with host := asciiHost address.host } else address).text

/-- A link may lead to the address. -/
def isAllowed (t : Text) : Bool :=
  let low := Text.lower (Text.strip t)
  let refused := (["vbscript:", "javascript:", "file:", "data:"] : List Text).any
    (Text.startsWith · low)
  let image := (["gif;", "png;", "jpeg;", "webp;"] : List Text).any fun kind ↦
    Text.startsWith ("data:image/" ++ kind) low
  !refused || image

end PluginReadme.Url
