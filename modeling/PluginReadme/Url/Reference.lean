import PluginReadme.Text.Ascii
import PluginReadme.Text.Case
import PluginReadme.Text.Quoted
import PluginReadme.Url.HostNumber

/-!
# Relative references

A reference is read against a base address. What the reference leaves out comes from the base; its
path is joined to the folder of the base, and steps to the folder itself or above are carried out.
-/

namespace PluginReadme.Url

/-- The parts of a reference, without the signs between them. -/
structure Reference where
  scheme : Text := []
  host : Text := []
  path : Text := []
  parameters : Text := []
  query : Text := []
  fragment : Text := []
  deriving DecidableEq, Repr

inductive Fault where
  | unmatchedBracket
  | futureHost
  | bracketedIpv4
  | notNumeric (host : Text)
  | foldingHost (host : Text)
  deriving DecidableEq, Repr

def Fault.message : Fault → Text
  | .unmatchedBracket => "Invalid IPv6 URL"
  | .futureHost => "IPvFuture address is invalid"
  | .bracketedIpv4 => "An IPv4 address cannot be in brackets"
  | .notNumeric host => Text.quoted host ++ " does not appear to be an IPv4 or IPv6 address"
  | .foldingHost host =>
    "netloc '" ++ host ++ "' contains invalid characters under NFKC normalization"

/-! ## Schemes -/

def relativeSchemes : List Text :=
  (["", "ftp", "http", "gopher", "nntp", "imap", "wais", "file", "https", "shttp", "mms",
    "prospero", "rtsp", "rtsps", "rtspu", "sftp", "svn", "svn+ssh", "ws", "wss"] : List String).map
    String.toList

def hostSchemes : List Text :=
  (["", "ftp", "http", "gopher", "nntp", "telnet", "imap", "wais", "file", "mms", "https", "shttp",
    "snews", "prospero", "rtsp", "rtsps", "rtspu", "rsync", "svn", "svn+ssh", "sftp", "nfs", "git",
    "git+ssh", "ws", "wss"] : List String).map String.toList

/-- Schemes whose last path segment can have parameters. -/
def parameterSchemes : List Text :=
  (["", "ftp", "hdl", "prospero", "http", "imap", "https", "shttp", "rtsp", "rtsps", "rtspu", "sip",
    "sips", "mms", "sftp", "tel"] : List String).map String.toList

/-! ## Reading -/

/-- Characters that fold to one of the signs that part an address. -/
def foldsToSign (c : Char) : Bool :=
  [0x2047, 0x2048, 0x2049, 0x2100, 0x2101, 0x2105, 0x2106, 0x2A74, 0xFE13, 0xFE16, 0xFE55, 0xFE56,
    0xFE5F, 0xFE6B, 0xFF03, 0xFF0F, 0xFF1A, 0xFF1F, 0xFF20].contains c.toNat

/-- A host between brackets is a number of the longer notation, or of a future one. -/
def bracketFault? (host : Text) : Option Fault :=
  if Text.startsWith "v" host then
    let digits := host.tail.takeWhile isHexDigit
    match host.tail.drop digits.length with
    | '.' :: _ :: _ => if digits.isEmpty then some .futureHost else none
    | _ => some .futureHost
  else if isIpv4 host then some .bracketedIpv4
  else if isIpv6 host then none
  else some (.notNumeric host)

/-- What is wrong with the brackets of a host with its user and its number. Past the last `@` an
opening bracket comes first, and only a colon and a number follow the closing one; a host that has
its brackets in front of the `@` is judged as if it stood between them. -/
def bracketsFault? (host : Text) : Option Fault :=
  let opened := host.contains '['
  if opened != host.contains ']' then some .unmatchedBracket
  else if !opened then none
  else
    let place := Text.takeEndWhile (· != '@') host
    match place.span (· != '[') with
    | (front, '[' :: rest) =>
      let tail := (rest.dropWhile (· != ']')).tail
      if !front.isEmpty || !(tail.isEmpty || Text.startsWith ":" tail) then some .unmatchedBracket
      else bracketFault? (rest.takeWhile (· != ']'))
    | _ => bracketFault? (place.takeWhile (· != ':'))

def hostFault? (host : Text) : Option Fault :=
  match bracketsFault? host with
  | some fault => some fault
  | none => if host.any foldsToSign then some (.foldingHost host) else none

/-- The scheme and what follows its colon. -/
def cutLeadingScheme? (t : Text) : Option (Text × Text) :=
  let name := t.takeWhile (· != ':')
  let isPart (c : Char) : Bool := c.isAlphanum || c == '+' || c == '-' || c == '.'
  if name.length < t.length && name.head?.any Char.isAlpha && name.all isPart then
    some (name.map Char.toLower, t.drop (name.length + 1))
  else none

/-- The text before the first of the given character and the text after it. -/
def cutAfter (c : Char) (t : Text) : Text × Text :=
  let front := t.takeWhile (· != c)
  (front, t.drop (front.length + 1))

/-- The path without the parameters of its last segment, and the parameters. -/
def cutParameters (path : Text) : Text × Text :=
  let last := Text.takeEndWhile (· != '/') path
  let (segment, parameters) := cutAfter ';' last
  (path.take (path.length - last.length) ++ segment, parameters)

/-- The parts of a reference, given the scheme of its base. Control characters and spaces in front
and line ends anywhere do not count. -/
def Reference.ofText (scheme t : Text) : Except Fault Reference :=
  let visible := (t.dropWhile fun c ↦ c.toNat ≤ 0x20).filter fun c ↦
    !(c == '\t' || c == '\r' || c == '\n')
  let (scheme, rest) := (cutLeadingScheme? visible).getD (scheme, visible)
  let (host, rest) :=
    match Text.after? "//" rest with
    | some rest => rest.span fun c ↦ !(c == '/' || c == '?' || c == '#')
    | none => ([], rest)
  let (rest, fragment) := cutAfter '#' rest
  let (path, query) := cutAfter '?' rest
  let (path, parameters) :=
    if parameterSchemes.contains scheme then cutParameters path else (path, [])
  match hostFault? host with
  | some fault => .error fault
  | none => .ok { scheme, host, path, parameters, query, fragment }

/-! ## Writing -/

def Reference.text (reference : Reference) : Text :=
  let after (sign : Char) (part : Text) : Text := if part.isEmpty then [] else sign :: part
  let path := reference.path ++ after ';' reference.parameters
  let hasHost := !reference.host.isEmpty ||
    (!reference.scheme.isEmpty && hostSchemes.contains reference.scheme &&
      !Text.startsWith "//" path)
  let rooted := if path.isEmpty || Text.startsWith "/" path then path else '/' :: path
  let place := if hasHost then ("//" : Text) ++ reference.host ++ rooted else path
  (if reference.scheme.isEmpty then [] else reference.scheme ++ [':']) ++ place ++
    after '?' reference.query ++ after '#' reference.fragment

/-! ## Joining -/

/-- Carries out the steps of a path; a step above the top is dropped. -/
def walk : List Text → List Text → List Text
  | done, [] => done.reverse
  | done, segment :: rest =>
    if segment = "..".toList then walk done.tail rest
    else if segment = ".".toList then walk done rest
    else walk (segment :: done) rest

/-- The path without empty segments between its first and its last. -/
def withoutGaps : List Text → List Text
  | [] => []
  | first :: rest =>
    match rest.getLast? with
    | some last => first :: (rest.dropLast.filter fun segment ↦ !segment.isEmpty) ++ [last]
    | none => [first]

/-- A path read in the folder of another one. -/
def joinPath (base path : Text) : Text :=
  let segments := Text.splitOn '/' path
  let all :=
    if Text.startsWith "/" path then segments
    else
      let folder := Text.splitOn '/' base
      let folder := if folder.getLastD [] = [] then folder else folder.dropLast
      withoutGaps (folder ++ segments)
  let last := all.getLastD []
  let walked := walk [] all ++
    if last = "..".toList || last = ".".toList then [[]] else []
  let joined := Text.join "/" walked
  if joined.isEmpty then "/" else joined

/-- The address that a reference means when it is read at a base address. -/
def resolve (base t : Text) : Except Fault Text := do
  if base.isEmpty then return t
  if t.isEmpty then return base
  let source ← Reference.ofText [] base
  let reference ← Reference.ofText source.scheme t
  if reference.scheme ≠ source.scheme || !relativeSchemes.contains reference.scheme then return t
  else if !reference.host.isEmpty then return reference.text
  else
    let hosted := { reference with host := source.host }
    if reference.path.isEmpty && reference.parameters.isEmpty then
      let query := if reference.query.isEmpty then source.query else reference.query
      return { hosted with path := source.path, parameters := source.parameters, query }.text
    else return { hosted with path := joinPath source.path reference.path }.text

end PluginReadme.Url
