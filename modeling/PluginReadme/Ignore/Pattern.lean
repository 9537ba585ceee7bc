import PluginReadme.Text.Blank
import PluginReadme.Text.Quoted

/-!
# Ignore patterns

A pattern says which paths of a tree are ignored. Its segments are matched against those of a path:
two asterisks stand for any number of segments, and inside a segment there are wildcards. A pattern
covers what is below the entries it matches.
-/

namespace PluginReadme.Ignore

/-- Why a line is no pattern: it has no meaning, or a range in it ends before it starts; `before` is
what stands before that range in the regular expression of the pattern, and `severalLines` says that
the expression has a line feed. -/
inductive Fault where
  | line (written : Text)
  | range (low high : Char) (before : Text) (severalLines : Bool)
  deriving DecidableEq, Repr

/-- A character inside a class of a regular expression. -/
def classChar (c : Char) : Text := if c == '\\' then ['\\', '\\'] else [c]

/-- A place is given by what stands before it: its number and, where there are several lines, those
of its line and column. -/
def placeText (before : Text) (severalLines : Bool) : Text :=
  "position " ++ Text.ofNat before.length ++
    if severalLines then
      " (line " ++ Text.ofNat (before.count '\n' + 1) ++ ", column " ++
        Text.ofNat ((before.reverse.takeWhile (· != '\n')).length + 1) ++ [')']
    else []

def Fault.message : Fault → Text
  | .line written => "Invalid git pattern: " ++ Text.quoted written
  | .range low high before severalLines =>
    "bad character range " ++ classChar low ++ '-' :: classChar high ++ " at " ++
      placeText before severalLines

/-! ## Segments -/

/-- A member of a class: a character, or all from one to another. -/
inductive Member where
  | one (c : Char)
  | range (low high : Char)
  deriving DecidableEq, Repr

/-- A part of a segment: a character, any one character, any characters, or one of a class. -/
inductive Glob where
  | char (c : Char)
  | any
  | many
  | oneOf (negated : Bool) (members : List Member)
  deriving DecidableEq, Repr

/-- A segment; a lone asterisk is not empty, and two stand for any number of segments. -/
inductive Segment where
  | deep
  | whole
  | glob (parts : List Glob)
  deriving DecidableEq, Repr

/-- Why a segment cannot be read: a class without end, or a backslash with nothing to keep. -/
inductive SegmentFault where
  | openClass
  | loneBackslash

/-- The members of a class; a hyphen at either end stands for itself. -/
def membersOf : Text → List Member
  | a :: '-' :: b :: rest => .range a b :: membersOf rest
  | a :: rest => .one a :: membersOf rest
  | [] => []

/-- The inside of a class and the number of characters it has with its closing bracket: a bracket
right at the start stands for itself. -/
def classInside? (t : Text) : Option (Bool × Text × Nat) :=
  let (negated, body) := match t with
    | '!' :: rest => (true, rest)
    | '^' :: rest => (true, rest)
    | _ => (false, t)
  let (front, rest) : Text × Text := match body with
    | ']' :: rest => ([']'], rest)
    | _ => ([], body)
  let inside := rest.takeWhile (· != ']')
  if inside.length < rest.length then
    some (negated, front ++ inside, t.length - rest.length + inside.length + 1)
  else none

/-- The parts of a segment, of which the first `skip` characters belong to a class read before. -/
def globsFrom : (skip : Nat) → Text → Except SegmentFault (List Glob)
  | _, [] => .ok []
  | skip + 1, _ :: rest => globsFrom skip rest
  | 0, '\\' :: c :: rest => return .char c :: (← globsFrom 0 rest)
  | 0, ['\\'] => .error .loneBackslash
  | 0, '*' :: rest => return .many :: (← globsFrom 0 rest)
  | 0, '?' :: rest => return .any :: (← globsFrom 0 rest)
  | 0, '[' :: rest =>
    match classInside? rest with
    | some (negated, inside, length) =>
      return .oneOf negated (membersOf inside) :: (← globsFrom length rest)
    | none => .error .openClass
  | 0, c :: rest => return .char c :: (← globsFrom 0 rest)

def Segment.ofText (t : Text) : Except SegmentFault Segment :=
  if t = "**".toList then .ok .deep
  else if t = "*".toList then .ok .whole
  else return .glob (← globsFrom 0 t)

/-! ## Regular expressions

A pattern has a regular expression, in which the place of a range that cannot be is counted.
-/

/-- Characters that a regular expression writes with a backslash. -/
def isSpecial (c : Char) : Bool :=
  ("()[]\x7b\x7d?*+-|^$\\.&~# \t\n\r\x0b\x0c" : Text).contains c

def Member.regex : Member → Text
  | .one c => classChar c
  | .range low high => classChar low ++ '-' :: classChar high

def Glob.regex : Glob → Text
  | .char c => if isSpecial c then ['\\', c] else [c]
  | .any => "[^/]"
  | .many => "[^/]*"
  | .oneOf negated members =>
    (if negated then "[^" else "[") ++ members.flatMap Member.regex ++ [']']

/-- The first range that ends before it starts, among the members of a class, and what of them
stands before it. -/
def misplaced? : (before : Text) → List Member → Option (Char × Char × Text)
  | _, [] => none
  | before, .one c :: rest => misplaced? (before ++ classChar c) rest
  | before, .range low high :: rest =>
    if high < low then some (low, high, before)
    else misplaced? (before ++ (Member.range low high).regex) rest

def misplacedInParts? : (before : Text) → List Glob → Option (Char × Char × Text)
  | _, [] => none
  | before, .oneOf negated members :: rest =>
    misplaced? (before ++ if negated then "[^" else "[") members <|>
      misplacedInParts? (before ++ (Glob.oneOf negated members).regex) rest
  | before, part :: rest => misplacedInParts? (before ++ part.regex) rest

/-- The first such range in segments. A slash is needed in front of a segment unless it stands at
the start or after two asterisks there. -/
def misplacedInSegments? : (before : Text) → (start slash : Bool) → List Segment →
    Option (Char × Char × Text)
  | _, _, _, [] => none
  | before, true, _, .deep :: rest =>
    misplacedInSegments? (before ++ "(?:.+/)?") false false rest
  | before, false, _, .deep :: rest =>
    misplacedInSegments? (before ++ "(?:/.+)?") false true rest
  | before, _, slash, .whole :: rest =>
    misplacedInSegments? (before ++ (if slash then "/" else "") ++ "[^/]+") false true rest
  | before, _, slash, .glob parts :: rest =>
    let before := before ++ if slash then "/" else ""
    misplacedInParts? before parts <|>
      misplacedInSegments? (before ++ parts.flatMap Glob.regex) false true rest

/-! ## Patterns -/

/-- What a pattern matches: its segments from the top of the tree, everything, or everything that
is inside of something. -/
inductive Shape where
  | everything
  | nested
  | segments (segments : List Segment)
  deriving DecidableEq, Repr

/-- A pattern: whether it ignores or takes back, whether it matches folders only, and its shape. -/
structure Pattern where
  ignores : Bool
  foldersOnly : Bool
  shape : Shape
  deriving DecidableEq, Repr

/-- The segments seen from the top of the tree: a pattern without a slash before its end matches at
every depth. -/
def anchored : List Text → List Text
  | [] => []
  | first :: rest =>
    if first.isEmpty then rest
    else if (rest.isEmpty || rest == [[]]) && first != "**".toList then "**".toList :: first :: rest
    else first :: rest

/-- The segments with an empty last one, which stands for everything below. -/
def withTail (segments : List Text) : List Text :=
  if segments.getLast? = some [] then segments.dropLast ++ ["**".toList] else segments

/-- One pair of asterisks in place of several in a row. -/
def collapsed : List Text → List Text
  | a :: b :: rest =>
    if a = "**".toList && b = "**".toList then collapsed (b :: rest) else a :: collapsed (b :: rest)
  | rest => rest

def Shape.ofSegments (foldersOnly : Bool) (segments : List Segment) : Shape :=
  match segments with
  | [.deep] => if foldersOnly then .nested else .everything
  | [.deep, .whole] => .everything
  | [.deep, .whole, .deep] => .nested
  | _ => .segments segments

/-- The line without the blanks at its end, unless a backslash keeps them. -/
def trimmedLine (line : Text) : Text :=
  if Text.endsWith "\\ " line then line else Text.stripRight line

/-- The pattern on a line. There is none on a blank line, on a comment, and where a class has no
end. -/
def Pattern.ofLine (line : Text) : Except Fault (Option Pattern) :=
  let t := trimmedLine line
  if t.isEmpty || Text.startsWith "#" t || t == ['/'] then .ok none
  else
    let (ignores, body) : Bool × Text := match t with
      | '!' :: rest => (false, rest)
      | _ => (true, t)
    let written := Text.splitOn '/' body
    let foldersOnly := written.getLast? == some []
    let segments := anchored written
    if segments.isEmpty then .error (.line line)
    else
      match (collapsed (withTail segments)).mapM Segment.ofText with
      | .ok segments =>
        match misplacedInSegments? "^" true false segments with
        | none => .ok (some ⟨ignores, foldersOnly, .ofSegments foldersOnly segments⟩)
        | some (low, high, before) => .error (.range low high before (t.contains '\n'))
      | .error .openClass => .ok none
      | .error .loneBackslash => .error (.line line)

/-! ## Matching -/

/-- How a path is matched: as an entry of its own, or through a folder that it is in or is. -/
inductive Rank where
  | folder
  | entry
  deriving DecidableEq, Repr

/-- What is to be matched after a part: the rest of the path is given, and a rank answered. -/
abbrev Rest := Text → Option Rank

/-- Any characters but slashes, as many as possible first. -/
def manyThen (next : Rest) : Rest
  | [] => next []
  | c :: rest => if c == '/' then next (c :: rest) else manyThen next rest <|> next (c :: rest)

/-- One character that is asked for. -/
def oneThen (holds : Char → Bool) (next : Rest) : Rest
  | [] => none
  | c :: rest => if holds c then next rest else none

def Member.holds (c : Char) : Member → Bool
  | .one a => c == a
  | .range low high => low ≤ c && c ≤ high

def globThen (next : Rest) : List Glob → Rest
  | [] => next
  | .char a :: more => oneThen (· == a) (globThen next more)
  | .any :: more => oneThen (· != '/') (globThen next more)
  | .many :: more => manyThen (globThen next more)
  | .oneOf negated members :: more =>
    oneThen (fun c ↦ members.any (Member.holds c) != negated) (globThen next more)

/-- A character that segments in between may have; a name with a line feed is never passed over. -/
def isPassable (c : Char) : Bool := c != '\n'

/-- A slash after at least one character, as late as possible. -/
def lateSlashThen (next : Rest) : (passed : Bool) → Rest
  | _, [] => none
  | passed, c :: rest =>
    (if isPassable c then lateSlashThen next true rest else none) <|>
      if passed && c == '/' then next rest else none

/-- At least one character, as many as possible first. -/
def someThen (next : Rest) : Rest
  | [] => none
  | c :: rest => if isPassable c then someThen next rest <|> next rest else none

def slashThen (next : Rest) : Rest := oneThen (· == '/') next

/-- The end of a pattern: the path ends here too, a line feed at its end aside, or goes on below. -/
def atEnd : Rest
  | [] | ['\n'] => some .entry
  | '/' :: _ => some .folder
  | _ => none

/-- Something below what was matched so far. -/
def belowThen (foldersOnly : Bool) : Rest
  | '/' :: _ => some (if foldersOnly then .folder else .entry)
  | _ => none

/-- Matches segments; a slash is needed in front of them unless they stand at the start. -/
def segmentsThen (foldersOnly : Bool) : (start slash : Bool) → List Segment → Rest
  | _, _, [] => fun _ ↦ none
  | true, _, .deep :: more => fun t ↦
    lateSlashThen (segmentsThen foldersOnly false false more) false t <|>
      segmentsThen foldersOnly false false more t
  | false, _, [.deep] => belowThen foldersOnly
  | false, _, .deep :: more => fun t ↦
    slashThen (someThen (segmentsThen foldersOnly false true more)) t <|>
      segmentsThen foldersOnly false true more t
  | _, slash, segment :: more =>
    let next := if more.isEmpty then atEnd else segmentsThen foldersOnly false true more
    let body := match segment with
      | .glob parts => globThen next parts
      | _ => oneThen (· != '/') (manyThen next)
    if slash then slashThen body else body

def Pattern.rank? (pattern : Pattern) (path : Text) : Option Rank :=
  match pattern.shape with
  | .everything => if path.any isPassable then some .entry else none
  | .nested =>
    if path.contains '/' then some (if pattern.foldersOnly then .folder else .entry) else none
  | .segments segments => segmentsThen pattern.foldersOnly true false segments path

end PluginReadme.Ignore
