import PluginReadme.Block.Start
import PluginReadme.Markup.Entity
import PluginReadme.Url.Address

/-!
# Link definitions

A link definition is a label in brackets, a colon, an address and perhaps a title. It may run over
several lines; the lines that could continue it are given, and it takes as many as it needs.
-/

namespace PluginReadme

/-- A link definition with the lines it takes: the number of the first, counted from zero, and the
number after the last. -/
structure LinkDefinition where
  label : Text
  address : Text
  title : Option Text
  firstLine : Nat
  endLine : Nat
  deriving DecidableEq, Repr

namespace LinkDefinition

/-! ## Labels -/

/-- White space as labels count it: the blanks of ASCII without the separators before the space,
and the spaces and line separators beyond. The byte order mark is none. -/
def isLabelSpace (c : Char) : Bool :=
  let n := c.toNat
  (0x09 ≤ n && n ≤ 0x0D) || n == 0x20 || n == 0xA0 || n == 0x1680 ||
    (0x2000 ≤ n && n ≤ 0x200A) || n == 0x2028 || n == 0x2029 || n == 0x202F || n == 0x205F ||
    n == 0x3000

/-- Every run of white space becomes one space; `gap` says that one was just read. -/
def collapse : Bool → Text → Text
  | _, [] => []
  | gap, c :: rest =>
    if isLabelSpace c then collapse true rest
    else if gap then ' ' :: c :: collapse false rest
    else c :: collapse false rest

/-- The form of a label under which links find it. -/
def normalLabel (label : Text) : Text :=
  Text.upper (Text.lower (collapse false (Text.trim isLabelSpace label)))

/-! ## Reading over lines -/

/-- A place in the lines of a definition: what is left of the last line taken, the lines that may
still follow, and the number of lines taken. -/
structure Cursor where
  rest : Text
  pending : List Text
  taken : Nat
  deriving DecidableEq, Repr

/-- Passes white space. At the end of a line the next one is taken. -/
def passSpace : (rest : Text) → (pending : List Text) → (taken : Nat) → Cursor
  | rest, [], taken =>
    let left := rest.dropWhile Block.isSpaceOrTab
    ⟨if left.head? == some '\n' then [] else left, [], taken⟩
  | rest, next :: more, taken =>
    let left := rest.dropWhile Block.isSpaceOrTab
    if left.head? == some '\n' then passSpace next more (taken + 1) else ⟨left, next :: more, taken⟩

/-- How a line of a label or a title ends. -/
inductive Stretch where
  | closed (content rest : Text)
  | running (content : Text)
  | broken
  deriving DecidableEq, Repr

def Stretch.cons (c : Char) : Stretch → Stretch
  | .closed content rest => .closed (c :: content) rest
  | .running content => .running (c :: content)
  | .broken => .broken

/-- Reads a label up to its closing bracket. An opening bracket breaks it. -/
def labelStretch : Text → Stretch
  | [] => .running []
  | '[' :: _ => .broken
  | ']' :: rest => .closed [] rest
  | '\\' :: c :: rest => ((labelStretch rest).cons c).cons '\\'
  | c :: rest => (labelStretch rest).cons c

def label? : (line : Text) → (pending : List Text) → (taken : Nat) → Option (Text × Cursor)
  | line, pending, taken =>
    match labelStretch line with
    | .closed content rest => some (content, ⟨rest, pending, taken⟩)
    | .broken => none
    | .running content =>
      match pending with
      | [] => none
      | next :: more => do
        let (label, cursor) ← label? next more (taken + 1)
        return (content ++ label, cursor)

/-- Reads a title up to its closing mark. An opening parenthesis breaks a title in parentheses. -/
def titleStretch (close : Char) : Text → Stretch
  | [] => .running []
  | '\\' :: c :: rest => ((titleStretch close rest).cons c).cons '\\'
  | c :: rest =>
    if c == close then .closed [] rest
    else if c == '(' && close == ')' then .broken
    else (titleStretch close rest).cons c

def titleFrom? (close : Char) :
    (line : Text) → (pending : List Text) → (taken : Nat) → Option (Text × Cursor)
  | line, pending, taken =>
    match titleStretch close line with
    | .closed content rest => some (Entity.decode content, ⟨rest, pending, taken⟩)
    | .broken => none
    | .running content =>
      match pending with
      | [] => none
      | next :: more => do
        let (title, cursor) ← titleFrom? close next more (taken + 1)
        return (Entity.decode content ++ title, cursor)

def title? (cursor : Cursor) : Option (Text × Cursor) :=
  match cursor.rest with
  | '\"' :: rest => titleFrom? '\"' rest cursor.pending cursor.taken
  | '\'' :: rest => titleFrom? '\'' rest cursor.pending cursor.taken
  | '(' :: rest => titleFrom? ')' rest cursor.pending cursor.taken
  | _ => none

/-! ## Addresses -/

/-- The content of an address in angle brackets and what follows it. -/
def bracketed? : Text → Option (Text × Text)
  | [] => none
  | '\n' :: _ => none
  | '<' :: _ => none
  | '>' :: rest => some ([], rest)
  | '\\' :: c :: rest => do
    let (content, left) ← bracketed? rest
    return ('\\' :: c :: content, left)
  | c :: rest => do
    let (content, left) ← bracketed? rest
    return (c :: content, left)

/-- Parentheses in an address may be nested this deep. -/
def maximalNesting : Nat := 32

/-- An address up to a space, a control character or a closing parenthesis without partner;
`depth` parentheses are open. A backslash keeps the next character, unless that is a space. -/
def bare? : (depth : Nat) → Text → Option (Text × Text)
  | depth, [] => if depth = 0 then some ([], []) else none
  | depth, '\\' :: c :: rest =>
    if c == ' ' then if depth = 0 then some ([], '\\' :: c :: rest) else none
    else do
      let (content, left) ← bare? depth rest
      return ('\\' :: c :: content, left)
  | depth, c :: rest =>
    if c.toNat ≤ 0x20 || c.toNat == 0x7F || (c == ')' && depth == 0) then
      if depth = 0 then some ([], c :: rest) else none
    else do
      let inner := if c == '(' then depth + 1 else if c == ')' then depth - 1 else depth
      if maximalNesting < inner then none
      else
        let (content, left) ← bare? inner rest
        return (c :: content, left)

def address? (t : Text) : Option (Text × Text) :=
  match t with
  | '<' :: rest => bracketed? rest
  | _ =>
    match bare? 0 t with
    | some ([], _) => none
    | result => result

/-! ## Definitions -/

def atLineEnd (t : Text) : Bool :=
  match t.dropWhile Block.isSpaceOrTab with
  | [] => true
  | c :: _ => c == '\n'

/-- The title after an address, and the number of lines taken. White space parts the two, unless the
title runs over several lines. A title that does not end its line is none if the address ended its
own; otherwise the definition fails. -/
def titleAfter? (cursor : Cursor) : Option (Option Text × Nat) :=
  let start := passSpace cursor.rest cursor.pending cursor.taken
  let untitled := if atLineEnd cursor.rest then some (none, cursor.taken) else none
  let counts (found : Text × Cursor) : Bool := start != cursor || start.taken < found.2.taken
  match (title? start).filter counts with
  | none => untitled
  | some (title, after) =>
    if atLineEnd after.rest then
      some (if title.isEmpty then none else some title, after.taken)
    else if title.isEmpty then none
    else untitled

/-- The definition that starts on a line, given with the lines that could continue it. -/
def read? (number : Nat) (line : Text) (pending : List Text) : Option LinkDefinition := do
  let body ← Text.after? "[" line
  let (label, afterLabel) ← label? body pending 1
  let colon ← Text.after? ":" afterLabel.rest
  let start := passSpace colon afterLabel.pending afterLabel.taken
  let (written, rest) ← address? start.rest
  let address := Url.normalForm (Entity.decode written)
  if !Url.isAllowed address then none
  else
    let (title, taken) ← titleAfter? { start with rest }
    let label := normalLabel label
    if label.isEmpty then none
    else return ⟨label, address, title, number, number + taken⟩

end LinkDefinition

end PluginReadme
