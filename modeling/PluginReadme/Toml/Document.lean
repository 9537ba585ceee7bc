import PluginReadme.Toml.Scalar

/-!
# TOML documents

A document is a sequence of statements: a header opens a table or adds a table to a list, and a
pair gives a key a value. A table may be opened by one header only, and a list or table that was
written as a value is closed for good.
-/

namespace PluginReadme.Toml

/-! ## Values -/

/-- Passes over blanks, line ends and comments; each round takes at least one character. -/
def skipGapFrom : (characters : Nat) → Text → Except (Cause × Text) Text
  | 0, t => .ok t
  | characters + 1, t => do
    let rest ← skipComment (t.dropWhile isSpaceOrFeed)
    if rest.length = t.length then return rest else skipGapFrom characters rest

def skipGap (t : Text) : Except (Cause × Text) Text := skipGapFrom t.length t

/-- A closed key leads into what was written as a value. -/
def leadsInto (closed : List Key) (key : Key) : Bool := closed.any fun k ↦ k.isPrefixOf key

/-- Adds a pair to a table. Pairs after it must not lead into a list or table. -/
def addPair (closed : List Key) (key : Key) (value : Value) (place : Text) (table : Table) :
    Except (Cause × Text) Table :=
  if leadsInto closed key then .error (.closed key, place)
  else
    let name := key.getLastD []
    match Table.change? false some key.dropLast table with
    | none => .error (.overwritten, place)
    | some _ =>
      match Table.change? false (Table.add? name value) key.dropLast table with
      | some table => .ok table
      | none => .error (.repeated name, place)

mutual

/-- A value; `fuel` bounds the number of values and items inside of one another and in a row. -/
def valueFrom : (fuel : Nat) → Reader Value
  | 0, t => .error (.value, t)
  | fuel + 1, t =>
    match quotedText? t, t with
    | some read, _ => read.map fun (inside, rest) ↦ (.text inside, rest)
    | none, '[' :: rest => do
      match ← skipGap rest with
      | ']' :: rest => return (.list [], rest)
      | rest => do
        let (items, rest) ← itemsFrom fuel rest
        return (.list items, rest)
    | none, '\x7b' :: rest =>
      match skipSpaces rest with
      | '\x7d' :: rest => .ok (.table [], rest)
      | rest => do
        let (table, rest) ← pairsFrom fuel [] [] rest
        return (.table table, rest)
    | none, _ => bareScalar t

/-- The items of a list up to its closing bracket, which may follow a comma. -/
def itemsFrom : (fuel : Nat) → Reader (List Value)
  | 0, t => .error (.value, t)
  | fuel + 1, t => do
    let (item, rest) ← valueFrom fuel t
    match ← skipGap rest with
    | ']' :: rest => return ([item], rest)
    | ',' :: rest => do
      match ← skipGap rest with
      | ']' :: rest => return ([item], rest)
      | rest => do
        let (items, rest) ← itemsFrom fuel rest
        return (item :: items, rest)
    | rest => .error (.openList, rest)

/-- The pairs of a table on one line, up to its closing brace, added to those read before. -/
def pairsFrom : (fuel : Nat) → (closed : List Key) → Table → Reader Table
  | 0, _, _, t => .error (.value, t)
  | fuel + 1, closed, table, t => do
    let (key, rest) ← key t
    match rest with
    | '=' :: rest => do
      let (value, rest) ← valueFrom fuel (skipSpaces rest)
      let table ← addPair closed key value rest table
      match skipSpaces rest with
      | '\x7d' :: rest => return (table, rest)
      | ',' :: rest =>
        pairsFrom fuel (if value.isContainer then key :: closed else closed) table (skipSpaces rest)
      | rest => .error (.openTable, rest)
    | rest => .error (.noEquals, rest)

end

/-- A value, which cannot hold more values and items than twice its characters. -/
def value : Reader Value := fun t ↦ valueFrom (2 * t.length + 2) t

/-! ## Statements -/

/-- A document under way: its content, the table that pairs go to, the keys that lead into what was
written as a value, the tables that were opened, and those that will count as opened after the next
header. -/
structure State where
  content : Table := []
  header : Key := []
  closed : List Key := []
  opened : List Key := []
  pending : List Key := []

namespace State

def openTable (state : State) (key : Key) (place : Text) : Except (Cause × Text) State :=
  let opened := state.pending ++ state.opened
  if opened.contains key || leadsInto state.closed key then .error (.declaredTwice key, place)
  else
    match Table.change? true some key state.content with
    | some content =>
      .ok { state with content, header := key, opened := key :: opened, pending := [] }
    | none => .error (.overwritten, place)

/-- Adds a table to a list by a header. What was said of the tables before it is forgotten. -/
def openItem (state : State) (key : Key) (place : Text) : Except (Cause × Text) State :=
  if leadsInto state.closed key then .error (.closed key, place)
  else
    let others (keys : List Key) : List Key := keys.filter fun k ↦ !key.isPrefixOf k
    match Table.change? true (Table.addItem? (key.getLastD [])) key.dropLast state.content with
    | some content =>
      .ok { content, header := key, closed := others state.closed,
            opened := key :: others (state.pending ++ state.opened), pending := [] }
    | none => .error (.overwritten, place)

/-- The tables that a dotted key leads through below a table. -/
def tablesOf (header key : Key) : List Key :=
  (List.range (key.length - 1)).map fun n ↦ header ++ key.take (n + 1)

def pair (state : State) (key : Key) (value : Value) (place : Text) :
    Except (Cause × Text) State :=
  let tables := tablesOf state.header key
  let parent := state.header ++ key.dropLast
  match tables.find? state.opened.contains with
  | some taken => .error (.redefined taken, place)
  | none =>
    if leadsInto state.closed parent then .error (.closed parent, place)
    else
      match Table.change? true (Table.add? (key.getLastD []) value) parent state.content with
      | some content =>
        let closed :=
          if value.isContainer then (state.header ++ key) :: state.closed else state.closed
        .ok { state with content, closed, pending := tables ++ state.pending }
      | none => .error (.overwritten, place)

end State

/-- Reads a statement that starts with a character, up to the spaces after it. -/
def statement (state : State) (c : Char) (t : Text) : Except (Cause × Text) (State × Text) := do
  if startsKey c then
    let (key, rest) ← key t
    match rest with
    | '=' :: rest => do
      let (value, rest) ← value (skipSpaces rest)
      return (← state.pair key value rest, skipSpaces rest)
    | rest => .error (.noEquals, rest)
  else if Text.startsWith "[[" t then
    let (key, rest) ← key (skipSpaces (t.drop 2))
    let state ← state.openItem key rest
    match rest with
    | ']' :: ']' :: rest => return (state, skipSpaces rest)
    | rest => .error (.openListHeader, rest)
  else if c == '[' then
    let (key, rest) ← key (skipSpaces (t.drop 1))
    let state ← state.openTable key rest
    match rest with
    | ']' :: rest => return (state, skipSpaces rest)
    | rest => .error (.openHeader, rest)
  else if c == '#' then return (state, t)
  else .error (.statement, t)

/-- Reads statements to the end of the text; each takes at least one character. -/
def statementsFrom : (characters : Nat) → State → Text → Except (Cause × Text) State
  | 0, state, _ => .ok state
  | characters + 1, state, t =>
    match skipSpaces t with
    | [] => .ok state
    | '\n' :: rest => statementsFrom characters state rest
    | c :: rest => do
      let (state, rest) ← statement state c (c :: rest)
      match ← skipComment rest with
      | [] => return state
      | '\n' :: rest => statementsFrom characters state rest
      | rest => .error (.trailing, rest)

def Table.ofText (t : Text) : Except Fault Table :=
  match statementsFrom t.length {} t with
  | .ok state => .ok state.content
  | .error (cause, rest) => .error (Fault.at t cause rest)

end PluginReadme.Toml
