import PluginReadme.Text.Quoted

/-!
# TOML values

The values of a TOML document, and tables as lists of entries in the order of the document. A
dotted key leads through tables, and through the last item of a list of tables.
-/

namespace PluginReadme.Toml

inductive Value where
  | text (value : Text)
  | integer (value : Int)
  /-- A number with a fraction or an exponent, or a special number, as it is written. -/
  | decimal (written : Text)
  | bool (value : Bool)
  /-- A day with a time of day, as it is written. -/
  | moment (written : Text)
  | date (written : Text)
  | time (written : Text)
  | list (items : List Value)
  | table (entries : List (Text × Value))
  deriving Inhabited

abbrev Table := List (Text × Value)

/-- A dotted key, part by part. -/
abbrev Key := List Text

namespace Value

def kindName : Value → Text
  | .text _ => "str"
  | .integer _ => "int"
  | .decimal _ => "float"
  | .bool _ => "bool"
  | .moment _ => "datetime.datetime"
  | .date _ => "datetime.date"
  | .time _ => "datetime.time"
  | .list _ => "list"
  | .table _ => "dict"

/-- A list or a table, which dotted keys must not reach into once it is written. -/
def isContainer : Value → Bool
  | .list _ => true
  | .table _ => true
  | _ => false

/-- The text of a value that is one. -/
def text? : Value → Option Text
  | .text t => some t
  | _ => none

end Value

namespace Table

/-- Gives a name a value; a new name comes last. -/
def put (name : Text) (value : Value) : Table → Table
  | [] => [(name, value)]
  | (key, old) :: rest =>
    if key = name then (key, value) :: rest else (key, old) :: put name value rest

/-- Changes the table that a key leads to, and makes the tables that are missing on the way. There
is no result where a value of another kind is in the way; lists are one unless `throughLists`. -/
def change? (throughLists : Bool) (f : Table → Option Table) : Key → Table → Option Table
  | [], table => f table
  | name :: rest, table =>
    match table.lookup name with
    | none => return put name (.table (← change? throughLists f rest [])) table
    | some (.table inner) =>
      return put name (.table (← change? throughLists f rest inner)) table
    | some (.list items) =>
      match throughLists, items.getLast? with
      | true, some (.table inner) => do
        let changed ← change? throughLists f rest inner
        return put name (.list (items.dropLast ++ [.table changed])) table
      | _, _ => none
    | some _ => none

/-- Adds a value at the end of a table that does not have its name yet. -/
def add? (name : Text) (value : Value) (table : Table) : Option Table :=
  if (table.lookup name).isSome then none else some (table ++ [(name, value)])

/-- Adds an empty table to the list of a name, which is made if it is missing. -/
def addItem? (name : Text) (table : Table) : Option Table :=
  match table.lookup name with
  | none => some (put name (.list [.table []]) table)
  | some (.list items) => some (put name (.list (items ++ [.table []])) table)
  | some _ => none

/-- What a name holds is kept by giving a value to another name. -/
theorem lookup_put_of_ne {name other : Text} (h : other ≠ name) (value : Value) (table : Table) :
    (put name value table).lookup other = table.lookup other := by
  induction table with
  | nil => simp [put, List.lookup_cons, beq_eq_false_iff_ne.2 h]
  | cons entry rest ih =>
    obtain ⟨key, old⟩ := entry
    unfold put
    split
    · rename_i hk
      subst hk
      simp [List.lookup_cons, beq_eq_false_iff_ne.2 h]
    · simp [List.lookup_cons, ih]

/-- A name holds the value that it was given. -/
theorem lookup_put (name : Text) (value : Value) (table : Table) :
    (put name value table).lookup name = some value := by
  induction table with
  | nil => simp [put]
  | cons entry rest ih =>
    obtain ⟨key, old⟩ := entry
    unfold put
    split
    · rename_i hk
      subst hk
      simp
    · rename_i hk
      simp [List.lookup_cons, beq_eq_false_iff_ne.2 (Ne.symm hk), ih]

end Table

end PluginReadme.Toml
