/-!
# TOML values and tables

A document is a table: keys with values, in the order in which the document first names them. Tables come about in
four ways, and the way decides what later lines may do with a table. An inline table is closed. A table opened by a
header takes the assignments below the header, and headers may open tables inside it. A table that a header only
implies, being the parent of the one it opens, may still get a header of its own. A table that a dotted key implies
grows by dotted keys only.
-/

namespace PubSub.Toml

/-- How a table came about. -/
inductive Origin where
  | inline
  | header
  | implied
  | dotted
  deriving DecidableEq

/-- A value of a document. Floating-point numbers and times are told apart from the other values but not evaluated. -/
inductive Value where
  | string (text : String)
  | integer (value : Int)
  | float
  | boolean (value : Bool)
  | dateTime
  | array (items : List Value)
  | table (origin : Origin) (entries : List (String × Value))
  /-- Tables opened one after the other by headers in double brackets. -/
  | tables (items : List (List (String × Value)))
  deriving Inhabited

abbrev Table := List (String × Value)

namespace Table

def get? (table : Table) (key : String) : Option Value :=
  (table.find? fun entry ↦ entry.1 == key).map Prod.snd

def replace (table : Table) (key : String) (value : Value) : Table :=
  table.map fun entry ↦ if entry.1 == key then (key, value) else entry

def remove (table : Table) (key : String) : Table :=
  table.filter fun entry ↦ entry.1 != key

/-- The list with its last element changed, if it has one and the change succeeds. -/
def modifyLast? {α : Type} (change : α → Option α) : List α → Option (List α)
  | [] => none
  | [last] => (change last).map fun last ↦ [last]
  | first :: rest => (modifyLast? change rest).map (first :: ·)

/-- The table with a value assigned to a dotted key, `path` being the parts before the last. A part that is new opens a
table. A part that a header opened, or that is no table, is refused, and so is a last part that is taken already. The
table that takes the value must itself have come from dotted keys. -/
def assign (key : String) (value : Value) : List String → Table → Option Table
  | [], table =>
    match table.get? key with
    | some _ => none
    | none => some (table ++ [(key, value)])
  | part :: path, table =>
    match table.get? part with
    | none => (assign key value path []).map fun inner ↦ table ++ [(part, .table .dotted inner)]
    | some (.table .dotted inner) =>
      (assign key value path inner).map fun inner ↦ table.replace part (.table .dotted inner)
    | some (.table .implied inner) =>
      if path.isEmpty then none
      else (assign key value path inner).map fun inner ↦ table.replace part (.table .implied inner)
    | some (.tables items) =>
      if path.isEmpty then none
      else (modifyLast? (assign key value path) items).map fun items ↦ table.replace part (.tables items)
    | some _ => none

/-- The table with a change applied to the table inside it that a header's path leads to. Parts that are new open
tables; a part that holds several tables leads to the last of them. -/
def descend (change : Table → Option Table) : List String → Table → Option Table
  | [], table => change table
  | part :: path, table =>
    match table.get? part with
    | none => (descend change path []).map fun inner ↦ table ++ [(part, .table .implied inner)]
    | some (.table .inline _) => none
    | some (.table origin inner) =>
      (descend change path inner).map fun inner ↦ table.replace part (.table origin inner)
    | some (.tables items) =>
      (modifyLast? (descend change path) items).map fun items ↦ table.replace part (.tables items)
    | some _ => none

/-- The table with a key opened by a header. Only a table that was implied before may be opened, and it moves to the
end. -/
def openTable (key : String) (table : Table) : Option Table :=
  match table.get? key with
  | none => some (table ++ [(key, .table .header [])])
  | some (.table .implied inner) => some (table.remove key ++ [(key, .table .header inner)])
  | some _ => none

/-- The table with one more table under a key that holds several. -/
def openElement (key : String) (table : Table) : Option Table :=
  match table.get? key with
  | none => some (table ++ [(key, .tables [[]])])
  | some (.tables items) => some (table.replace key (.tables (items ++ [[]])))
  | some _ => none

end Table

/-- One line of a document that says something. A path holds the parts of a dotted key before the last. -/
inductive Statement where
  | assign (path : List String) (key : String) (value : Value)
  | header (path : List String) (key : String)
  | element (path : List String) (key : String)

/-- The table that statements make up, carried out one after the other. `current` leads to the table that takes
assignments. -/
def Table.build (root : Table) (current : List String) : List Statement → Option Table
  | [] => some root
  | .assign path key value :: rest => do
    let root ← root.descend (Table.assign key value path) current
    Table.build root current rest
  | .header path key :: rest => do
    let root ← root.descend (Table.openTable key) path
    Table.build root (path ++ [key]) rest
  | .element path key :: rest => do
    let root ← root.descend (Table.openElement key) path
    Table.build root (path ++ [key]) rest

end PubSub.Toml
