import Casement.Config.Toml.Value

/-!
# Building documents

While a document is read, its tables remember how they came to be: in a header, by a dotted key, or
only on the way to another table. A table has one origin: a header names a table that was at most
passed on the way, a dotted key extends tables made by dotted keys alone.
-/

namespace Casement.Toml

inductive Origin where
  | header
  | dotted
  | passed
  deriving DecidableEq, Repr

inductive Node where
  | value (value : Value)
  | table (origin : Origin) (entries : List (String × Node))
  | tables (rows : List (List (String × Node)))
  deriving Inhabited

abbrev Entries := List (String × Node)

/-- A table with its origin, as it is being changed. -/
structure Draft where
  origin : Origin
  entries : Entries

namespace Draft

def find? (t : Draft) (key : String) : Option Node := t.entries.lookup key

/-- Puts a node under a key, in its place if there is one. -/
def set (t : Draft) (key : String) (node : Node) : Draft :=
  if (t.find? key).isSome then
    { t with entries := t.entries.map fun (k, n) => if k = key then (k, node) else (k, n) }
  else { t with entries := t.entries ++ [(key, node)] }

/-- Changes the table at the end of a path, making tables of an origin where there are none. A path
leads through the last row of a list of tables; no path leads through a value, and dotted keys do
not lead into tables with a header. -/
def atPath (origin : Origin) (change : Draft → Option Draft) : List String → Draft → Option Draft
  | [], t => change t
  | key :: path, t =>
    match t.find? key with
    | none =>
      (atPath origin change path ⟨origin, []⟩).map fun c => t.set key (.table c.origin c.entries)
    | some (.value _) => none
    | some (.table o es) =>
      if origin = .dotted ∧ o = .header then none
      else (atPath origin change path ⟨o, es⟩).map fun c => t.set key (.table c.origin c.entries)
    | some (.tables rows) =>
      match rows.getLast? with
      | none => none
      | some row =>
        (atPath origin change path ⟨.header, row⟩).map fun c =>
          t.set key (.tables (rows.dropLast ++ [c.entries]))

/-- Gives a table a key it does not have. Behind a dotted path stands a table made by dotted
keys. -/
def define (path : List String) (key : String) (value : Value) (t : Draft) : Option Draft :=
  atPath .dotted (fun t =>
    if (path.isEmpty || t.origin = .dotted) && (t.find? key).isNone then some (t.set key (.value value))
    else none) path t

/-- Opens the table of a header. -/
def openTable (path : List String) (key : String) (t : Draft) : Option Draft :=
  atPath .passed (fun t =>
    match t.find? key with
    | none => some (t.set key (.table .header []))
    | some (.table .passed es) => some (t.set key (.table .header es))
    | _ => none) path t

/-- Opens a new row of a list of tables. -/
def openRow (path : List String) (key : String) (t : Draft) : Option Draft :=
  atPath .passed (fun t =>
    match t.find? key with
    | none => some (t.set key (.tables [[]]))
    | some (.tables rows) => some (t.set key (.tables (rows ++ [[]])))
    | _ => none) path t

end Draft

mutual

def Node.finish : Node → Value
  | .value v => v
  | .table _ es => .table (finishEntries es)
  | .tables rows => .array (finishRows rows)

def finishEntries : List (String × Node) → List (String × Value)
  | [] => []
  | (key, n) :: rest => (key, n.finish) :: finishEntries rest

def finishRows : List (List (String × Node)) → List Value
  | [] => []
  | row :: rest => .table (finishEntries row) :: finishRows rest

end

end Casement.Toml
