import Stencil.Toml.Text
import Stencil.Value.Datum

/-!
# Tables of TOML

A table is opened once: by a header, or by the dotted keys of the table around
it.  A table that only stands in front of a dot in headers may still be opened
by a header of its own.
-/

namespace Stencil.Toml

/-- How a table has come to be. -/
inductive Opening where
  /-- By a header of its own. -/
  | header
  /-- By the header of a table below it. -/
  | passage
  /-- By a dotted key. -/
  | dotted
deriving DecidableEq, Repr

/-- What stands under a key. -/
inductive Entry where
  | value (datum : Datum)
  | table (opening : Opening) (entries : List (String × Entry))
  /-- The tables of an array that headers build, from the last to the first. -/
  | tables (items : List (List (String × Entry)))

/-- The entries of a table in document order. -/
abbrev Entries := List (String × Entry)

namespace Entries

def find? (entries : Entries) (key : String) : Option Entry :=
  (List.find? (fun entry => entry.1 == key) entries).map Prod.snd

/-- Puts an entry under a key, in place when the key occurs. -/
def put (key : String) (entry : Entry) : Entries → Entries
  | [] => [(key, entry)]
  | first :: rest =>
      if first.1 == key then (key, entry) :: rest else first :: put key entry rest

/-- Changes the table that the parts of a header lead to; tables that are missing
on the way are added. -/
def changeAt (change : Entries → Except Fault Entries) :
    List String → Entries → Except Fault Entries
  | [], entries => change entries
  | key :: path, entries =>
      match entries.find? key with
      | none => do
          let inner ← changeAt change path []
          .ok (entries.put key (.table .passage inner))
      | some (.table opening inner) => do
          let inner ← changeAt change path inner
          .ok (entries.put key (.table opening inner))
      | some (.tables (last :: earlier)) => do
          let last ← changeAt change path last
          .ok (entries.put key (.tables (last :: earlier)))
      | some _ => .error (.notTable key)

/-- Puts a value under a dotted key.  Only tables that dotted keys have opened
can be entered. -/
def assign (value : Datum) : List String → Entries → Except Fault Entries
  | [], entries => .ok entries
  | [key], entries =>
      match entries.find? key with
      | none => .ok (entries.put key (.value value))
      | some _ => .error (.duplicateKey key)
  | key :: path, entries =>
      match entries.find? key with
      | none => do
          let inner ← assign value path []
          .ok (entries.put key (.table .dotted inner))
      | some (.table .dotted inner) => do
          let inner ← assign value path inner
          .ok (entries.put key (.table .dotted inner))
      | some _ => .error (.duplicateKey key)

def openTable (path : List String) (entries : Entries) : Except Fault Entries :=
  match path.getLast? with
  | none => .ok entries
  | some key =>
      changeAt (fun above =>
        match above.find? key with
        | none => .ok (above.put key (.table .header []))
        | some (.table .passage inner) => .ok (above.put key (.table .header inner))
        | some _ => .error (.duplicateKey key)) path.dropLast entries

/-- Opens the next table of an array by its header. -/
def openItem (path : List String) (entries : Entries) : Except Fault Entries :=
  match path.getLast? with
  | none => .ok entries
  | some key =>
      changeAt (fun above =>
        match above.find? key with
        | none => .ok (above.put key (.tables [[]]))
        | some (.tables items) => .ok (above.put key (.tables ([] :: items)))
        | some _ => .error (.duplicateKey key)) path.dropLast entries

end Entries

mutual

def Entry.datum : Entry → Datum
  | .value datum => datum
  | .table _ entries => .mapping (dataOfEntries entries)
  | .tables items => .sequence (dataOfTables items).reverse

def dataOfEntries : List (String × Entry) → List (String × Datum)
  | [] => []
  | (key, entry) :: rest => (key, entry.datum) :: dataOfEntries rest

/-- The data of the tables of an array, in the same order. -/
def dataOfTables : List (List (String × Entry)) → List Datum
  | [] => []
  | entries :: rest => .mapping (dataOfEntries entries) :: dataOfTables rest

end

end Stencil.Toml
