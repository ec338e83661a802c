import IntentSpec.Datum.Basic

/-!
# Tables under construction

A document defines tables piece by piece.  A table that has a header of its own is not opened again; one
that came into being through a dotted key is open until the section ends in which it did; one that is
only passed through stays open.  A value is never changed.

Where a table came from is kept next to its entries, as it decides what may still be added, and it is forgotten
when the document is finished.  The operations answer nothing where the document may not do what it says, so a
mapping that comes out has been built by permitted steps only.

Entries are kept in the order in which their keys were met first, which is the order of the finished mapping.

## Main definitions

* `Toml.Entry`, `Toml.Entries` — what stands at a key while a document is read.
* `Toml.declare`, `Toml.append`, `Toml.set` — headers of tables, headers of arrays, and keys.
* `Toml.within` — an operation on the table that a header names.
* `Toml.datumOf` — the finished value.
-/

namespace IntentSpec.Toml

/-- How a table came into being. -/
inductive Origin where
  /-- It was passed through on the way to another one. -/
  | passed
  /-- It has a header of its own. -/
  | declared
  /-- A dotted key led through it in a section. -/
  | dotted (section_ : Nat)
deriving DecidableEq, Repr

/-- What stands at a key while a document is read: a value, a table with where it came from, or an
array of tables with the one that is open. -/
inductive Entry where
  | value (d : Datum)
  | table (origin : Origin) (entries : List (String × Entry))
  /-- An array of tables, the current one first. -/
  | tables (current : List (String × Entry)) (before : List (List (String × Entry)))

/-- The entries of a table. -/
abbrev Entries := List (String × Entry)

/-- Whether a table is closed in a section. -/
def Origin.closed (section_ : Nat) : Origin → Bool
  | passed => false
  | declared => true
  | dotted s => s != section_

/-- What stands at a key. -/
def atKey? (key : String) (entries : Entries) : Option Entry :=
  (entries.find? (·.1 == key)).map (·.2)

/-- Puts an entry at a key, where the key stands or else at the end. -/
def put (key : String) (e : Entry) : Entries → Entries
  | [] => [(key, e)]
  | first :: rest => if first.1 == key then (key, e) :: rest else first :: put key e rest

/-- An operation on the table that keys lead to, which are passed through. -/
def within (f : Entries → Option Entries) : List String → Entries → Option Entries
  | [], entries => f entries
  | key :: keys, entries => do
    match atKey? key entries with
    | none => return put key (.table .passed (← within f keys [])) entries
    | some (.table origin inner) => return put key (.table origin (← within f keys inner)) entries
    | some (.tables current before) => return put key (.tables (← within f keys current) before) entries
    | some (.value _) => none

/-- The header of a table. -/
def declareHere (section_ : Nat) (key : String) (entries : Entries) : Option Entries :=
  match atKey? key entries with
  | none => some (put key (.table .declared []) entries)
  | some (.table origin inner) =>
    if origin.closed section_ then none else some (put key (.table .declared inner) entries)
  | some _ => none

/-- The header of a table of an array. -/
def appendHere (key : String) (entries : Entries) : Option Entries :=
  match atKey? key entries with
  | none => some (put key (.tables [] []) entries)
  | some (.tables current before) => some (put key (.tables [] (current :: before)) entries)
  | some _ => none

/-- An operation at the last of keys; the keys before it are passed through. -/
def atLast (f : String → Entries → Option Entries) (keys : List String) (entries : Entries) :
    Option Entries :=
  match keys.getLast? with
  | none => none
  | some key => within (f key) keys.dropLast entries

/-- The header of a table that keys lead to. -/
def declare (section_ : Nat) (keys : List String) (entries : Entries) : Option Entries :=
  atLast (declareHere section_) keys entries

/-- The header of a table of an array that keys lead to. -/
def append (keys : List String) (entries : Entries) : Option Entries := atLast appendHere keys entries

/-- Sets the value that dotted keys lead to.  No table on the way may be closed. -/
def set (section_ : Nat) (d : Datum) : List String → Entries → Option Entries
  | [], _ => none
  | [key], entries => if (atKey? key entries).isSome then none else some (put key (.value d) entries)
  | key :: keys, entries => do
    match atKey? key entries with
    | none => return put key (.table (.dotted section_) (← set section_ d keys [])) entries
    | some (.table origin inner) =>
      if origin.closed section_ then none
      else return put key (.table (.dotted section_) (← set section_ d keys inner)) entries
    | some _ => none

mutual

/-- The value of an entry. -/
def Entry.datum : Entry → Datum
  | .value d => d
  | .table _ entries => .mapping (datumMembers entries)
  | .tables current before => .list ((datumTables before).reverse ++ [.mapping (datumMembers current)])

/-- The values of entries. -/
def datumMembers : List (String × Entry) → List (Datum × Datum)
  | [] => []
  | (key, e) :: rest => (.text key, e.datum) :: datumMembers rest

/-- The values of tables. -/
def datumTables : List (List (String × Entry)) → List Datum
  | [] => []
  | entries :: rest => .mapping (datumMembers entries) :: datumTables rest

end

/-- The finished value. -/
def datumOf (entries : Entries) : Datum := .mapping (datumMembers entries)

end IntentSpec.Toml
