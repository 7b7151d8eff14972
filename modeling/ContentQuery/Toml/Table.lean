import ContentQuery.Toml.Scalar

/-!
# Building TOML tables

A document fills its tables bit by bit, and how a table came about decides what may be added to it.
A header opens a table once; it may open one that so far only stood on the way to another table, but
not one that a dotted key made or passed through. Dotted keys pass through every table without a
header. Values, inline tables among them, are closed.
-/

namespace ContentQuery.Toml

/-- How a table came about. -/
inductive Origin where
  /-- It stood on the way to a table with a header. -/
  | implicit
  /-- It has a header. -/
  | header
  /-- A dotted key made it or passed through it. -/
  | dotted
deriving DecidableEq, Repr

/-- What a key of a table under construction holds. -/
inductive Item where
  | leaf (value : Value)
  | table (origin : Origin) (entries : List (String × Item))
  /-- Tables that share a header; the last one is open. -/
  | tables (closed : List (List (String × Item))) (last : List (String × Item))
deriving Repr

/-- The entries of a table under construction. -/
abbrev Entries := List (String × Item)

/-- Replaces what a key holds; a new key goes to the end. -/
def Entries.alter (key : String) (change : Option Item → Option Item) : Entries → Option Entries
  | [] => (change none).map fun item => [(key, item)]
  | (name, item) :: rest =>
    if name = key then (change (some item)).map fun changed => (name, changed) :: rest
    else (Entries.alter key change rest).map ((name, item) :: ·)

/-- Changes the table at the end of a header's path. Tables that are missing on the way are made,
and of tables that share a header the path leads through the last one. -/
def Entries.descend (change : Entries → Option Entries) : List String → Entries → Option Entries
  | [], entries => change entries
  | key :: path, entries =>
    entries.alter key fun item =>
      match item with
      | none => (descend change path []).map (.table .implicit)
      | some (.table origin inner) => (descend change path inner).map (.table origin)
      | some (.tables closed last) => (descend change path last).map (.tables closed)
      | some (.leaf _) => none

/-- Gives a new key its value. The path of a dotted key leads through tables without a header. -/
def Entries.assign (key : String) (value : Value) : List String → Entries → Option Entries
  | [], entries => entries.alter key fun item => if item.isNone then some (.leaf value) else none
  | table :: path, entries =>
    entries.alter table fun item =>
      match item with
      | none => (assign key value path []).map (.table .dotted)
      | some (.table .implicit inner) | some (.table .dotted inner) =>
        (assign key value path inner).map (.table .dotted)
      | some _ => none

/-- Opens the table of a header. -/
def Entries.openTable (path : List String) (key : String) (entries : Entries) : Option Entries :=
  Entries.descend
    (fun entries => entries.alter key fun item =>
      match item with
      | none => some (.table .header [])
      | some (.table .implicit inner) => some (.table .header inner)
      | some _ => none)
    path entries

/-- Opens one more of the tables that share a header. -/
def Entries.openTables (path : List String) (key : String) (entries : Entries) : Option Entries :=
  Entries.descend
    (fun entries => entries.alter key fun item =>
      match item with
      | none => some (.tables [] [])
      | some (.tables closed last) => some (.tables (closed ++ [last]) [])
      | some _ => none)
    path entries

mutual

/-- A finished item. -/
def Item.toValue : Item → Value
  | .leaf value => value
  | .table _ entries => .table (entriesToValues entries)
  | .tables closed last =>
    .array (closedToValues closed ++ [.table (entriesToValues last)])

/-- Finished entries. -/
def entriesToValues : List (String × Item) → List (String × Value)
  | [] => []
  | (key, item) :: rest => (key, item.toValue) :: entriesToValues rest

/-- Finished tables that share a header. -/
def closedToValues : List (List (String × Item)) → List Value
  | [] => []
  | entries :: rest => .table (entriesToValues entries) :: closedToValues rest

end

end ContentQuery.Toml
