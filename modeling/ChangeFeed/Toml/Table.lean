/-
  ChangeFeed.Toml.Table — tables that are built up key by key.

  A key is a path.  Writing under a path makes the tables on the way.  Where
  an array of tables lies on the way, its last table is meant, provided that
  arrays may be entered.
-/

import ChangeFeed.Value.Basic

namespace ChangeFeed.Toml

/-- A path of names. -/
abbrev Key := List String

/-- Changes the table at the end of a path. -/
def within (enterArrays : Bool) (change : Table → Option Table) : Key → Table → Option Table
  | [], t => change t
  | name :: path, t =>
    match Table.get? t name with
    | none => (within enterArrays change path []).map fun u => Table.put t name (.table u)
    | some (.table u) =>
      (within enterArrays change path u).map fun u => Table.put t name (.table u)
    | some (.list xs) =>
      match enterArrays, xs.getLast? with
      | true, some (.table u) =>
        (within enterArrays change path u).map fun u =>
          Table.put t name (.list (xs.dropLast ++ [.table u]))
      | _, _ => none
    | some _ => none

/-- Writes under a name that is not taken. -/
def addNew (name : String) (v : Value) (t : Table) : Option Table :=
  match Table.get? t name with
  | some _ => none
  | none => some (Table.put t name v)

/-- Adds an empty table to an array, which is made if it is not there. -/
def addItem (name : String) (t : Table) : Option Table :=
  match Table.get? t name with
  | none => some (Table.put t name (.list [.table []]))
  | some (.list xs) => some (Table.put t name (.list (xs ++ [.table []])))
  | some _ => none

/-- Writes a value under a path that has not been written to. -/
def addAt (enterArrays : Bool) (key : Key) (v : Value) (t : Table) : Option Table :=
  match key.getLast? with
  | none => none
  | some name => within enterArrays (addNew name v) key.dropLast t

/-- Does one of the paths lead to the key or to something above it? -/
def isBelow (paths : List Key) (key : Key) : Bool := paths.any (·.isPrefixOf key)

/-- Is the value closed once it is written? -/
def isClosed : Value → Bool
  | .table _ => true
  | .list _ => true
  | _ => false

end ChangeFeed.Toml
