import SwarmCheck.Settings.Toml.Key
import SwarmCheck.Settings.Value

/-!
# Tables within tables

The table at a path is found by descending from the root, making tables on the way where there
are none. Where a path meets an array of tables, it goes on in the last of them.
-/

namespace SwarmCheck.Toml

set_option autoImplicit false

abbrev Table := List (String × Value)

def putEntry (key : String) (value : Value) : Table → Table
  | [] => [(key, value)]
  | (other, old) :: rest =>
      if other = key then (key, value) :: rest else (other, old) :: putEntry key value rest

/-- Changes the table at a path. Fails if something else than a table is in the way. -/
def changeNest (throughArrays : Bool) (change : Table → Option Table) :
    Path → Table → Option Table
  | [], table => change table
  | key :: path, table =>
      match table.lookup key with
      | none => do
          let inner ← changeNest throughArrays change path []
          return putEntry key (.table inner) table
      | some (.table inner) => do
          let inner ← changeNest throughArrays change path inner
          return putEntry key (.table inner) table
      | some (.list values) =>
          if throughArrays then
            match values.getLast? with
            | some (.table inner) => do
                let inner ← changeNest throughArrays change path inner
                return putEntry key (.list (values.dropLast ++ [.table inner])) table
            | _ => none
          else none
      | some _ => none

/-- Adds an entry whose key must be new. -/
def addEntry (key : String) (value : Value) (table : Table) : Option Table :=
  match table.lookup key with
  | none => some (table ++ [(key, value)])
  | some _ => none

def addTable (key : String) (table : Table) : Option Table :=
  match table.lookup key with
  | none => some (table ++ [(key, .list [.table []])])
  | some (.list values) => some (putEntry key (.list (values ++ [.table []])) table)
  | some _ => none

def splitPath (path : Path) : Option (Path × String) :=
  path.getLast?.map fun stem => (path.dropLast, stem)

def isSealed (closed : List Path) (path : Path) : Bool := closed.any (·.isPrefixOf path)

end SwarmCheck.Toml
