import SwarmCheck.Log.Record
import SwarmCheck.Symbols.Symbol
import SwarmCheck.Types.Registry

/-!
# Environments

Everything a program declares: its variables by qualified name, in the order of their
declaration, and its record types.
-/

namespace SwarmCheck

set_option autoImplicit false

structure Environment where
  symbols : OrderedMap Symbol := .empty
  registry : Registry := .empty

namespace Environment

def empty : Environment := {}

def lookup? (env : Environment) (name : String) : Option Symbol := env.symbols.get? name

/-- Declares a variable, unless its name is taken: the first declaration stays. -/
def declare (env : Environment) (symbol : Symbol) : Environment :=
  { env with symbols := env.symbols.insertNew symbol.name symbol }

def declareNotes (env : Environment) (symbol : Symbol) : List Log.Record :=
  if env.symbols.contains symbol.name then []
  else
    [Log.debug .symbols
      ("Defined symbol " ++ symbol.name ++ " of type " ++ symbol.type.text ++ " in " ++
        symbol.scope.name ++ " scope")]

def defineRecord (env : Environment) (name : String) (fields : Fields) (replace : Bool) :
    Environment :=
  { env with registry := env.registry.define name fields replace }

def sortedNames (env : Environment) : List String :=
  env.symbols.keys.mergeSort (fun left right => left ≤ right)

def dump (env : Environment) : String :=
  String.intercalate "\n" (env.sortedNames.filterMap fun name => (env.lookup? name).map (·.text))

end Environment

def Registry.defineNotes (registry : Registry) (name : String) (fields : Fields)
    (replace : Bool) : List Log.Record :=
  let registered :=
    Log.debug .types
      ("Registered record type " ++ name ++ " with " ++ toString fields.size ++ " fields")
  match registry.verdict name replace with
  | .refused => []
  | .added => [registered]
  | .replaced =>
      [Log.warning .types ("Record type " ++ name ++ " redefined, later definition wins"),
        registered]

end SwarmCheck
