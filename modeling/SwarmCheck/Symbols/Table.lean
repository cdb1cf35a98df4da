import SwarmCheck.Diagnostics.Journal
import SwarmCheck.Symbols.Environment

/-!
# Symbol tables

The state of an analysis: what has been declared so far, and what has been found wrong so far.
Findings are only ever added. The table of a correct program has none.
-/

namespace SwarmCheck

set_option autoImplicit false

structure SymbolTable extends Journal where
  env : Environment := .empty

namespace SymbolTable

def empty : SymbolTable := {}

def report (table : SymbolTable) (finding : Finding) : SymbolTable :=
  { table with toJournal := table.toJournal.report finding }

def reportAll (table : SymbolTable) (findings : List Finding) : SymbolTable :=
  { table with toJournal := table.toJournal.reportAll findings }

/-- Declares a variable, unless its name is taken: the first declaration stays. -/
def declare (table : SymbolTable) (symbol : Symbol) : SymbolTable :=
  { table with env := table.env.declare symbol }

def size (table : SymbolTable) : Nat := table.env.symbols.size

def dump (table : SymbolTable) : String := table.env.dump

end SymbolTable

end SwarmCheck
