import SwarmCheck.Analysis.Phase
import SwarmCheck.Syntax.Listing

/-!
# Analysis of a program

The phases run in order on a fresh table, each only if the one before it passed.
-/

namespace SwarmCheck

set_option autoImplicit false

/-- A result together with the log written on the way to it, or on the way to a fault. -/
abbrev Logged := Trail Log.Record Fault

namespace Analyzer

def note (text : String) : Logged Unit := .emit [Log.debug .analyzer text]

def runPhases (policy : RedefinitionPolicy) (program : Node) :
    List Phase → SymbolTable → Logged SymbolTable
  | [], table => return table
  | phase :: rest, table => do
      let run := phase.run policy program table
      .emit run.log
      match run.outcome with
      | .error fault => .fail fault
      | .ok .passed => do
          note ("Phase " ++ phase.name ++ " passed")
          runPhases policy program rest run.table
      | .ok (.blocked errors) => do
          note ("Phase " ++ phase.name ++ " blocked with " ++ toString errors ++
            " errors, skipping later phases")
          return run.table

def finished (name : String) (table : SymbolTable) : String :=
  "Analysis of " ++ name ++ " finished: " ++ toString table.size ++ " symbols, valid=" ++
    Listing.truth table.isValid

end Analyzer

open Analyzer in
/-- Analyses a program. The root may be any node that has a name. -/
def analyze (settings : Settings) (program : Node) : Logged SymbolTable :=
  match program.name? with
  | none => .fail (.namelessRoot program.phrase)
  | some name => do
      note ("Analyzing program " ++ name)
      let table ← runPhases settings.recordRedefinition program Phase.all .empty
      note (finished name table)
      if settings.verbose then
        .emit [Log.info .analyzer ("Symbol table of " ++ name ++ ":\n" ++ table.dump)]
      return table

end SwarmCheck
