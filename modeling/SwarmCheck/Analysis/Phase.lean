import SwarmCheck.Analysis.Declarations
import SwarmCheck.Analysis.References
import SwarmCheck.Analysis.Typing
import SwarmCheck.Analysis.WriteAccess

/-!
# Phases

The four phases of an analysis, each run on a table. A phase that leaves findings of its own
kind in the table blocks the phases after it. Whatever a phase did before a fault stays done.
-/

namespace SwarmCheck

set_option autoImplicit false

inductive Phase where
  | build
  | resolve
  | types
  | access
  deriving DecidableEq, Repr

namespace Phase

def name : Phase → String
  | build => "build"
  | resolve => "resolve"
  | types => "types"
  | access => "access"

def all : List Phase := [build, resolve, types, access]

inductive Result where
  | passed
  | blocked (errors : Nat)
  deriving DecidableEq, Repr

/-- How a phase ended: the table it left behind, the log it wrote, and a result or a fault. -/
structure Run (α : Type) where
  table : SymbolTable
  log : List Log.Record
  outcome : Except Fault α

/-- How many findings of a phase's own kind a table has. -/
def errors (table : SymbolTable) : Phase → Nat
  | build => table.redeclared.length
  | resolve => table.unresolved.length
  | types => table.mismatches.length
  | access =>
      table.sensorWrites.length + table.streamWrites.length + table.readOnlyWrites.length

def resultOf (table : SymbolTable) (phase : Phase) : Result :=
  match phase.errors table with
  | 0 => .passed
  | count => .blocked count

def summary (table : SymbolTable) : Phase → Log.Record
  | build =>
      Log.debug .declarations
        ("Built symbol table: " ++ toString table.size ++ " symbols, " ++
          toString table.env.registry.names.length ++ " record types")
  | resolve =>
      Log.debug .references
        ("Resolved references: " ++ toString (resolve.errors table) ++ " unresolved")
  | types =>
      Log.debug .typing ("Checked types: " ++ toString (types.errors table) ++ " mismatches")
  | access =>
      Log.debug .access
        ("Checked write access: " ++ toString (access.errors table) ++ " violations")

def declare (policy : RedefinitionPolicy) (program : Node) (table : SymbolTable) : Run Unit :=
  let trail := Declarations.ofProgram program
  { table := table.enterAll policy trail.emitted
    log := table.enterAllNotes policy trail.emitted
    outcome := trail.outcome.map fun _ => () }

def inspect (pass : Environment → Node → Pass Unit) (program : Node) (table : SymbolTable) :
    Run Unit :=
  let trail := pass table.env program
  { table := table.reportAll (Entry.findings trail.emitted)
    log := Entry.notes trail.emitted
    outcome := trail.outcome }

def work (policy : RedefinitionPolicy) (program : Node) (table : SymbolTable) :
    Phase → Run Unit
  | build => declare policy program table
  | resolve => inspect References.check program table
  | types => inspect Typing.check program table
  | access => inspect WriteAccess.check program table

def run (policy : RedefinitionPolicy) (program : Node) (table : SymbolTable) (phase : Phase) :
    Run Result :=
  let done := phase.work policy program table
  match done.outcome with
  | .error fault => { done with outcome := .error fault }
  | .ok () =>
      { table := done.table
        log := done.log ++ [phase.summary done.table]
        outcome := .ok (phase.resultOf done.table) }

end Phase

end SwarmCheck
