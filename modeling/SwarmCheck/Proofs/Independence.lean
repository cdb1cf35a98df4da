import SwarmCheck.Proofs.Agreement
import SwarmCheck.Proofs.Checker
import SwarmCheck.Proofs.History
import SwarmCheck.Proofs.Registries

/-!
# What the later phases depend on

Two tables can hold the same variables and record types and still differ: in the order in which
these were entered, in where the variables were declared, and in everything that has been found so
far. The phases after the build do not notice. On two such tables they record the same findings and
end in the same way, and so does a checker that was used before, whatever became of its checks.
-/

namespace SwarmCheck

set_option autoImplicit false

theorem Symbol.unplaced_eq_of_sameAs {symbol other : Symbol} (same : symbol.sameAs other = true) :
    symbol.unplaced = other.unplaced := by
  obtain ⟨name, type, scope, definedAt⟩ := symbol
  simp only [sameAs, Bool.and_eq_true, beq_iff_eq, and_assoc] at same
  obtain ⟨sameName, sameType, sameScope⟩ := same
  simp only [unplaced, sameName, sameType, sameScope]

theorem Environment.alike_of_equal {left right : Environment}
    (symbols : left.symbols.equivalent Symbol.sameAs right.symbols = true)
    (records : left.registry.sameAs right.registry = true) : left.Alike right := by
  refine ⟨fun name => ?_, Registry.fields_of_sameAs records⟩
  rw [lookup?, lookup?]
  rcases OrderedMap.lookups_of_equivalent symbols name with
    ⟨absent, otherAbsent⟩ | ⟨symbol, other, present, otherPresent, same⟩
  · rw [absent, otherAbsent]
  · rw [present, otherPresent, Option.map_some, Option.map_some,
      Symbol.unplaced_eq_of_sameAs same]

/-- A table has gained findings: its lists and its diagnostics go on with theirs, and nothing else
about it has changed. -/
structure SymbolTable.Gained (before after : SymbolTable) (recorded : List Finding) : Prop where
  env : after.env = before.env
  unresolved : after.unresolved = before.unresolved ++ recorded.filterMap (·.unresolved?)
  redeclared : after.redeclared = before.redeclared ++ recorded.filterMap (·.redeclared?)
  mismatches : after.mismatches = before.mismatches ++ recorded.filterMap (·.mismatch?)
  sensorWrites : after.sensorWrites = before.sensorWrites ++ recorded.filterMap (·.sensorWrite?)
  streamWrites : after.streamWrites = before.streamWrites ++ recorded.filterMap (·.streamWrite?)
  readOnlyWrites :
    after.readOnlyWrites = before.readOnlyWrites ++ recorded.filterMap (·.readOnlyWrite?)
  diagnostics : after.diagnostics = before.diagnostics ++ recorded.map (·.diagnostic)

theorem SymbolTable.gained_reportAll (table : SymbolTable) (recorded : List Finding) :
    table.Gained (table.reportAll recorded) recorded := by
  have lists := Journal.ext_iff.mp (table.toJournal.reportAll_eq_append recorded)
  obtain ⟨unresolved, redeclared, mismatches, sensorWrites, streamWrites, readOnlyWrites,
    diagnostics⟩ := lists
  exact ⟨rfl, unresolved, redeclared, mismatches, sensorWrites, streamWrites, readOnlyWrites,
    diagnostics⟩

namespace Phase

/-- A phase after the build is a pass over the program that asks the environment only for what
alike environments have in common. -/
theorem later_work {phase : Phase} (later : phase ≠ .build) :
    ∃ pass : Environment → Node → Pass Unit,
      (∀ policy program table, phase.work policy program table = inspect pass program table) ∧
        ∀ {left right : Environment}, left.Alike right →
          ∀ program, pass left program = pass right program := by
  cases phase with
  | build => exact absurd rfl later
  | resolve => exact ⟨References.check, fun _ _ _ => rfl, fun alike => alike.references_check⟩
  | types => exact ⟨Typing.check, fun _ _ _ => rfl, fun alike => alike.typing_check⟩
  | access => exact ⟨WriteAccess.check, fun _ _ _ => rfl, fun alike => alike.writeAccess_check⟩

end Phase

/-- On two tables with the same variables and the same record types, a phase after the build records
the same findings and ends in the same fault or in none. A checker that has made any checks before,
on whatever tables and with whatever end, emits on the one table what a new checker emits on the
other, which is what the type phase emits, and ends alike. -/
theorem later_phases_depend_on_maps {left right : SymbolTable}
    (symbols : left.env.symbols.equivalent Symbol.sameAs right.env.symbols = true)
    (records : left.env.registry.sameAs right.env.registry = true) (program : Node) :
    (∀ phase policy, phase ≠ .build →
      (∃ recorded,
        left.Gained (Phase.run policy program left phase).table recorded ∧
          right.Gained (Phase.run policy program right phase).table recorded) ∧
        ∀ fault, (Phase.run policy program left phase).outcome = .error fault ↔
          (Phase.run policy program right phase).outcome = .error fault) ∧
    (∀ checks,
      (Checker.run (Checker.leftBy checks) left.env program).1 =
          (Checker.run [] right.env program).1 ∧
        (Checker.run [] right.env program).1 = Typing.check right.env program) := by
  have alike := Environment.alike_of_equal symbols records
  constructor
  · intro phase policy later
    obtain ⟨pass, worked, respects⟩ := Phase.later_work later
    have same := respects alike program
    constructor
    · refine ⟨Entry.findings (pass right.env program).emitted, ?_, ?_⟩
      · rw [Phase.table_run, worked, Phase.inspect, same]
        exact left.gained_reportAll _
      · rw [Phase.table_run, worked, Phase.inspect]
        exact right.gained_reportAll _
    · intro fault
      rw [Phase.outcome_run_eq_error_iff, Phase.outcome_run_eq_error_iff, worked, worked,
        Phase.inspect, Phase.inspect, same]
  · intro checks
    rw [Checker.run_eq_check, Checker.run_eq_check, alike.typing_check]
    exact ⟨rfl, rfl⟩

def countAndLimit : SymbolTable :=
  (SymbolTable.empty.declare ⟨"count", .int, .locals, .hole⟩).declare
    ⟨"limit", .int, .allRead, .hole⟩

/-- The same variables, entered the other way round, one of them with its declaration, after an
unresolved reference has been found. -/
def limitAndCount : SymbolTable :=
  ((SymbolTable.empty.declare
      ⟨"limit", .int, .allRead, .decl "limit" "int" false 0 .hole none⟩).declare
    ⟨"count", .int, .locals, .hole⟩).report (.unresolved "speed" .hole none)

def assignedElement : Node :=
  .assign "limit" (.stringLiteral "first" none) (.reference "counter" .hole none) none

/-- On both tables the reference is reported with the same suggestion. A checker that failed at that
reference, with the index on its stack, then types a number as a new one does. -/
theorem later_phases_on_reordered_tables :
    (∃ recorded,
      countAndLimit.Gained (Phase.run .reject assignedElement countAndLimit .resolve).table
          recorded ∧
        limitAndCount.Gained (Phase.run .reject assignedElement limitAndCount .resolve).table
          recorded) ∧
      Checker.leftBy [(limitAndCount.env, assignedElement)] = [.string] ∧
      (Checker.run (Checker.leftBy [(limitAndCount.env, assignedElement)]) countAndLimit.env
          (.reference "count" .hole none)).1 =
        (Checker.run [] limitAndCount.env (.reference "count" .hole none)).1 := by
  have symbols : countAndLimit.env.symbols.equivalent Symbol.sameAs limitAndCount.env.symbols =
      true := by decide
  have records : countAndLimit.env.registry.sameAs limitAndCount.env.registry = true := by decide
  refine ⟨?_, by rfl, ?_⟩
  · exact ((later_phases_depend_on_maps symbols records assignedElement).1 .resolve .reject
      (by decide)).1
  · exact ((later_phases_depend_on_maps symbols records (.reference "count" .hole none)).2
      [(limitAndCount.env, assignedElement)]).1

end SwarmCheck
