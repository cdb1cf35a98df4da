import SwarmCheck.Proofs.Checker
import SwarmCheck.Proofs.Gating

/-!
# Tables over time

A table outlives the phase that works on it. Phases may be run on one table in any order, over any
trees and whatever came of the phases before; one that ends in a fault leaves behind what it did
so far. Types may also be checked again and again by one checker, whose stack outlives a check as
the table does. Nothing in a table is ever taken back: a variable keeps its symbol, a finding keeps
its place, and a phase leaves alone what belongs to another. Findings are written down twice, in six
lists and as diagnostics, and the two never drift apart.
-/

namespace SwarmCheck

set_option autoImplicit false

theorem OrderedMap.get?_of_entries_prefix {α : Type} {before after : OrderedMap α}
    (kept : before.entries <+: after.entries) {key : String} {value : α}
    (found : before.get? key = some value) : after.get? key = some value := by
  obtain ⟨added, same⟩ := kept
  rw [get?] at found
  rw [get?, ← same, List.lookup_append, found, Option.some_or]

/-- A table with a checker that is used on it again, and the operands on the checker's stack. -/
structure Session where
  table : SymbolTable := .empty
  operands : Typing.Operands := []

/-- Work on a table: a phase over some tree, or another check by the checker of the session. -/
inductive Task where
  | run (phase : Phase) (policy : RedefinitionPolicy) (program : Node)
  | recheck (program : Node)

namespace Task

def phase : Task → Phase
  | run phase _ _ => phase
  | recheck _ => .types

/-- What a task leaves behind, whether it returns or ends in a fault. -/
def perform (session : Session) : Task → Session
  | run phase policy program =>
      { session with table := (phase.run policy program session.table).table }
  | recheck program =>
      let checked := Checker.run session.operands session.table.env program
      ⟨session.table.reportAll (Entry.findings checked.1.emitted), checked.2⟩

def performAll (session : Session) (tasks : List Task) : Session :=
  tasks.foldl perform session

end Task

namespace SymbolTable

/-- Everything that the first table has, the second has too, and before anything else. -/
structure Appended (before after : SymbolTable) : Prop where
  symbols : before.env.symbols.entries <+: after.env.symbols.entries
  unresolved : before.unresolved <+: after.unresolved
  redeclared : before.redeclared <+: after.redeclared
  mismatches : before.mismatches <+: after.mismatches
  sensorWrites : before.sensorWrites <+: after.sensorWrites
  streamWrites : before.streamWrites <+: after.streamWrites
  readOnlyWrites : before.readOnlyWrites <+: after.readOnlyWrites
  diagnostics : before.diagnostics <+: after.diagnostics

/-- What does not belong to a phase is as it was. Variables and record types belong to the
build. -/
structure Framed (phase : Phase) (before after : SymbolTable) : Prop where
  env : phase ≠ .build → after.env = before.env
  redeclared : phase ≠ .build → after.redeclared = before.redeclared
  unresolved : phase ≠ .resolve → after.unresolved = before.unresolved
  mismatches : phase ≠ .types → after.mismatches = before.mismatches
  sensorWrites : phase ≠ .access → after.sensorWrites = before.sensorWrites
  streamWrites : phase ≠ .access → after.streamWrites = before.streamWrites
  readOnlyWrites : phase ≠ .access → after.readOnlyWrites = before.readOnlyWrites

section Growth

variable {phase : Phase} {before after : SymbolTable}

theorem Extends.appended (extended : Extends phase before after)
    (symbols : before.env.symbols.entries <+: after.env.symbols.entries) :
    Appended before after := by
  obtain ⟨recorded, same, _⟩ := extended
  rw [Journal.ext_iff] at same
  obtain ⟨unresolved, redeclared, mismatches, sensorWrites, streamWrites, readOnlyWrites,
    diagnostics⟩ := same
  exact ⟨symbols, ⟨_, unresolved.symm⟩, ⟨_, redeclared.symm⟩, ⟨_, mismatches.symm⟩,
    ⟨_, sensorWrites.symm⟩, ⟨_, streamWrites.symm⟩, ⟨_, readOnlyWrites.symm⟩,
    ⟨_, diagnostics.symm⟩⟩

theorem Extends.framed (extended : Extends phase before after)
    (env : phase ≠ .build → after.env = before.env) : Framed phase before after := by
  obtain ⟨recorded, same, own⟩ := extended
  -- What was recorded, taken as a journal of its own, has the entries of this phase only.
  have only : (Journal.ofFindings recorded).OnlyFrom phase := ⟨recorded, rfl, own⟩
  obtain ⟨redeclared, unresolved, mismatches, writes⟩ := only.foreign_lists_empty
  have unchanged {α : Type} {list added : List α} (nothing : added = []) :
      list ++ added = list := by rw [nothing, List.append_nil]
  rw [Journal.ext_iff] at same
  obtain ⟨sameUnresolved, sameRedeclared, sameMismatches, sameSensor, sameStream, sameReadOnly,
    _⟩ := same
  exact ⟨env, fun other => sameRedeclared.trans (unchanged (redeclared other)),
    fun other => sameUnresolved.trans (unchanged (unresolved other)),
    fun other => sameMismatches.trans (unchanged (mismatches other)),
    fun other => sameSensor.trans (unchanged (writes other).1),
    fun other => sameStream.trans (unchanged (writes other).2.1),
    fun other => sameReadOnly.trans (unchanged (writes other).2.2)⟩

end Growth

theorem enter_symbols (policy : RedefinitionPolicy) (table : SymbolTable)
    (declaration : Declaration) :
    table.env.symbols.entries <+: (table.enter policy declaration).env.symbols.entries := by
  cases declaration with
  | symbol symbol =>
      rw [enter]
      cases taken : table.env.symbols.contains symbol.name with
      | true => exact List.prefix_rfl
      | false =>
          simp only [Bool.false_eq_true, if_false, declare, Environment.declare,
            OrderedMap.insertNew, taken, OrderedMap.entries_insert_of_new taken]
          exact List.prefix_append _ _
  | repeatedField record field site => exact List.prefix_rfl
  | record name fields site =>
      rw [enter]
      cases table.env.registry.verdict name (policy = .replace) <;> exact List.prefix_rfl

theorem enterAll_symbols (policy : RedefinitionPolicy) (table : SymbolTable)
    (declarations : List Declaration) :
    table.env.symbols.entries <+: (table.enterAll policy declarations).env.symbols.entries := by
  induction declarations generalizing table with
  | nil => exact List.prefix_rfl
  | cons declaration rest ih =>
      exact (enter_symbols policy table declaration).trans (ih (table.enter policy declaration))

end SymbolTable

namespace Phase

theorem table_run (policy : RedefinitionPolicy) (program : Node) (table : SymbolTable)
    (phase : Phase) :
    (phase.run policy program table).table = (phase.work policy program table).table := by
  unfold run
  cases ended : (phase.work policy program table).outcome with
  | error fault => simp only [ended]
  | ok done => simp only [ended]

theorem outcome_run (policy : RedefinitionPolicy) (program : Node) (table : SymbolTable)
    (phase : Phase) :
    (phase.run policy program table).outcome =
      (phase.work policy program table).outcome.map fun _ =>
        phase.resultOf (phase.run policy program table).table := by
  rw [table_run]
  unfold run
  cases ended : (phase.work policy program table).outcome with
  | error fault => simp only [ended, Except.map]
  | ok done => simp only [ended, Except.map]

theorem outcome_run_eq_error_iff (policy : RedefinitionPolicy) (program : Node)
    (table : SymbolTable) (phase : Phase) (fault : Fault) :
    (phase.run policy program table).outcome = .error fault ↔
      (phase.work policy program table).outcome = .error fault := by
  unfold run
  cases ended : (phase.work policy program table).outcome with
  | error other => simp only [ended, Except.error.injEq]
  | ok done => simp only [ended, reduceCtorEq]

theorem work_symbols (policy : RedefinitionPolicy) (program : Node) (table : SymbolTable)
    (phase : Phase) :
    table.env.symbols.entries <+: (phase.work policy program table).table.env.symbols.entries := by
  cases phase with
  | build => exact SymbolTable.enterAll_symbols policy table _
  | resolve => exact List.prefix_rfl
  | types => exact List.prefix_rfl
  | access => exact List.prefix_rfl

theorem work_env_of_not_build (policy : RedefinitionPolicy) (program : Node) (table : SymbolTable)
    {phase : Phase} (later : phase ≠ .build) :
    (phase.work policy program table).table.env = table.env := by
  cases phase with
  | build => exact absurd rfl later
  | resolve => rfl
  | types => rfl
  | access => rfl

end Phase

namespace Task

open SymbolTable

/-- Every task is the work of its phase, under some policy. What is on the stack of the checker does
not matter, since a check empties it first. -/
theorem perform_eq_work (session : Session) (task : Task) :
    ∃ policy program,
      (task.perform session).table = (task.phase.work policy program session.table).table := by
  cases task with
  | run phase policy program =>
      exact ⟨policy, program, Phase.table_run policy program session.table phase⟩
  | recheck program =>
      refine ⟨.reject, program, ?_⟩
      simp only [perform, Checker.run_eq_check]
      rfl

theorem perform_extends (session : Session) (task : Task) :
    Extends task.phase session.table (task.perform session).table := by
  obtain ⟨policy, program, same⟩ := task.perform_eq_work session
  rw [same]
  exact Phase.work_extends policy program session.table task.phase

theorem perform_appended (session : Session) (task : Task) :
    Appended session.table (task.perform session).table := by
  apply (task.perform_extends session).appended
  obtain ⟨policy, program, same⟩ := task.perform_eq_work session
  rw [same]
  exact Phase.work_symbols policy program session.table task.phase

theorem perform_framed (session : Session) (task : Task) :
    Framed task.phase session.table (task.perform session).table := by
  apply (task.perform_extends session).framed
  intro later
  obtain ⟨policy, program, same⟩ := task.perform_eq_work session
  rw [same]
  exact Phase.work_env_of_not_build policy program session.table later

theorem performAll_cons (session : Session) (task : Task) (rest : List Task) :
    performAll session (task :: rest) = performAll (task.perform session) rest := rfl

theorem lookup_performAll {name : String} {symbol : Symbol} (tasks : List Task)
    {session : Session} (found : session.table.env.lookup? name = some symbol) :
    (performAll session tasks).table.env.lookup? name = some symbol := by
  induction tasks generalizing session with
  | nil => exact found
  | cons task rest ih =>
      rw [performAll_cons]
      apply ih
      exact OrderedMap.get?_of_entries_prefix (task.perform_appended session).symbols found

end Task

/-- Whatever tasks came before and whatever tasks come after, a task only appends to a table, and
only what belongs to its phase. A variable that is declared at some point keeps its symbol, and so
its name, type, scope and declaration, to the end. -/
theorem tasks_only_append (session : Session) (earlier : List Task) (task : Task)
    (later : List Task) :
    let before := Task.performAll session earlier
    let after := task.perform before
    let final := Task.performAll after later
    before.table.Appended after.table ∧
      SymbolTable.Framed task.phase before.table after.table ∧
      ∀ name symbol, before.table.env.lookup? name = some symbol →
        after.table.env.lookup? name = some symbol ∧
          final.table.env.lookup? name = some symbol := by
  intro before after final
  have appended : before.table.Appended after.table := task.perform_appended before
  refine ⟨appended, task.perform_framed before, ?_⟩
  intro name symbol found
  have kept : after.table.env.lookup? name = some symbol :=
    OrderedMap.get?_of_entries_prefix appended.symbols found
  exact ⟨kept, Task.lookup_performAll later kept⟩

/-- What may happen to a table: a variable is declared in it, a finding is reported to it, or a
task is performed on it. -/
inductive Step where
  | declare (symbol : Symbol)
  | report (finding : Finding)
  | perform (task : Task)

namespace Step

def apply (session : Session) : Step → Session
  | declare symbol => { session with table := session.table.declare symbol }
  | report finding => { session with table := session.table.report finding }
  | perform task => task.perform session

def applyAll (session : Session) (steps : List Step) : Session :=
  steps.foldl apply session

theorem apply_journal (session : Session) (step : Step) :
    ∃ recorded, (step.apply session).table.toJournal =
      session.table.toJournal ++ .ofFindings recorded := by
  cases step with
  | declare symbol => exact ⟨[], session.table.append_empty.symm⟩
  | report finding => exact ⟨[finding], session.table.report_eq_append finding⟩
  | perform task =>
      obtain ⟨recorded, same, _⟩ := task.perform_extends session
      exact ⟨recorded, same⟩

end Step

namespace Journal

def diagnosticsOf (journal : Journal) (code : String) : List Diagnostic :=
  journal.diagnostics.filter (·.code.text = code)

def entryCount (journal : Journal) : Nat :=
  journal.unresolved.length + journal.redeclared.length + journal.mismatches.length +
    journal.sensorWrites.length + journal.streamWrites.length + journal.readOnlyWrites.length

/-- The diagnostics say what the six lists say: those of one code are about the entries of one
list, in the same order, and there are no others. -/
structure Mirrored (journal : Journal) : Prop where
  unresolved : (journal.diagnosticsOf "E0001").map (·.subject) = journal.unresolved.map some
  redeclared : (journal.diagnosticsOf "E0003").map (·.subject) = journal.redeclared.map some
  mismatches :
    (journal.diagnosticsOf "E0004").map (·.position) = journal.mismatches.map (·.position)
  sensorWrites : (journal.diagnosticsOf "E0101").map (·.subject) = journal.sensorWrites.map some
  streamWrites : (journal.diagnosticsOf "E0102").map (·.subject) = journal.streamWrites.map some
  readOnlyWrites :
    (journal.diagnosticsOf "E0103").map (·.subject) = journal.readOnlyWrites.map some
  total : journal.diagnostics.length = journal.entryCount

theorem mirrored_empty : empty.Mirrored :=
  ⟨rfl, rfl, rfl, rfl, rfl, rfl, rfl⟩

theorem mirrored_singleton (finding : Finding) : (ofFindings [finding]).Mirrored := by
  cases finding <;> exact ⟨rfl, rfl, rfl, rfl, rfl, rfl, rfl⟩

section Append

variable {earlier later : Journal}

theorem shown_append {α β : Type} {code : String} {ofDiagnostic : Diagnostic → β} {ofEntry : α → β}
    {entries added : List α}
    (first : (earlier.diagnosticsOf code).map ofDiagnostic = entries.map ofEntry)
    (second : (later.diagnosticsOf code).map ofDiagnostic = added.map ofEntry) :
    ((earlier ++ later).diagnosticsOf code).map ofDiagnostic = (entries ++ added).map ofEntry := by
  have split : (earlier ++ later).diagnosticsOf code =
      earlier.diagnosticsOf code ++ later.diagnosticsOf code := List.filter_append _ _
  rw [split, List.map_append, first, second, List.map_append]

theorem entryCount_append :
    (earlier ++ later).entryCount = earlier.entryCount + later.entryCount := by
  have lists : earlier ++ later = earlier.append later := rfl
  simp only [lists, entryCount, append, List.length_append]
  omega

theorem Mirrored.append (first : earlier.Mirrored) (second : later.Mirrored) :
    (earlier ++ later).Mirrored where
  unresolved := shown_append first.unresolved second.unresolved
  redeclared := shown_append first.redeclared second.redeclared
  mismatches := shown_append first.mismatches second.mismatches
  sensorWrites := shown_append first.sensorWrites second.sensorWrites
  streamWrites := shown_append first.streamWrites second.streamWrites
  readOnlyWrites := shown_append first.readOnlyWrites second.readOnlyWrites
  total := by
    rw [entryCount_append, ← first.total, ← second.total]
    exact List.length_append

end Append

theorem Mirrored.append_findings {journal : Journal} (mirrored : journal.Mirrored)
    (recorded : List Finding) : (journal ++ ofFindings recorded).Mirrored := by
  induction recorded generalizing journal with
  | nil =>
      rw [ofFindings_nil, append_empty]
      exact mirrored
  | cons finding rest ih =>
      rw [← List.singleton_append, ofFindings_append, ← append_assoc]
      exact ih (mirrored.append (mirrored_singleton finding))

theorem Mirrored.isValid_iff {journal : Journal} (mirrored : journal.Mirrored) :
    journal.isValid = true ↔ journal.diagnostics = [] := by
  rw [← List.length_eq_zero_iff, mirrored.total]
  simp [isValid, entryCount, and_assoc]

end Journal

namespace Step

theorem apply_mirrored {session : Session} (mirrored : session.table.Mirrored) (step : Step) :
    (step.apply session).table.Mirrored := by
  obtain ⟨recorded, same⟩ := step.apply_journal session
  rw [same]
  exact mirrored.append_findings recorded

theorem applyAll_mirrored (steps : List Step) {session : Session}
    (mirrored : session.table.Mirrored) : (applyAll session steps).table.Mirrored := by
  induction steps generalizing session with
  | nil => exact mirrored
  | cons step rest ih => exact ih (apply_mirrored mirrored step)

end Step

/-- Whatever has happened to a table since it was empty, its diagnostics mirror its lists: code by
code they are about the entries of one list, in the same order, and they are as many as all entries
together. So a table is valid if and only if it has no diagnostics. -/
theorem diagnostics_mirror_lists (steps : List Step) :
    let table := (Step.applyAll {} steps).table
    table.Mirrored ∧ (table.isValid = true ↔ table.diagnostics = []) := by
  intro table
  have mirrored : table.Mirrored := Step.applyAll_mirrored steps Journal.mirrored_empty
  exact ⟨mirrored, mirrored.isValid_iff⟩

end SwarmCheck
