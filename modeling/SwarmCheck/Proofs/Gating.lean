import SwarmCheck.Analysis.Analyzer
import SwarmCheck.Proofs.Frames

/-!
# Phase gating

An analysis lets a phase decide from the lists of a shared table whether the next phase may run.
Here the same analysis is told without any deciding: the phases run in order on an empty table
until one of them has recorded something. The two agree because a table that reaches a phase has
no findings yet, and a phase adds only findings of its own kind, so its own lists count all there
are. What a table reports is therefore always the work of a single phase.
-/

namespace SwarmCheck

set_option autoImplicit false

namespace Finding

section Views

variable {finding : Finding}

theorem phase_of_redeclared (seen : finding.redeclared?.isSome = true) :
    finding.phase = .build := by
  cases finding <;> simp_all [redeclared?, phase]

theorem phase_of_unresolved (seen : finding.unresolved?.isSome = true) :
    finding.phase = .resolve := by
  cases finding <;> simp_all [unresolved?, phase]

theorem phase_of_mismatch (seen : finding.mismatch?.isSome = true) :
    finding.phase = .types := by
  cases finding <;> simp_all [mismatch?, phase]

theorem phase_of_sensorWrite (seen : finding.sensorWrite?.isSome = true) :
    finding.phase = .access := by
  cases finding <;> simp_all [sensorWrite?, phase]

theorem phase_of_streamWrite (seen : finding.streamWrite?.isSome = true) :
    finding.phase = .access := by
  cases finding <;> simp_all [streamWrite?, phase]

theorem phase_of_readOnlyWrite (seen : finding.readOnlyWrite?.isSome = true) :
    finding.phase = .access := by
  cases finding <;> simp_all [readOnlyWrite?, phase]

end Views

def codesOf : Phase → List Code
  | .build => [.redeclared]
  | .resolve => [.unresolved]
  | .types => [.mismatch]
  | .access => [.sensorWrite, .streamWrite, .readOnlyWrite]

theorem diagnostic_code_mem (finding : Finding) :
    finding.diagnostic.code ∈ codesOf finding.phase := by
  cases finding <;> simp [diagnostic, Diagnostic.ofCode, phase, codesOf]

end Finding

namespace Journal

/-- Everything found so far is the work of one phase. -/
def OnlyFrom (phase : Phase) (journal : Journal) : Prop :=
  ∃ recorded, journal = ofFindings recorded ∧ ∀ finding ∈ recorded, finding.phase = phase

section OnlyFrom

variable {phase : Phase} {journal : Journal}

theorem OnlyFrom.of_extends {before after : SymbolTable}
    (extended : SymbolTable.Extends phase before after) (clean : before.Clean) :
    after.OnlyFrom phase := by
  obtain ⟨recorded, same, own⟩ := extended
  rw [clean, empty_append] at same
  exact ⟨recorded, same, own⟩

theorem view_of_foreign {α : Type} {view : Finding → Option α} {owner : Phase}
    {recorded : List Finding} (own : ∀ finding ∈ recorded, finding.phase = phase)
    (owned : ∀ {finding : Finding}, (view finding).isSome = true → finding.phase = owner)
    (other : phase ≠ owner) : recorded.filterMap view = [] := by
  rw [List.filterMap_eq_nil_iff]
  intro finding member
  cases seen : view finding with
  | none => rfl
  | some shown =>
      have mine := own finding member
      have theirs := @owned finding (by rw [seen]; rfl)
      exact absurd (mine.symm.trans theirs) other

theorem OnlyFrom.foreign_lists_empty (only : journal.OnlyFrom phase) :
    (phase ≠ .build → journal.redeclared = []) ∧
    (phase ≠ .resolve → journal.unresolved = []) ∧
    (phase ≠ .types → journal.mismatches = []) ∧
    (phase ≠ .access →
      journal.sensorWrites = [] ∧ journal.streamWrites = [] ∧ journal.readOnlyWrites = []) := by
  obtain ⟨recorded, rfl, own⟩ := only
  refine ⟨view_of_foreign own Finding.phase_of_redeclared,
    view_of_foreign own Finding.phase_of_unresolved,
    view_of_foreign own Finding.phase_of_mismatch, ?_⟩
  intro other
  exact ⟨view_of_foreign own Finding.phase_of_sensorWrite other,
    view_of_foreign own Finding.phase_of_streamWrite other,
    view_of_foreign own Finding.phase_of_readOnlyWrite other⟩

theorem OnlyFrom.later_lists_empty (only : journal.OnlyFrom phase) :
    (journal.redeclared ≠ [] → journal.unresolved = [] ∧ journal.mismatches = [] ∧
      journal.sensorWrites = [] ∧ journal.streamWrites = [] ∧ journal.readOnlyWrites = []) ∧
    (journal.unresolved ≠ [] → journal.mismatches = [] ∧
      journal.sensorWrites = [] ∧ journal.streamWrites = [] ∧ journal.readOnlyWrites = []) ∧
    (journal.mismatches ≠ [] →
      journal.sensorWrites = [] ∧ journal.streamWrites = [] ∧ journal.readOnlyWrites = []) := by
  obtain ⟨redeclared, unresolved, mismatches, writes⟩ := only.foreign_lists_empty
  cases phase with
  | build =>
      have noneUnresolved := unresolved (by decide)
      have noneMismatched := mismatches (by decide)
      have noneWritten := writes (by decide)
      exact ⟨fun _ => ⟨noneUnresolved, noneMismatched, noneWritten⟩,
        fun _ => ⟨noneMismatched, noneWritten⟩, fun _ => noneWritten⟩
  | resolve =>
      have noneMismatched := mismatches (by decide)
      have noneWritten := writes (by decide)
      exact ⟨fun found => absurd (redeclared (by decide)) found,
        fun _ => ⟨noneMismatched, noneWritten⟩, fun _ => noneWritten⟩
  | types =>
      have noneWritten := writes (by decide)
      exact ⟨fun found => absurd (redeclared (by decide)) found,
        fun found => absurd (unresolved (by decide)) found, fun _ => noneWritten⟩
  | access =>
      exact ⟨fun found => absurd (redeclared (by decide)) found,
        fun found => absurd (unresolved (by decide)) found,
        fun found => absurd (mismatches (by decide)) found⟩

theorem OnlyFrom.diagnostic_codes (only : journal.OnlyFrom phase) :
    ∀ diagnostic ∈ journal.diagnostics, diagnostic.code ∈ Finding.codesOf phase := by
  obtain ⟨recorded, rfl, own⟩ := only
  intro diagnostic member
  obtain ⟨finding, found, rfl⟩ := List.mem_map.mp member
  have coded := finding.diagnostic_code_mem
  rw [own finding found] at coded
  exact coded

theorem OnlyFrom.isValid_iff (only : journal.OnlyFrom phase) :
    journal.isValid = true ↔ journal.Clean := by
  obtain ⟨recorded, rfl, _⟩ := only
  rw [isValid_ofFindings_iff, clean_ofFindings_iff]

theorem OnlyFrom.diagnostics_eq_nil_iff (only : journal.OnlyFrom phase) :
    journal.diagnostics = [] ↔ journal.isValid = true := by
  obtain ⟨recorded, rfl, _⟩ := only
  rw [isValid_ofFindings_iff]
  exact List.map_eq_nil_iff

end OnlyFrom

/-- What was written to a journal since it was as the earlier one. -/
def since (later earlier : Journal) : Journal where
  unresolved := later.unresolved.drop earlier.unresolved.length
  redeclared := later.redeclared.drop earlier.redeclared.length
  mismatches := later.mismatches.drop earlier.mismatches.length
  sensorWrites := later.sensorWrites.drop earlier.sensorWrites.length
  streamWrites := later.streamWrites.drop earlier.streamWrites.length
  readOnlyWrites := later.readOnlyWrites.drop earlier.readOnlyWrites.length
  diagnostics := later.diagnostics.drop earlier.diagnostics.length

def isEmpty (journal : Journal) : Bool := journal.isValid && journal.diagnostics.isEmpty

theorem isEmpty_iff (journal : Journal) : journal.isEmpty = true ↔ journal = empty := by
  simp [isEmpty, isValid, Journal.ext_iff, empty, and_assoc]

theorem since_empty (journal : Journal) : journal.since empty = journal := rfl

theorem empty_since (journal : Journal) : empty.since journal = empty := by
  simp [since, empty]

end Journal

namespace Phase

theorem errors_eq_zero_iff {phase : Phase} {table : SymbolTable} (only : table.OnlyFrom phase) :
    phase.errors table = 0 ↔ table.Clean := by
  obtain ⟨redeclared, unresolved, mismatches, writes⟩ := only.foreign_lists_empty
  rw [← only.isValid_iff, Journal.isValid]
  cases phase with
  | build => simp [errors, unresolved, mismatches, writes]
  | resolve => simp [errors, redeclared, mismatches, writes]
  | types => simp [errors, redeclared, unresolved, writes]
  | access => simp [errors, redeclared, unresolved, mismatches, and_assoc]

end Phase

namespace Analyzer

/-- One phase of an analysis that ran: the table it found and the table it left. -/
structure Stage where
  phase : Phase
  before : SymbolTable
  after : SymbolTable

def Stage.recorded (stage : Stage) : Journal := stage.after.toJournal.since stage.before.toJournal

/-- Runs phases one after another and stops right after the first that records anything. -/
def stages (policy : RedefinitionPolicy) (program : Node) :
    List Phase → SymbolTable → List Stage
  | [], _ => []
  | phase :: rest, table =>
      let stage : Stage := ⟨phase, table, (phase.work policy program table).table⟩
      stage :: if stage.recorded.isEmpty then stages policy program rest stage.after else []

def lastTable (start : SymbolTable) (ran : List Stage) : SymbolTable :=
  (ran.getLast?.map (·.after)).getD start

theorem lastTable_cons (start : SymbolTable) (stage : Stage) (rest : List Stage) :
    lastTable start (stage :: rest) = lastTable stage.after rest := by
  cases rest with
  | nil => rfl
  | cons next later => simp [lastTable, List.getLast?_cons]

/-- One phase of an analysis: a fault ends it, its own errors end it with the table so far, and
otherwise the remaining phases run on the table it left. -/
theorem outcome_runPhases_cons (policy : RedefinitionPolicy) (program : Node) (phase : Phase)
    (rest : List Phase) (table : SymbolTable) :
    (runPhases policy program (phase :: rest) table).outcome =
      match (phase.work policy program table).outcome with
      | .error fault => .error fault
      | .ok () =>
          if phase.errors (phase.work policy program table).table = 0 then
            (runPhases policy program rest (phase.work policy program table).table).outcome
          else .ok (phase.work policy program table).table := by
  cases outcome : (phase.work policy program table).outcome with
  | error fault => simp [runPhases, Phase.run, outcome]
  | ok done =>
      cases counted : phase.errors (phase.work policy program table).table with
      | zero => simp [runPhases, Phase.run, outcome, Phase.resultOf, counted, note]
      | succ count => simp [runPhases, Phase.run, outcome, Phase.resultOf, counted, note]

theorem outcome_analyze (settings : Settings) (program : Node) :
    (analyze settings program).outcome =
      match program.name? with
      | none => .error (.namelessRoot program.phrase)
      | some _ =>
          (runPhases settings.recordRedefinition program Phase.all .empty).outcome := by
  unfold analyze
  cases named : program.name? with
  | none => rfl
  | some name =>
      cases ended : (runPhases settings.recordRedefinition program Phase.all .empty).outcome with
      | error fault =>
          simp only [note, Trail.outcome_emit_bind]
          exact Trail.outcome_bind_of_error ended _
      | ok table =>
          simp only [note, Trail.outcome_emit_bind]
          rw [Trail.outcome_bind_of_ok ended]
          cases settings.verbose <;> rfl

theorem analyze_eq_ok_iff {settings : Settings} {root : Node} {table : SymbolTable} :
    (analyze settings root).outcome = .ok table ↔
      root.name?.isSome = true ∧
        (runPhases settings.recordRedefinition root Phase.all .empty).outcome = .ok table := by
  rw [outcome_analyze]
  cases root.name? <;> simp

section Gated

variable {policy : RedefinitionPolicy} {program : Node} {table final : SymbolTable}

theorem work_onlyFrom (clean : table.Clean) (phase : Phase) :
    (phase.work policy program table).table.OnlyFrom phase :=
  .of_extends (Phase.work_extends policy program table phase) clean

theorem outcome_runPhases_silent {phase : Phase} (clean : table.Clean)
    (worked : (phase.work policy program table).outcome = .ok ())
    (silent : (phase.work policy program table).table.Clean) (rest : List Phase) :
    (runPhases policy program (phase :: rest) table).outcome =
      (runPhases policy program rest (phase.work policy program table).table).outcome := by
  rw [outcome_runPhases_cons, worked]
  exact if_pos ((Phase.errors_eq_zero_iff (work_onlyFrom clean phase)).mpr silent)

theorem outcome_runPhases_blocked {phase : Phase} (clean : table.Clean)
    (worked : (phase.work policy program table).outcome = .ok ())
    (found : ¬ (phase.work policy program table).table.Clean) (rest : List Phase) :
    (runPhases policy program (phase :: rest) table).outcome =
      .ok (phase.work policy program table).table := by
  rw [outcome_runPhases_cons, worked]
  apply if_neg
  intro counted
  exact found ((Phase.errors_eq_zero_iff (work_onlyFrom clean phase)).mp counted)

theorem stages_silent {phase : Phase}
    (silent : (phase.work policy program table).table.Clean) (rest : List Phase) :
    stages policy program (phase :: rest) table =
      ⟨phase, table, (phase.work policy program table).table⟩ ::
        stages policy program rest (phase.work policy program table).table := by
  have recorded : (⟨phase, table, (phase.work policy program table).table⟩ : Stage).recorded =
      .empty := by rw [Stage.recorded, silent, Journal.empty_since]
  rw [stages, if_pos ((Journal.isEmpty_iff _).mpr recorded)]

theorem stages_blocked {phase : Phase} (clean : table.Clean)
    (found : ¬ (phase.work policy program table).table.Clean) (rest : List Phase) :
    stages policy program (phase :: rest) table =
      [⟨phase, table, (phase.work policy program table).table⟩] := by
  have recorded : (⟨phase, table, (phase.work policy program table).table⟩ : Stage).recorded ≠
      .empty := by
    rw [Stage.recorded, clean, Journal.since_empty]
    exact found
  rw [stages, if_neg fun nothing => recorded ((Journal.isEmpty_iff _).mp nothing)]

theorem work_returned {phase : Phase} {rest : List Phase}
    (returned : (runPhases policy program (phase :: rest) table).outcome = .ok final) :
    (phase.work policy program table).outcome = .ok () := by
  rw [outcome_runPhases_cons] at returned
  cases outcome : (phase.work policy program table).outcome with
  | error fault => simp [outcome] at returned
  | ok done => rfl

/-- How a run of phases that started without findings and returned relates to its stages. -/
structure Gated (policy : RedefinitionPolicy) (program : Node) (phases : List Phase)
    (table final : SymbolTable) : Prop where
  last : final = lastTable table (stages policy program phases table)
  returned : ∀ stage ∈ stages policy program phases table,
    (stage.phase.work policy program stage.before).outcome = .ok ()
  single : ∃ phase, final.OnlyFrom phase
  clean_iff : final.Clean ↔
    (stages policy program phases table).map (·.phase) = phases ∧
      ∀ stage ∈ stages policy program phases table, stage.recorded = .empty

theorem gated_of_returned {phases : List Phase} (clean : table.Clean)
    (returned : (runPhases policy program phases table).outcome = .ok final) :
    Gated policy program phases table final := by
  induction phases generalizing table with
  | nil =>
      have same : table = final := Except.ok.inj returned
      subst same
      exact ⟨rfl, List.forall_mem_nil _, ⟨.build, [], clean, List.forall_mem_nil _⟩,
        iff_of_true clean ⟨rfl, List.forall_mem_nil _⟩⟩
  | cons phase rest ih =>
      have worked := work_returned returned
      by_cases silent : (phase.work policy program table).table.Clean
      · rw [outcome_runPhases_silent clean worked silent] at returned
        have remaining := ih silent returned
        have ran := stages_silent silent rest
        refine ⟨?_, ?_, remaining.single, ?_⟩
        · rw [ran, lastTable_cons]
          exact remaining.last
        · rw [ran]
          simpa [worked] using remaining.returned
        · rw [ran, remaining.clean_iff]
          have nothing : (phase.work policy program table).table.toJournal.since table.toJournal =
              .empty := by rw [silent, Journal.empty_since]
          simp [Stage.recorded, nothing]
      · rw [outcome_runPhases_blocked clean worked silent] at returned
        have stopped : (phase.work policy program table).table = final := Except.ok.inj returned
        have ran := stages_blocked clean silent rest
        refine ⟨?_, ?_, ⟨phase, stopped ▸ work_onlyFrom clean phase⟩, ?_⟩
        · rw [ran, lastTable_cons]
          exact stopped.symm
        · rw [ran]
          simpa using worked
        · rw [ran, ← stopped]
          refine iff_of_false silent fun ran => silent ?_
          have nothing := ran.2 _ List.mem_cons_self
          rw [Stage.recorded, clean, Journal.since_empty] at nothing
          exact nothing

theorem gated_of_analyze {settings : Settings}
    (returned : (analyze settings program).outcome = .ok final) :
    Gated settings.recordRedefinition program Phase.all .empty final :=
  gated_of_returned rfl (analyze_eq_ok_iff.mp returned).2

end Gated

end Analyzer

/-- An analysis that returns is one that stopped right after the first phase that recorded
anything. So its diagnostics have the codes of a single phase, a list with entries leaves the
lists of all later phases empty, and a table is valid if and only if all phases ran and none
recorded anything. -/
theorem analysis_stops_after_first_finding {settings : Settings} {program : Node}
    {table : SymbolTable} (returned : (analyze settings program).outcome = .ok table) :
    let ran := Analyzer.stages settings.recordRedefinition program
      [.build, .resolve, .types, .access] .empty
    table = Analyzer.lastTable .empty ran ∧
    (∀ stage ∈ ran,
      (stage.phase.work settings.recordRedefinition program stage.before).outcome = .ok ()) ∧
    ((∀ diagnostic ∈ table.diagnostics, diagnostic.code.text = "E0003") ∨
      (∀ diagnostic ∈ table.diagnostics, diagnostic.code.text = "E0001") ∨
      (∀ diagnostic ∈ table.diagnostics, diagnostic.code.text = "E0004") ∨
      (∀ diagnostic ∈ table.diagnostics,
        diagnostic.code.text ∈ ["E0101", "E0102", "E0103"])) ∧
    (table.redeclared ≠ [] → table.unresolved = [] ∧ table.mismatches = [] ∧
      table.sensorWrites = [] ∧ table.streamWrites = [] ∧ table.readOnlyWrites = []) ∧
    (table.unresolved ≠ [] → table.mismatches = [] ∧
      table.sensorWrites = [] ∧ table.streamWrites = [] ∧ table.readOnlyWrites = []) ∧
    (table.mismatches ≠ [] →
      table.sensorWrites = [] ∧ table.streamWrites = [] ∧ table.readOnlyWrites = []) ∧
    (table.isValid = true ↔
      ran.map (·.phase) = [.build, .resolve, .types, .access] ∧
        ∀ stage ∈ ran, stage.recorded = .empty) := by
  intro ran
  have gated := Analyzer.gated_of_analyze returned
  obtain ⟨phase, only⟩ := gated.single
  have codes := only.diagnostic_codes
  refine ⟨gated.last, gated.returned, ?_, only.later_lists_empty.1, only.later_lists_empty.2.1,
    only.later_lists_empty.2.2, ?_⟩
  · cases phase with
    | build =>
        refine .inl fun diagnostic member => ?_
        rw [List.mem_singleton.mp (codes diagnostic member)]
        rfl
    | resolve =>
        refine .inr (.inl fun diagnostic member => ?_)
        rw [List.mem_singleton.mp (codes diagnostic member)]
        rfl
    | types =>
        refine .inr (.inr (.inl fun diagnostic member => ?_))
        rw [List.mem_singleton.mp (codes diagnostic member)]
        rfl
    | access =>
        refine .inr (.inr (.inr fun diagnostic member => ?_))
        exact List.mem_map_of_mem (f := Code.text) (codes diagnostic member)
  · rw [only.isValid_iff]
    exact gated.clean_iff

/-- One variable declared twice, and an assignment to one that is not declared. -/
def redeclaredVariable : Node :=
  .program "Swarm"
    [.group .locals
      [.decl "count" "int" false 0 .hole none, .decl "count" "bool" false 0 .hole none] none,
      .event "Step" .hole [.assign "target" .hole (.constant .int "1" none false) none] none]
    none

/-- The second declaration is reported, so the assignment is never looked at. -/
theorem analysis_of_redeclared_variable :
    (analyze {} redeclaredVariable).outcome =
        .ok (Phase.build.work .reject redeclaredVariable .empty).table ∧
      (Phase.build.work .reject redeclaredVariable .empty).table.redeclared = ["count"] ∧
      (Phase.build.work .reject redeclaredVariable .empty).table.unresolved = [] := by
  have returned : (analyze {} redeclaredVariable).outcome =
      .ok (Phase.build.work .reject redeclaredVariable .empty).table := rfl
  have redeclared :
      (Phase.build.work .reject redeclaredVariable .empty).table.redeclared = ["count"] := rfl
  have later := (analysis_stops_after_first_finding returned).2.2.2.1 (by simp [redeclared])
  exact ⟨returned, redeclared, later.1⟩

end SwarmCheck
