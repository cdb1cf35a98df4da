import SwarmCheck.Proofs.Acceptance
import SwarmCheck.Proofs.Agreement
import SwarmCheck.Proofs.Occurrences

/-!
# The order of items

The items of a well-sorted program may be written in any order. The walk over declarations lists
something for each item on its own, so a reordered program declares the same things in another
order; the table has the same look-ups, unless a name is declared twice, and then both analyses end
with the same names reported. The later passes also go from item to item without carrying anything
over, so they report the same, in another order.
-/

namespace SwarmCheck

set_option autoImplicit false

theorem Node.preorderIn_perm {nodes reordered : List Node} (same : nodes.Perm reordered) :
    (preorderIn nodes).Perm (preorderIn reordered) := by
  rw [preorderIn_eq_flatMap, preorderIn_eq_flatMap]
  exact (same.filter _).flatMap_right preorder

theorem WellSorted.reorder {name : String} {items reordered : List Node}
    {position : Option Position} (sorted : WellSorted (.program name items position))
    (same : items.Perm reordered) : WellSorted (.program name reordered position) := by
  cases sorted with
  | program _ _ sortedItems =>
      exact .program name position fun item member => sortedItems item (same.mem_iff.mpr member)

theorem typesKnown_reorder {name : String} {items reordered : List Node}
    {position : Option Position} (same : items.Perm reordered)
    (known : ∀ inner ∈ (Node.program name items position).preorder, inner.TypeKnown) :
    ∀ inner ∈ (Node.program name reordered position).preorder, inner.TypeKnown := by
  rw [Node.preorder, List.forall_mem_cons] at known ⊢
  refine ⟨Node.typeKnown_of_not_decl rfl, fun inner member => ?_⟩
  exact known.2 inner ((Node.preorderIn_perm same).mem_iff.mpr member)

namespace Declarations

open Trail

/-- A walk that hands on the fields it is given and lists the same whatever they are. -/
structure Steady (walk : Fields → Collect Fields) (declared : List Declaration) : Prop where
  outcome : ∀ fields, (walk fields).outcome = .ok fields
  emitted : ∀ fields, (walk fields).emitted = declared

def listed (context : Context) (node : Node) : List Declaration :=
  (collect context .empty node).emitted

section Steady

variable {context : Context} {node : Node}

theorem Steady.of_eq {walk : Fields → Collect Fields} {declared : List Declaration}
    (steady : Steady walk declared) (same : ∀ fields, collect context fields node = walk fields) :
    Steady (collect context · node) (listed context node) where
  outcome fields := by
    rw [same]
    exact steady.outcome fields
  emitted fields := by
    rw [listed, same, same, steady.emitted, steady.emitted]

theorem collectAll_steady {nodes : List Node} {declared : Node → List Declaration}
    (present : ∀ node ∈ nodes, node.isBlank = false)
    (each : ∀ node ∈ nodes, Steady (collect context · node) (declared node)) :
    Steady (collectAll context · nodes) (nodes.flatMap declared) := by
  induction nodes with
  | nil => exact ⟨fun _ => rfl, fun _ => rfl⟩
  | cons node rest ih =>
      rw [List.forall_mem_cons] at present each
      have later := ih present.2 each.2
      simp only [collectAll, present.1, Bool.false_eq_true, if_false]
      constructor
      · intro fields
        rw [outcome_bind_of_ok (each.1.outcome fields)]
        exact later.outcome fields
      · intro fields
        rw [emitted_bind_of_ok (each.1.outcome fields), each.1.emitted, later.emitted,
          List.flatMap_cons]

theorem collect_variable_steady {scope : Scope} (outside : context.record = none)
    (within : context.scope = some scope) (sorted : VariableDecl node) (known : node.TypeKnown) :
    Steady (collect context · node) (listed context node) := by
  cases sorted with
  | decl name typeName isRecord dims position sortedInitial =>
      obtain ⟨type, declared⟩ := known
      simp only [listed, collect, collectDecl, declared, outside, within]
      exact ⟨fun _ => rfl, fun _ => rfl⟩

theorem collect_group_steady (outside : context.record = none) (sorted : DeclGroup node)
    (known : ∀ inner ∈ node.preorder, inner.TypeKnown) :
    Steady (collect context · node) (listed context node) := by
  cases sorted with
  | @group kind decls position sortedDecls =>
      rw [Node.preorder, List.forall_mem_cons] at known
      have present := fun entry member => (sortedDecls entry member).not_blank
      have each := fun entry member =>
        @collect_variable_steady { context with scope := some (Scope.ofGroup kind) } entry
          (Scope.ofGroup kind) outside rfl (sortedDecls entry member)
          (known.2 entry (Node.mem_preorderIn member (present entry member)))
      exact (collectAll_steady present each).of_eq fun fields => by rw [collect]

theorem collect_record_steady {name : String} {decls : List Node} {position : Option Position}
    (sorted : ∀ entry ∈ decls, VariableDecl entry) (known : ∀ entry ∈ decls, entry.TypeKnown) :
    Steady (collect context · (.record name decls position))
      (listed context (.record name decls position)) := by
  have gathers : Gathers (collectAll { context with record := some name } .empty decls) .empty
      (decls.flatMap Rules.declFields) := collectAll_gathers rfl sorted known .empty
  obtain ⟨own, returned⟩ := gathers.returns
  constructor
  · intro fields
    rw [collect, outcome_bind_of_ok returned]
    rfl
  · intro fields
    rw [listed, collect, collect, emitted_bind_of_ok returned, emitted_bind_of_ok returned]
    rfl

theorem collect_item_steady {item : Node} (sorted : TopItem item)
    (known : ∀ inner ∈ item.preorder, inner.TypeKnown) :
    Steady (collect {} · item) (listed {} item) := by
  cases sorted with
  | group sortedGroup => exact collect_group_steady rfl sortedGroup known
  | @moduleBlock name groups position sortedGroups =>
      simp only [Node.preorder, List.forall_mem_cons, Node.forall_mem_preorderIn] at known
      have present := fun entry member => (sortedGroups entry member).not_blank
      have each := fun entry member => @collect_group_steady { block := some name } entry rfl
        (sortedGroups entry member) (known.2 entry member (present entry member))
      exact (collectAll_steady present each).of_eq fun fields => by rw [collect]
  | record name position sortedFields =>
      rw [Node.preorder, List.forall_mem_cons] at known
      apply collect_record_steady sortedFields
      intro entry member
      exact known.2 entry (Node.mem_preorderIn member (sortedFields entry member).not_blank)
  | event name position sortedPrecondition sortedEffects =>
      have silent : Steady (fun fields => (pure fields : Collect Fields)) [] :=
        ⟨fun _ => rfl, fun _ => rfl⟩
      refine silent.of_eq fun fields => ?_
      rw [collect, collect_optional sortedPrecondition, pure_bind,
        collectIn_silent fun effect member => collect_statement (sortedEffects effect member)]

end Steady

theorem emitted_ofProgram {name : String} {items : List Node} {position : Option Position}
    (sorted : WellSorted (.program name items position))
    (known : ∀ inner ∈ (Node.program name items position).preorder, inner.TypeKnown) :
    (ofProgram (.program name items position)).emitted = items.flatMap (listed {}) := by
  cases sorted with
  | program _ _ sortedItems =>
      simp only [Node.preorder, List.forall_mem_cons, Node.forall_mem_preorderIn] at known
      have present := fun item member => (sortedItems item member).not_blank
      have each := fun item member => collect_item_steady (sortedItems item member)
        (known.2 item member (present item member))
      simp only [ofProgram, Node.isBlank, Bool.false_eq_true, if_false, collect]
      rw [collectIn_eq_collectAll present]
      exact (collectAll_steady present each).emitted .empty

end Declarations

theorem Trail.emitted_forM {ω ε α : Type} {items : List α} {step : α → Trail ω ε Unit}
    (returned : (forM items step).outcome = .ok ()) :
    (forM items step).emitted = items.flatMap fun item => (step item).emitted := by
  induction items with
  | nil => rfl
  | cons item rest ih =>
      rw [List.forM_cons] at returned ⊢
      obtain ⟨done, first, later⟩ := (outcome_bind_eq_ok_iff _ _ _).mp returned
      rw [emitted_bind_of_ok first, ih later, List.flatMap_cons]

section Passes

variable {env : Environment} {name : String} {items reordered : List Node}
  {position : Option Position} (same : items.Perm reordered)

include same

theorem References.check_perm :
    (check env (.program name items position)).emitted.Perm
      (check env (.program name reordered position)).emitted := by
  have tail := (Node.preorderIn_perm same).flatMap_right (entriesAt env)
  simp only [check, Node.isBlank, Bool.false_eq_true, if_false, Trail.emitted_emit, Node.preorder,
    List.flatMap_cons]
  exact tail.append_left []

theorem Typing.check_perm (sorted : WellSorted (.program name items position))
    (returned : (check env (.program name items position)).outcome = .ok ())
    (otherReturned : (check env (.program name reordered position)).outcome = .ok ()) :
    (check env (.program name items position)).emitted.Perm
      (check env (.program name reordered position)).emitted := by
  rw [check_eq_inference sorted] at returned ⊢
  rw [check_eq_inference (sorted.reorder same)] at otherReturned ⊢
  rw [Inference.check] at returned otherReturned ⊢
  rw [Inference.check, Trail.emitted_forM returned, Trail.emitted_forM otherReturned]
  exact same.flatMap_right _

theorem WriteAccess.check_perm
    (returned : (check env (.program name items position)).outcome = .ok ())
    (otherReturned : (check env (.program name reordered position)).outcome = .ok ()) :
    (check env (.program name items position)).emitted.Perm
      (check env (.program name reordered position)).emitted := by
  simp only [check, Node.isBlank, Bool.false_eq_true, if_false, checkNodes_eq_forM]
    at returned otherReturned ⊢
  rw [Trail.emitted_forM returned, Trail.emitted_forM otherReturned, Node.preorder, Node.preorder]
  exact ((Node.preorderIn_perm same).flatMap_right _).append_left []

end Passes

namespace Analyzer

variable {policy : RedefinitionPolicy} {program other : Node} {env : Environment}
  {otherEnv : Environment} {phase : Phase} {rest : List Phase}

/-- Runs of the same phases on two programs that return with the same findings, up to their
order. The environments stay what they are. -/
def Lockstep (policy : RedefinitionPolicy) (program other : Node) (env otherEnv : Environment)
    (phases : List Phase) : Prop :=
  ∃ findings otherFindings,
    (runPhases policy program phases ⟨.empty, env⟩).outcome = .ok ⟨.ofFindings findings, env⟩ ∧
      (runPhases policy other phases ⟨.empty, otherEnv⟩).outcome =
        .ok ⟨.ofFindings otherFindings, otherEnv⟩ ∧
      findings.Perm otherFindings

theorem lockstep_nil : Lockstep policy program other env otherEnv [] :=
  ⟨[], [], rfl, rfl, .nil⟩

/-- A pass that returns and reports the same on both programs, up to order, either stops both runs
or neither. -/
theorem lockstep_inspect {pass : Environment → Node → Pass Unit}
    (inspects : ∀ program table,
      phase.work policy program table = Phase.inspect pass program table)
    (returned : (pass env program).outcome = .ok ())
    (otherReturned : (pass otherEnv other).outcome = .ok ())
    (perm : (pass env program).emitted.Perm (pass otherEnv other).emitted)
    (later : Entry.findings (pass env program).emitted = [] →
      Entry.findings (pass otherEnv other).emitted = [] →
      Lockstep policy program other env otherEnv rest) :
    Lockstep policy program other env otherEnv (phase :: rest) := by
  have found : (Entry.findings (pass env program).emitted).Perm
      (Entry.findings (pass otherEnv other).emitted) := perm.filterMap _
  have worked (program : Node) (env : Environment)
      (returned : (pass env program).outcome = .ok ()) :
      (phase.work policy program ⟨.empty, env⟩).outcome = .ok () ∧
        (phase.work policy program ⟨.empty, env⟩).table =
          ⟨.ofFindings (Entry.findings (pass env program).emitted), env⟩ := by
    rw [inspects]
    refine ⟨returned, ?_⟩
    rw [Phase.inspect, SymbolTable.reportAll, Journal.reportAll_eq_append, Journal.empty_append]
  obtain ⟨ended, left⟩ := worked program env returned
  obtain ⟨otherEnded, otherLeft⟩ := worked other otherEnv otherReturned
  by_cases silent : Entry.findings (pass env program).emitted = []
  · have otherSilent : Entry.findings (pass otherEnv other).emitted = [] := by
      rw [silent] at found
      exact found.symm.eq_nil
    obtain ⟨findings, otherFindings, ran, otherRan, same⟩ := later silent otherSilent
    refine ⟨findings, otherFindings, ?_, ?_, same⟩
    · rw [silent] at left
      rw [outcome_runPhases_silent (SymbolTable.clean_mk _) ended (by rw [left]; rfl), left]
      exact ran
    · rw [otherSilent] at otherLeft
      rw [outcome_runPhases_silent (SymbolTable.clean_mk _) otherEnded (by rw [otherLeft]; rfl),
        otherLeft]
      exact otherRan
  · have otherFound : Entry.findings (pass otherEnv other).emitted ≠ [] := by
      intro otherSilent
      rw [otherSilent] at found
      exact silent found.eq_nil
    refine ⟨_, _, ?_, ?_, found⟩
    · rw [outcome_runPhases_blocked (SymbolTable.clean_mk _) ended
        (by rw [left, Journal.clean_ofFindings_iff]; exact silent), left]
    · rw [outcome_runPhases_blocked (SymbolTable.clean_mk _) otherEnded
        (by rw [otherLeft, Journal.clean_ofFindings_iff]; exact otherFound), otherLeft]

section Items

variable {name : String} {items reordered : List Node} {position : Option Position}
  (sorted : WellSorted (.program name items position)) (same : items.Perm reordered)

include sorted same

theorem later_phases_lockstep (agrees : env.Agrees otherEnv)
    (known : ∀ inner ∈ (Node.program name items position).preorder, inner.TypeKnown) :
    Lockstep policy (.program name items position) (.program name reordered position) env otherEnv
      [.resolve, .types, .access] := by
  have otherSorted := sorted.reorder same
  have otherKnown := typesKnown_reorder same known
  have filled := fun node member => (sorted.all_below node member).filled
  have otherFilled := fun node member => (otherSorted.all_below node member).filled
  apply @lockstep_inspect _ _ _ _ _ _ _ References.check (fun _ _ => rfl)
  · simp [References.check, Node.isBlank]
  · simp [References.check, Node.isBlank]
  · rw [← agrees.references_check]
    exact References.check_perm same
  intro silent otherSilent
  have resolved := (References.findings_check_eq_nil_iff rfl env).mp silent
  have otherResolved := (References.findings_check_eq_nil_iff rfl otherEnv).mp otherSilent
  have typed := Typing.check_returns rfl resolved known filled
  have otherTyped := Typing.check_returns rfl otherResolved otherKnown otherFilled
  apply @lockstep_inspect _ _ _ _ _ _ _ Typing.check (fun _ _ => rfl) typed otherTyped
  · rw [← agrees.typing_check] at otherTyped ⊢
    exact Typing.check_perm same sorted typed otherTyped
  intro _ _
  have checked := WriteAccess.check_returns rfl resolved
  have otherChecked := WriteAccess.check_returns rfl otherResolved
  apply @lockstep_inspect _ _ _ _ _ _ _ WriteAccess.check (fun _ _ => rfl) checked otherChecked
  · rw [← agrees.writeAccess_check] at otherChecked ⊢
    exact WriteAccess.check_perm same checked otherChecked
  intro _ _
  exact lockstep_nil

end Items

theorem phases_return_iff (policy : RedefinitionPolicy) (sorted : WellSorted program) :
    (∃ table, (runPhases policy program Phase.all .empty).outcome = .ok table) ↔
      ∀ inner ∈ program.preorder, inner.TypeKnown := by
  constructor
  · rintro ⟨table, returned⟩
    have flat := fun node member => (sorted.all_below node member).flat
    exact Phase.typesKnown_of_build sorted.not_blank flat (work_returned returned)
  · intro known
    obtain ⟨table, returned, _⟩ := phases_decide_by_rules policy sorted known
    exact ⟨table, returned⟩

theorem phases_fail_iff (policy : RedefinitionPolicy) (sorted : WellSorted program) :
    (∃ fault, (runPhases policy program Phase.all .empty).outcome = .error fault) ↔
      ¬ ∀ inner ∈ program.preorder, inner.TypeKnown := by
  rw [← phases_return_iff policy sorted]
  cases (runPhases policy program Phase.all .empty).outcome <;> simp

end Analyzer

/-- Two tables with equally many variables and, up to order, the same entries in each list. -/
structure SymbolTable.SameEntries (left right : SymbolTable) : Prop where
  size : left.size = right.size
  unresolved : left.unresolved.Perm right.unresolved
  redeclared : left.redeclared.Perm right.redeclared
  mismatches : left.mismatches.Perm right.mismatches
  sensorWrites : left.sensorWrites.Perm right.sensorWrites
  streamWrites : left.streamWrites.Perm right.streamWrites
  readOnlyWrites : left.readOnlyWrites.Perm right.readOnlyWrites

namespace SymbolTable

theorem eq_of_quiet {table : SymbolTable} (quiet : table.Clean) : table = ⟨.empty, table.env⟩ := by
  rw [← quiet]

variable {left right : SymbolTable}

theorem SameEntries.isValid_eq (same : left.SameEntries right) : left.isValid = right.isValid := by
  rw [Journal.isValid, Journal.isValid, same.unresolved.isEmpty_eq, same.redeclared.isEmpty_eq,
    same.mismatches.isEmpty_eq, same.sensorWrites.isEmpty_eq, same.streamWrites.isEmpty_eq,
    same.readOnlyWrites.isEmpty_eq]

theorem sameEntries_of_findings {findings otherFindings : List Finding}
    {env otherEnv : Environment} (size : env.symbols.size = otherEnv.symbols.size)
    (found : findings.Perm otherFindings) :
    SameEntries ⟨.ofFindings findings, env⟩ ⟨.ofFindings otherFindings, otherEnv⟩ where
  size := size
  unresolved := found.filterMap _
  redeclared := found.filterMap _
  mismatches := found.filterMap _
  sensorWrites := found.filterMap _
  streamWrites := found.filterMap _
  readOnlyWrites := found.filterMap _

theorem sameEntries_of_build (size : left.size = right.size)
    (redeclared : left.redeclared.Perm right.redeclared) (leftOnly : left.OnlyFrom .build)
    (rightOnly : right.OnlyFrom .build) : left.SameEntries right := by
  obtain ⟨_, unresolved, mismatches, writes⟩ := leftOnly.foreign_lists_empty
  obtain ⟨_, otherUnresolved, otherMismatches, otherWrites⟩ := rightOnly.foreign_lists_empty
  obtain ⟨sensorWrites, streamWrites, readOnlyWrites⟩ := writes (by decide)
  obtain ⟨otherSensor, otherStream, otherReadOnly⟩ := otherWrites (by decide)
  refine ⟨size, ?_, redeclared, ?_, ?_, ?_, ?_⟩
  · rw [unresolved (by decide), otherUnresolved (by decide)]
  · rw [mismatches (by decide), otherMismatches (by decide)]
  · rw [sensorWrites, otherSensor]
  · rw [streamWrites, otherStream]
  · rw [readOnlyWrites, otherReadOnly]

end SymbolTable

theorem Phase.build_holdsFirsts {name : String} {items : List Node} {position : Option Position}
    (sorted : WellSorted (.program name items position))
    (known : ∀ inner ∈ (Node.program name items position).preorder, inner.TypeKnown) :
    SymbolTable.HoldsFirsts (items.flatMap (Declarations.listed {}))
      (build.work .reject (.program name items position) .empty).table := by
  rw [← Declarations.emitted_ofProgram sorted known]
  exact SymbolTable.enterAll_holdsFirsts _

namespace Analyzer

variable {name : String} {items reordered : List Node} {position : Option Position}

/-- Without names that are declared twice, the tables of a program and its reordering have the same
look-ups and the same diagnostics in some order. With such names both analyses end after the build,
having reported the same names in some order. -/
theorem runPhases_reordered (sorted : WellSorted (.program name items position))
    (same : items.Perm reordered) {table other : SymbolTable}
    (returned : (runPhases .reject (.program name items position) Phase.all .empty).outcome =
      .ok table)
    (otherReturned :
      (runPhases .reject (.program name reordered position) Phase.all .empty).outcome =
        .ok other) :
    table.SameEntries other ∧
      (Rules.NamesDistinct .reject (.program name items position) →
        (∀ symbol, table.env.lookup? symbol = other.env.lookup? symbol) ∧
        (∀ record, table.env.registry.fieldsOf? record = other.env.registry.fieldsOf? record) ∧
        table.diagnostics.Perm other.diagnostics) := by
  have known := (phases_return_iff .reject sorted).mp ⟨table, returned⟩
  have holds := Phase.build_holdsFirsts sorted known
  have otherHolds := Phase.build_holdsFirsts (sorted.reorder same) (typesKnown_reorder same known)
  have worked := work_returned returned
  have otherWorked := work_returned otherReturned
  have distinctIff := (@Phase.build_spec .reject _ sorted known).2.1
  have declared := same.flatMap_right (Declarations.listed {})
  have size := holds.size_eq otherHolds declared
  have redeclared := holds.redeclared_perm otherHolds declared
  -- Either both builds are quiet and the later phases run in step, or both analyses end here.
  by_cases quiet :
      (Phase.build.work .reject (.program name items position) .empty).table.Clean
  · have otherQuiet : (Phase.build.work .reject (.program name reordered position)
        .empty).table.Clean := by
      rw [holds.quiet_iff.mp quiet] at redeclared
      exact otherHolds.quiet_iff.mpr redeclared.symm.eq_nil
    obtain ⟨lookups, records⟩ := holds.lookups_eq otherHolds declared quiet
    obtain ⟨findings, otherFindings, ran, otherRan, found⟩ :=
      @later_phases_lockstep .reject _ _ _ _ _ _ sorted same
        ⟨lookups, fun record => by rw [records record]⟩ known
    rw [Phase.all, outcome_runPhases_silent SymbolTable.clean_empty worked quiet,
      SymbolTable.eq_of_quiet quiet, ran] at returned
    rw [Phase.all, outcome_runPhases_silent SymbolTable.clean_empty otherWorked otherQuiet,
      SymbolTable.eq_of_quiet otherQuiet, otherRan] at otherReturned
    cases returned
    cases otherReturned
    exact ⟨SymbolTable.sameEntries_of_findings size found,
      fun _ => ⟨lookups, records, found.map _⟩⟩
  · have otherFound : ¬ (Phase.build.work .reject (.program name reordered position)
        .empty).table.Clean := by
      intro otherQuiet
      rw [otherHolds.quiet_iff.mp otherQuiet] at redeclared
      exact quiet (holds.quiet_iff.mpr redeclared.eq_nil)
    rw [Phase.all, outcome_runPhases_blocked SymbolTable.clean_empty worked quiet] at returned
    rw [Phase.all, outcome_runPhases_blocked SymbolTable.clean_empty otherWorked otherFound]
      at otherReturned
    cases returned
    cases otherReturned
    refine ⟨?_, fun distinct => absurd (distinctIff.mpr distinct) quiet⟩
    exact SymbolTable.sameEntries_of_build size redeclared
      (work_onlyFrom SymbolTable.clean_empty .build)
      (work_onlyFrom SymbolTable.clean_empty .build)

end Analyzer

open Analyzer in
/-- The items of a well-sorted program can be written in any order. An analysis that does not
replace records ends in a fault on both programs or on neither. Otherwise both tables are valid or
neither is, both have the same number of variables, and each list of findings of one is that of the
other in some order. If no name is declared twice, both tables also have the same look-ups and
listing, and the same diagnostics in some order. -/
theorem analysis_ignores_item_order {settings : Settings} {name : String}
    {items reordered : List Node} {position : Option Position}
    (rejects : settings.recordRedefinition = .reject)
    (sorted : WellSorted (.program name items position)) (same : items.Perm reordered) :
    ((∃ fault, (analyze settings (.program name items position)).outcome = .error fault) ↔
      ∃ fault, (analyze settings (.program name reordered position)).outcome = .error fault) ∧
    ∀ table other,
      (analyze settings (.program name items position)).outcome = .ok table →
      (analyze settings (.program name reordered position)).outcome = .ok other →
      table.isValid = other.isValid ∧ table.SameEntries other ∧
        (Rules.NamesDistinct .reject (.program name items position) →
          (∀ symbol, table.env.lookup? symbol = other.env.lookup? symbol) ∧
          (∀ record, table.env.registry.fieldsOf? record = other.env.registry.fieldsOf? record) ∧
          table.dump = other.dump ∧ table.diagnostics.Perm other.diagnostics) := by
  have analyzed (items : List Node) :
      (analyze settings (.program name items position)).outcome =
        (runPhases .reject (.program name items position) Phase.all .empty).outcome := by
    rw [outcome_analyze, rejects]
    rfl
  rw [analyzed, analyzed]
  constructor
  · rw [phases_fail_iff .reject sorted, phases_fail_iff .reject (sorted.reorder same)]
    exact not_congr ⟨typesKnown_reorder same, typesKnown_reorder same.symm⟩
  · intro table other returned otherReturned
    obtain ⟨entries, distinctly⟩ := runPhases_reordered sorted same returned otherReturned
    refine ⟨entries.isValid_eq, entries, fun distinct => ?_⟩
    obtain ⟨lookups, records, diagnostics⟩ := distinctly distinct
    have agrees : table.env.Agrees other.env := ⟨lookups, fun record => by rw [records record]⟩
    exact ⟨lookups, records, agrees.dump, diagnostics⟩

/-- Two events that assign texts to a number, which is a field of a variable that is declared after
them and whose type is defined last. -/
def lateDefinition : List Node :=
  [.event "Start" .hole [.assign "goal.x" .hole (.stringLiteral "near" none) none] none,
    .event "Stop" .hole [.assign "goal.x" .hole (.stringLiteral "far" none) none] none,
    .group .locals [.decl "goal" "Pose" true 0 .hole none] none,
    .record "Pose" [.decl "x" "int" false 0 .hole none] none]

theorem lateDefinition_sorted : WellSorted (.program "Swarm" lateDefinition none) := by
  have plain (name typeName : String) (isRecord : Bool) :
      ∀ entry ∈ [Node.decl name typeName isRecord 0 .hole none], VariableDecl entry := by
    intro entry member
    rw [List.mem_singleton.mp member]
    exact .decl _ _ _ _ _ (.inl rfl)
  have assigns (text : String) :
      ∀ effect ∈ [Node.assign "goal.x" .hole (.stringLiteral text none) none],
        Statement effect := by
    intro effect member
    rw [List.mem_singleton.mp member]
    exact .assign _ _ (.inl rfl) (.stringLiteral _ _)
  apply WellSorted.program
  intro item member
  simp only [lateDefinition, List.mem_cons, List.not_mem_nil, or_false] at member
  rcases member with rfl | rfl | rfl | rfl
  · exact .event _ _ (.inl rfl) (assigns "near")
  · exact .event _ _ (.inl rfl) (assigns "far")
  · exact .group (.group _ _ (plain _ _ _))
  · exact .record _ _ (plain _ _ _)

theorem lateDefinition_distinct :
    Rules.NamesDistinct .reject (.program "Swarm" lateDefinition none) := by
  constructor
  · decide
  · simp [lateDefinition, Rules.programRecords, Rules.itemRecords, Rules.declFields]
  · intro _
    decide

/-- With the definition first, the second event is reported before the first. -/
theorem analysis_of_reversed_items :
    WellSorted (.program "Swarm" lateDefinition none) ∧
      lateDefinition.Perm lateDefinition.reverse ∧
      ∃ table other,
        (analyze {} (.program "Swarm" lateDefinition none)).outcome = .ok table ∧
        (analyze {} (.program "Swarm" lateDefinition.reverse none)).outcome = .ok other ∧
        table.mismatches.length = 2 ∧ table.mismatches.Perm other.mismatches ∧
        table.dump = other.dump ∧ table.diagnostics.Perm other.diagnostics := by
  have reversed : lateDefinition.Perm lateDefinition.reverse := (List.reverse_perm _).symm
  have returned : ∃ table, (analyze {} (.program "Swarm" lateDefinition none)).outcome =
      .ok table ∧ table.mismatches.length = 2 := ⟨_, rfl, rfl⟩
  have otherReturned : ∃ other,
      (analyze {} (.program "Swarm" lateDefinition.reverse none)).outcome = .ok other := ⟨_, rfl⟩
  obtain ⟨table, ran, counted⟩ := returned
  obtain ⟨other, otherRan⟩ := otherReturned
  obtain ⟨_, entries, distinctly⟩ := (@analysis_ignores_item_order {} _ _ _ _ rfl
    lateDefinition_sorted reversed).2 table other ran otherRan
  obtain ⟨_, _, dumped, diagnosed⟩ := distinctly lateDefinition_distinct
  exact ⟨lateDefinition_sorted, reversed, table, other, ran, otherRan, counted,
    entries.mismatches, dumped, diagnosed⟩

end SwarmCheck
