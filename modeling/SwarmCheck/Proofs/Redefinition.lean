import SwarmCheck.Proofs.PartialTables

/-!
# Redefined record types

The two policies part only where a record name is defined for the second time. Under both of them
the build phase ends alike, with the same variables and the same record names. A name that is
defined more than once has the fields of its first complete definition or those of its last one, and
a later definition is reported or not. If no name is defined twice, the build phase does the same
under both policies. Later phases do not ask for the policy, so then the whole analysis is the same.
-/

namespace SwarmCheck

set_option autoImplicit false

open Spot

namespace SymbolTable

open Declaration

variable (policy other : RedefinitionPolicy)

theorem enter_of_new {table : SymbolTable} {declaration : Declaration}
    (new : ∀ entry, declaration.record? = some entry →
      table.env.registry.isDefined entry.1 = false) :
    table.enter policy declaration = table.enter other declaration ∧
      table.enterNotes policy declaration = table.enterNotes other declaration := by
  cases declaration with
  | symbol symbol => exact ⟨rfl, rfl⟩
  | repeatedField within field site => exact ⟨rfl, rfl⟩
  | record name fields site =>
      have free : table.env.registry.isDefined name = false := new (name, fields) rfl
      constructor
      · rw [enter_record_of_free fun _ => free, enter_record_of_free fun _ => free]
      · simp only [enterNotes, Registry.defineNotes, Registry.verdict, free, Bool.false_eq_true,
          if_false]

theorem enterAllNotes_concat (table : SymbolTable) (declared : List Declaration)
    (last : Declaration) :
    table.enterAllNotes policy (declared ++ [last]) =
      table.enterAllNotes policy declared ++
        (table.enterAll policy declared).enterNotes policy last := by
  induction declared generalizing table with
  | nil => exact List.append_nil _
  | cons declaration rest ih =>
      rw [List.cons_append, enterAllNotes, ih, enterAllNotes, List.append_assoc, enterAll_cons]

/-- If all record names are distinct, the policy makes no difference to the table or to the log. -/
theorem enterAll_of_distinct {declared : List Declaration}
    (distinct : ((recordEntries declared).map Prod.fst).Nodup) :
    empty.enterAll policy declared = empty.enterAll other declared ∧
      empty.enterAllNotes policy declared = empty.enterAllNotes other declared := by
  induction declared using List.reverseRecOn with
  | nil => exact ⟨rfl, rfl⟩
  | append_singleton declared last ih =>
      rw [recordEntries_concat, List.map_append, List.nodup_append] at distinct
      obtain ⟨before, _, apart⟩ := distinct
      obtain ⟨tables, logs⟩ := ih before
      have new : ∀ entry, last.record? = some entry →
          (empty.enterAll other declared).env.registry.isDefined entry.1 = false := by
        intro entry defines
        rw [Registry.isDefined, (enterAll_holds other declared).records, ← Bool.not_eq_true,
          OrderedMap.contains_ofKept]
        intro known
        have here : entry.1 ∈ (recordEntries [last]).map Prod.fst := by
          simp [recordEntries, defines]
        exact apart _ known _ here rfl
      obtain ⟨entered, noted⟩ := enter_of_new policy other new
      rw [enterAll_concat, enterAll_concat, enterAllNotes_concat, enterAllNotes_concat, tables,
        logs]
      exact ⟨entered, congrArg _ noted⟩

end SymbolTable

section Analysis

variable {program : Node} (policy other : RedefinitionPolicy)

theorem Phase.build_of_distinct
    (distinct : ((Declaration.recordEntries (Declarations.ofProgram program).emitted).map
      Prod.fst).Nodup) :
    build.run policy program .empty = build.run other program .empty := by
  obtain ⟨tables, logs⟩ := SymbolTable.enterAll_of_distinct policy other distinct
  have worked : build.work policy program .empty = build.work other program .empty := by
    rw [work, work, declare, declare, tables, logs]
  rw [run, run, worked]

theorem Phase.run_of_ne_build {phase : Phase} (later : phase ≠ build) (table : SymbolTable) :
    phase.run policy program table = phase.run other program table := by
  cases phase with
  | build => exact absurd rfl later
  | resolve => rfl
  | types => rfl
  | access => rfl

theorem Analyzer.runPhases_of_later {phases : List Phase} (later : ∀ phase ∈ phases, phase ≠ .build)
    (table : SymbolTable) :
    runPhases policy program phases table = runPhases other program phases table := by
  induction phases generalizing table with
  | nil => rfl
  | cons phase rest ih =>
      rw [List.forall_mem_cons] at later
      simp only [runPhases, Phase.run_of_ne_build policy other later.1, ih later.2]

theorem analyze_of_same_build (settings : Settings)
    (same : Phase.build.run policy program .empty = Phase.build.run other program .empty) :
    analyze { settings with recordRedefinition := policy } program =
      analyze { settings with recordRedefinition := other } program := by
  have later : ∀ phase ∈ [Phase.resolve, .types, .access], phase ≠ .build := by decide
  have phases : Analyzer.runPhases policy program Phase.all .empty =
      Analyzer.runPhases other program Phase.all .empty := by
    simp only [Phase.all, Analyzer.runPhases.eq_2, same,
      Analyzer.runPhases_of_later policy other later]
  simp only [analyze, phases]

end Analysis

namespace Spot

def definitionsOf (name : String) (met : List Spot) : List Spot :=
  met.filter fun spot => spot.node.isRecord && spot.name = name

theorem filter_recordsAmong (name : String) (met : List Spot) :
    (recordsAmong met).filter (·.1 = name) =
      (definitionsOf name met).map fun record => (record.name, fieldsAmong met record) := by
  rw [recordsAmong, definitionsOf, List.filter_map, List.filter_filter]
  congr 2
  funext spot
  exact Bool.and_comm _ _

end Spot

namespace SymbolTable.MadeOf

variable {policy : RedefinitionPolicy} {met : List Spot} {table : SymbolTable}

theorem redeclared (made : table.MadeOf policy met) :
    table.redeclared = ((repeats key met).filter (isReported policy)).map label := by
  rw [made.journal, redeclared_ofFindings]

theorem fieldsOf?_rejecting (made : table.MadeOf .reject met) (name : String) :
    table.env.registry.fieldsOf? name =
      (definitionsOf name met).head?.map (fieldsAmong met) := by
  rw [Registry.fieldsOf?, made.records, OrderedMap.ofKept, OrderedMap.get?_ofFirsts,
    filter_recordsAmong, List.head?_map, Option.map_map]
  rfl

theorem fieldsOf?_replacing (made : table.MadeOf .replace met) (name : String) :
    table.env.registry.fieldsOf? name =
      (definitionsOf name met).getLast?.map (fieldsAmong met) := by
  rw [Registry.fieldsOf?, made.records, OrderedMap.ofKept, OrderedMap.get?_ofList,
    filter_recordsAmong, List.getLast?_map, Option.map_map]
  rfl

end SymbolTable.MadeOf

/-- For every program, built on an empty table under both policies. Both builds end with the same
fault, or none. However they end, the tables have the same variables and, in the same order, the
same record names. A name stands for its first complete definition if later ones are rejected, and
for its last one if they replace it. Where they replace it, exactly the record definitions are
missing among the reports. If no record name is defined twice, the analysis is the same under both
policies. -/
theorem policies_differ_in_redefined_records (name : String) (items : List Node)
    (position : Option Position) :
    let program := Node.program name items position
    let met := (root program).passed
    let rejecting := Phase.build.run .reject program .empty
    let replacing := Phase.build.run .replace program .empty
    (∀ fault, rejecting.outcome = .error fault ↔ replacing.outcome = .error fault) ∧
    rejecting.table.env.symbols = replacing.table.env.symbols ∧
    rejecting.table.env.registry.names = replacing.table.env.registry.names ∧
    (∀ record,
      rejecting.table.env.registry.fieldsOf? record =
          (definitionsOf record met).head?.map (fieldsAmong met) ∧
        replacing.table.env.registry.fieldsOf? record =
          (definitionsOf record met).getLast?.map (fieldsAmong met)) ∧
    rejecting.table.redeclared = (repeats key met).map label ∧
    replacing.table.redeclared = ((repeats key met).filter (·.node.isDecl)).map label ∧
    (((met.filter (·.node.isRecord)).map Spot.name).Nodup → ∀ settings : Settings,
      analyze { settings with recordRedefinition := .reject } program =
        analyze { settings with recordRedefinition := .replace } program) := by
  intro program met rejecting replacing
  have present : program.isBlank = false := rfl
  have rejected : rejecting.table.MadeOf .reject met := Phase.build_madeOf .reject present
  have replaced : replacing.table.MadeOf .replace met := Phase.build_madeOf .replace present
  refine ⟨?_, ?_, ?_, ?_, ?_, ?_, ?_⟩
  · intro fault
    rw [Phase.build_failed_iff, Phase.build_failed_iff]
  · rw [rejected.symbols, replaced.symbols]
  · rw [Registry.names, Registry.names, rejected.records, replaced.records]
    exact (OrderedMap.keys_ofList (recordsAmong met)).symm
  · intro record
    exact ⟨rejected.fieldsOf?_rejecting record, replaced.fieldsOf?_replacing record⟩
  · rw [rejected.redeclared, filter_isReported_reject]
  · rw [replaced.redeclared]
    rfl
  · intro distinct settings
    apply analyze_of_same_build
    apply Phase.build_of_distinct
    rw [Declarations.ofProgram_emitted present, recordEntries_declarations (orderly_passed present),
      recordsAmong, List.map_map]
    exact distinct

/-- Of two definitions of a record one is kept, and only one policy reports the other. Where each
name is defined once, both policies come to the same end. -/
theorem policies_on_nestedRecords_and_openDefinition :
    let met := (root nestedRecords).passed
    let rejecting := Phase.build.run .reject nestedRecords .empty
    let replacing := Phase.build.run .replace nestedRecords .empty
    (definitionsOf "Pose" met).length = 2 ∧
      replacing.table.env.registry.fieldsOf? "Pose" =
        (definitionsOf "Pose" met).getLast?.map (fieldsAmong met) ∧
      rejecting.table.redeclared = ["Pose.x", "Pose", "motion.count"] ∧
      ((repeats key met).filter (·.node.isDecl)).map label = ["Pose.x", "motion.count"] ∧
      ∀ settings : Settings,
        analyze { settings with recordRedefinition := .reject } openDefinition =
          analyze { settings with recordRedefinition := .replace } openDefinition := by
  intro met rejecting replacing
  obtain ⟨_, _, _, fields, _, replaced, _⟩ := policies_differ_in_redefined_records "Swarm" _ none
  obtain ⟨_, _, _, _, _, _, same⟩ := policies_differ_in_redefined_records "Swarm" _ none
  have distinct :
      (((root openDefinition).passed.filter (·.node.isRecord)).map Spot.name).Nodup := by
    decide +kernel
  exact ⟨by decide +kernel, (fields "Pose").2, rfl, replaced.symm.trans rfl, same distinct⟩

end SwarmCheck
