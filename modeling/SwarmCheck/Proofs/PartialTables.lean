import SwarmCheck.Failure
import SwarmCheck.Proofs.FirstDeclarations

/-!
# Tables that are built in part

The build phase works on a table while it walks over a program, so a fault leaves behind a table
that is built in part. That table is made of what the walk had passed, and of nothing else: a record
type whose definition was still open is not in it. In a program without gaps a fault is always one
of a declaration, which names no type or, as a variable, belongs to no group, and it is known from
the program alone which declaration that is.
-/

namespace SwarmCheck

set_option autoImplicit false

open Spot

/-- A table that is made of what a walk has met, in the order of the walk. -/
structure SymbolTable.MadeOf (policy : RedefinitionPolicy) (met : List Spot) (table : SymbolTable) :
    Prop where
  symbols : table.env.symbols = .ofFirsts (symbolsAmong met)
  records : table.env.registry.records = .ofKept policy (recordsAmong met)
  journal : table.toJournal =
    .ofFindings (((repeats key met).filter (isReported policy)).map finding)

section Passed

variable {program : Node}

theorem orderly_passed (present : program.isBlank = false) : Orderly (root program).passed where
  sound spot member := sound_of_no_fault (no_fault_of_passed spot member)
  kind spot member :=
    kind_of_reached (root program) spot ((passed_begins_reached present).mem member)
  order := (reached_pairwise (root program)).sublist (passed_begins_reached present).sublist

theorem Phase.table_build (policy : RedefinitionPolicy) (present : program.isBlank = false)
    (table : SymbolTable) :
    (build.run policy program table).table =
      table.enterAll policy (flatMapAfter declarations [] (root program).passed) := by
  rw [table_run, ← Declarations.ofProgram_emitted present]
  rfl

theorem Phase.build_madeOf (policy : RedefinitionPolicy) (present : program.isBlank = false) :
    (build.run policy program .empty).table.MadeOf policy (root program).passed := by
  have orderly := orderly_passed present
  have holds := SymbolTable.enterAll_holds policy
    (flatMapAfter declarations [] (root program).passed)
  rw [← table_build policy present] at holds
  constructor
  · rw [holds.symbols, symbolEntries_declarations]
  · rw [holds.records, recordEntries_declarations orderly]
  · rw [holds.journal, reported_declarations policy orderly]

theorem Phase.build_failed_iff {policy : RedefinitionPolicy} {table : SymbolTable} {fault : Fault} :
    (build.run policy program table).outcome = .error fault ↔
      (Declarations.ofProgram program).outcome = .error fault := by
  rw [outcome_run_eq_error_iff, work, declare]
  cases (Declarations.ofProgram program).outcome <;> simp [Except.map]

end Passed

/-- Modules list groups, groups and records list declarations, and no entry is missing in the list
of this node. -/
def Node.Gapless : Node → Prop
  | moduleBlock _ groups _ => ∀ entry ∈ groups, entry.isBlank = false
  | group _ decls _ => ∀ entry ∈ decls, entry.isBlank = false
  | record _ fields _ => ∀ entry ∈ fields, entry.isBlank = false
  | _ => True

instance Node.decidableGapless (node : Node) : Decidable node.Gapless := by
  cases node <;> unfold Gapless <;> infer_instance

theorem Node.Gapless.visited_present {node : Node} (gapless : node.Gapless) :
    ∀ entry ∈ node.visited, entry.isBlank = false := by
  cases node with
  | moduleBlock name groups position => exact gapless
  | group kind decls position => exact gapless
  | record name fields position => exact gapless
  | _ => exact Declarations.children_present

namespace Spot

theorem node_mem_of_entriesFrom {spot entry : Spot} {place : Nat} {nodes : List Node}
    (below : entry ∈ spot.entriesFrom place nodes) : entry.node ∈ nodes := by
  induction nodes generalizing place with
  | nil => cases below
  | cons node rest ih =>
      rcases List.mem_cons.mp below with same | later
      · rw [same]
        exact List.mem_cons_self
      · exact List.mem_cons_of_mem node (ih later)

/-- Without gaps, all stations are nodes. -/
theorem stations_present (spot : Spot) (present : spot.node.isBlank = false)
    (gapless : ∀ node ∈ spot.node.preorder, node.Gapless) :
    ∀ station ∈ spot.stations, station.node.isBlank = false := by
  induction spot using spot_induction with
  | step spot ih =>
      cases declares : spot.node.isDecl with
      | true =>
          rw [stations_of_decl declares, List.forall_mem_singleton]
          exact present
      | false =>
          rw [Node.preorder_eq_cons spot.node present, List.forall_mem_cons] at gapless
          rw [stations_of_not_decl declares, List.forall_mem_append]
          constructor
          · intro station member
            obtain ⟨entry, below, reached⟩ := List.mem_flatMap.mp member
            have there := gapless.1.visited_present entry.node (node_mem_of_entriesFrom below)
            have child := mem_children_of_entry below there
            rw [entryStations, there, if_neg Bool.false_ne_true] at reached
            apply ih entry child there _ station reached
            intro inner deeper
            exact gapless.2 inner
              (List.mem_flatMap.mpr ⟨entry.node, node_mem_children child, deeper⟩)
          · split
            · rw [List.forall_mem_singleton]
              exact present
            · exact List.forall_mem_nil _

/-- A spot of a program: its root, or a child of another one. -/
inductive Within (program : Node) : Spot → Prop
  | root : Within program (root program)
  | child {spot child : Spot} (within : Within program spot) (below : child ∈ spot.children) :
      Within program child

def OutsideDecls (spot : Spot) : Prop := ∀ entry ∈ spot.above, entry.2.isDecl = false

/-- How the declaration at a spot makes an analysis fail. It names a type that is none of the six
and no record, or it declares a variable and stands in no group. -/
inductive Fails (spot : Spot) : Failure → Prop
  | unknownType {name typeName : String} {dims : Int} {initial : Node}
      {position : Option Position}
      (here : spot.node = .decl name typeName false dims initial position)
      (unknown : typeName ∉ ["int", "float", "bool", "pos", "string", "stream"]) :
      Fails spot (.unknownType typeName none)
  | outsideGroup {name typeName : String} {isRecord : Bool} {dims : Int} {initial : Node}
      {position : Option Position}
      (here : spot.node = .decl name typeName isRecord dims initial position)
      (known : isRecord = true ∨ typeName ∈ ["int", "float", "bool", "pos", "string", "stream"])
      (noRecord : ∀ entry ∈ spot.above, entry.2.isRecord = false)
      (noGroup : ∀ entry ∈ spot.above, entry.2.groupScope? = none) :
      Fails spot (.internal ("declaration of '" ++ name ++ "' outside a declaration group") none)

section Reached

variable {program : Node} {spot : Spot}

theorem above_of_child {child : Spot} (below : child ∈ spot.children) :
    ∃ place, child.above = (place, spot.node) :: spot.above := by
  obtain ⟨place, _, above⟩ := above_of_mem_childrenFrom below
  exact ⟨place, above⟩

theorem within_of_reached (within : spot.Within program) (outside : spot.OutsideDecls) :
    ∀ inner ∈ spot.reached, inner.Within program ∧ inner.OutsideDecls := by
  induction spot using spot_induction with
  | step spot ih =>
      cases declares : spot.node.isDecl with
      | true =>
          rw [reached_of_decl declares, List.forall_mem_singleton]
          exact ⟨within, outside⟩
      | false =>
          rw [reached_of_not_decl declares, List.forall_mem_append]
          constructor
          · intro inner met
            obtain ⟨child, below, deeper⟩ := List.mem_flatMap.mp met
            obtain ⟨place, above⟩ := above_of_child below
            apply ih child below (.child within below) _ inner deeper
            rw [OutsideDecls, above, List.forall_mem_cons]
            exact ⟨declares, outside⟩
          · split
            · rw [List.forall_mem_singleton]
              exact ⟨within, outside⟩
            · exact List.forall_mem_nil _

theorem reached_subset (within : spot.Within program) (outside : spot.OutsideDecls) :
    spot.reached ⊆ (Spot.root program).reached := by
  induction within with
  | root => exact List.Subset.refl _
  | @child spot child within below ih =>
      obtain ⟨place, above⟩ := above_of_child below
      rw [OutsideDecls, above, List.forall_mem_cons] at outside
      apply List.Subset.trans _ (ih outside.2)
      rw [reached_of_not_decl outside.1]
      intro inner met
      exact List.mem_append_left _ (List.mem_flatMap.mpr ⟨child, below, met⟩)

theorem decl_mem_reached_iff (declares : spot.node.isDecl = true) :
    spot ∈ (Spot.root program).reached ↔ spot.Within program ∧ spot.OutsideDecls := by
  constructor
  · intro met
    apply within_of_reached .root _ spot met
    exact List.forall_mem_nil _
  · intro stands
    apply reached_subset stands.1 stands.2
    rw [reached_of_decl declares]
    exact List.mem_singleton_self spot

end Reached

section Fails

variable {spot : Spot} {failure : Failure}

theorem recordAbove_eq_none_iff {above : List (Nat × Node)} :
    recordAbove above = none ↔ ∀ entry ∈ above, entry.2.isRecord = false := by
  induction above with
  | nil => simp [recordAbove]
  | cons entry rest ih =>
      obtain ⟨place, node⟩ := entry
      rw [recordAbove, List.forall_mem_cons, ← ih]
      cases node.isRecord <;> simp

theorem Fails.isDecl (fails : spot.Fails failure) : spot.node.isDecl = true := by
  cases fails with
  | unknownType here => rw [here]; rfl
  | outsideGroup here => rw [here]; rfl

theorem Fails.faulty (fails : spot.Fails failure) :
    ∃ fault, spot.fault? = some fault ∧ fault.failure? = some failure := by
  cases fails with
  | @unknownType name typeName dims initial position here unknown =>
      have undeclared : declaredType typeName false dims = .error (.unknownType typeName) :=
        Rules.declaredType_eq_error_iff.mpr ⟨rfl, unknown, rfl⟩
      exact ⟨.unknownType typeName, by simp only [fault?, here, undeclared], rfl⟩
  | @outsideGroup name typeName isRecord dims initial position here known noRecord noGroup =>
      have outside : spot.record? = none := recordAbove_eq_none_iff.mpr noRecord
      have ungrouped : spot.scope? = none := List.findSome?_eq_none_iff.mpr noGroup
      refine ⟨.outsideGroup name, ?_, rfl⟩
      cases declared : declaredType typeName isRecord dims with
      | error fault =>
          obtain ⟨noRecord, unknown, _⟩ := Rules.declaredType_eq_error_iff.mp declared
          rw [noRecord] at known
          exact absurd (known.resolve_left Bool.false_ne_true) unknown
      | ok type =>
          rw [Declarations.fault?_of_declared here declared, outside, ungrouped]
          rfl

theorem fails_of_fault {fault : Fault} (present : spot.node.isBlank = false)
    (faulty : spot.fault? = some fault) :
    ∃ failure, spot.Fails failure ∧ fault.failure? = some failure := by
  cases declares : spot.node.isDecl with
  | false =>
      rw [fault?_of_not_decl declares present] at faulty
      cases faulty
  | true =>
      obtain ⟨name, typeName, isRecord, dims, initial, position, here⟩ :=
        Node.exists_of_isDecl declares
      cases declared : declaredType typeName isRecord dims with
      | error undeclared =>
          obtain ⟨rfl, unknown, rfl⟩ := Rules.declaredType_eq_error_iff.mp declared
          simp only [fault?, here, declared, Option.some.injEq] at faulty
          rw [← faulty]
          exact ⟨_, .unknownType here unknown, rfl⟩
      | ok type =>
          rw [Declarations.fault?_of_declared here declared, Option.ite_none_right_eq_some,
            Bool.and_eq_true, Option.isNone_iff_eq_none, Option.isNone_iff_eq_none] at faulty
          obtain ⟨⟨outside, ungrouped⟩, same⟩ := faulty
          cases same
          have noRecord := recordAbove_eq_none_iff.mp outside
          have noGroup := List.findSome?_eq_none_iff.mp ungrouped
          exact ⟨_, .outsideGroup here (Rules.known_of_declaredType declared) noRecord noGroup, rfl⟩

end Fails

end Spot

namespace Phase

variable {policy : RedefinitionPolicy} {table : SymbolTable} {program : Node}
  (present : program.isBlank = false) (gapless : ∀ node ∈ program.preorder, node.Gapless)

include present gapless

/-- Without gaps, the build phase is stopped by the first declaration that it does not pass. -/
theorem stop_of_build {fault : Fault}
    (failed : (build.run policy program table).outcome = .error fault) :
    ∃ spot rest failure, (root program).reached = (root program).passed ++ spot :: rest ∧
      Fails spot failure ∧ fault.failure? = some failure := by
  have nodes := stations_present (root program) present gapless
  rw [build_failed_iff, Declarations.ofProgram_failed_iff present] at failed
  obtain ⟨spot, rest, split, faulty⟩ := failed
  have met : spot ∈ (root program).stations := by
    rw [split]
    exact List.mem_append_right _ List.mem_cons_self
  obtain ⟨failure, fails, shown⟩ := fails_of_fault (nodes spot met) faulty
  rw [stations_eq_reached present nodes] at split
  exact ⟨spot, rest, failure, split, fails, shown⟩

theorem build_fails {spot : Spot} {failure : Failure} (within : Within program spot)
    (outside : OutsideDecls spot) (fails : Fails spot failure) :
    ∃ fault, (build.run policy program table).outcome = .error fault := by
  have met := (decl_mem_reached_iff fails.isDecl).mpr ⟨within, outside⟩
  rw [← stations_eq_reached present (stations_present (root program) present gapless)] at met
  obtain ⟨fault, faulty, _⟩ := fails.faulty
  obtain ⟨first, failed⟩ := Declarations.ofProgram_fails_of_fault present met faulty
  exact ⟨first, build_failed_iff.mpr failed⟩

end Phase

/-- In a program without gaps, under whatever policy and on whatever table, the build phase fails
exactly when some declaration that does not stand below another one makes it fail. It ends with the
failure of the first of these that the walk comes to. The table is then as if everything before it
had been entered, and nothing else: on an empty table, exactly the variables, the complete record
definitions and the repetitions before it, and no definition around it. -/
theorem build_stops_at_first_fault (policy : RedefinitionPolicy) (table : SymbolTable)
    (name : String) (items : List Node) (position : Option Position)
    (gapless : ∀ node ∈ (Node.program name items position).preorder, node.Gapless) :
    let program := Node.program name items position
    let ended := Phase.build.run policy program table
    ((∃ fault, ended.outcome = .error fault) ↔
      ∃ spot failure, Within program spot ∧ OutsideDecls spot ∧ Fails spot failure) ∧
    ∀ fault, ended.outcome = .error fault → ∃ met spot rest failure,
      (root program).reached = met ++ spot :: rest ∧
        (∀ other ∈ met, ∀ failure, ¬ Fails other failure) ∧
        Fails spot failure ∧ fault.failure? = some failure ∧
        ended.table = table.enterAll policy (flatMapAfter declarations [] met) ∧
        (table = .empty → ended.table.MadeOf policy met) ∧
        ∀ definition ∈ met, ¬ definition.address <:+ spot.address := by
  intro program ended
  have present : program.isBlank = false := rfl
  constructor
  · constructor
    · rintro ⟨fault, failed⟩
      obtain ⟨spot, rest, failure, split, fails, _⟩ := Phase.stop_of_build present gapless failed
      have met : spot ∈ (root program).reached := by
        rw [split]
        exact List.mem_append_right _ List.mem_cons_self
      obtain ⟨within, outside⟩ := (decl_mem_reached_iff fails.isDecl).mp met
      exact ⟨spot, failure, within, outside, fails⟩
    · rintro ⟨spot, failure, within, outside, fails⟩
      exact Phase.build_fails present gapless within outside fails
  · intro fault failed
    obtain ⟨spot, rest, failure, split, fails, shown⟩ :=
      Phase.stop_of_build present gapless failed
    refine ⟨(root program).passed, spot, rest, failure, split, ?_, fails, shown,
      Phase.table_build policy present table, ?_, ?_⟩
    · intro other member failure fails
      obtain ⟨fault, faulty, _⟩ := fails.faulty
      rw [no_fault_of_passed other member] at faulty
      cases faulty
    · rintro rfl
      exact Phase.build_madeOf policy present
    · -- A definition is met after everything in it, so none around the fault has been met.
      have apart := reached_pairwise (root program)
      rw [split, List.pairwise_append] at apart
      intro definition member
      exact apart.2.2 definition member spot List.mem_cons_self

/-- A variable that is declared twice, a complete record definition, and one in which a field names
no type. -/
def openDefinition : Node :=
  .program "Swarm"
    [.group .locals
      [.decl "count" "int" false 0 .hole none, .decl "count" "bool" false 0 .hole none] none,
      .record "Pose" [.decl "x" "float" false 0 .hole none] none,
      .record "Route"
        [.decl "start" "Pose" true 0 .hole none, .decl "length" "metres" false 0 .hole none] none,
      .group .locals [.decl "late" "int" false 0 .hole none] none]
    none

theorem build_of_openDefinition :
    let ended := Phase.build.run .reject openDefinition .empty
    (∃ spot failure, Within openDefinition spot ∧ OutsideDecls spot ∧ Fails spot failure) ∧
      ended.outcome = .error (.unknownType "metres") ∧
      ended.table.env.registry.names = ["Pose"] ∧ ended.table.redeclared = ["count"] ∧
      ∃ met spot rest, (root openDefinition).reached = met ++ spot :: rest ∧
        Fails spot (.unknownType "metres" none) ∧ ended.table.MadeOf .reject met := by
  intro ended
  have gapless : ∀ node ∈ openDefinition.preorder, node.Gapless := by decide
  obtain ⟨failed, stopped⟩ := build_stops_at_first_fault .reject .empty _ _ _ gapless
  have outcome : ended.outcome = .error (.unknownType "metres") := rfl
  obtain ⟨met, spot, rest, failure, split, _, fails, shown, _, made, _⟩ := stopped _ outcome
  cases shown
  exact ⟨failed.mp ⟨_, outcome⟩, outcome, rfl, rfl, met, spot, rest, split, fails, made rfl⟩

end SwarmCheck
