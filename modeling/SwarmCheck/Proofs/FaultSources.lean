import SwarmCheck.Proofs.Gating

/-!
# Where faults come from

The faults of the first pass, which declares instead of reporting, are traced to nodes here as those
of the other passes are, so that every fault of any phase has a node of the program to blame.
-/

namespace SwarmCheck

set_option autoImplicit false

namespace Node

/-- The lists that are visited without looking for blank entries have none: the groups of a
module, the declarations of a group and the fields of a record. -/
def Packed : Node → Prop
  | group _ entries _ | moduleBlock _ entries _ | record _ entries _ =>
      ∀ entry ∈ entries, entry.isBlank = false
  | _ => True

end Node

namespace Declarations

open Trail

/-- The faults that a node by itself can cause in the pass that lists declarations. -/
inductive MayFault : Node → Fault → Prop
  | unknownType {name typeName : String} {isRecord : Bool} {dims : Int} {initial : Node}
      {position : Option Position} {fault : Fault}
      (unknown : declaredType typeName isRecord dims = .error fault) :
      MayFault (.decl name typeName isRecord dims initial position) fault
  | outsideGroup (name typeName : String) (isRecord : Bool) (dims : Int) (initial : Node)
      (position : Option Position) :
      MayFault (.decl name typeName isRecord dims initial position) (.outsideGroup name)
  | emptyPlace {node : Node} (unpacked : ¬ node.Packed) : MayFault node .emptyPlace

variable {faults : Fault → Prop}

theorem collectDecl_within {name typeName : String} {isRecord : Bool} {dims : Int}
    {initial : Node} {position : Option Position}
    (own : ∀ fault, MayFault (.decl name typeName isRecord dims initial position) fault →
      faults fault)
    (context : Context) (fields : Fields) :
    (collectDecl context fields (.decl name typeName isRecord dims initial position) name typeName
      isRecord dims).Within (fun _ => True) faults := by
  rw [collectDecl]
  cases declared : declaredType typeName isRecord dims with
  | error fault => exact within_fail (own fault (.unknownType declared))
  | ok type =>
      cases context.record with
      | some record =>
          dsimp only
          split
          · exact Within.bind (within_emit fun _ _ => trivial) fun _ => within_pure _
          · exact within_pure _
      | none =>
          cases context.scope with
          | none => exact within_fail (own _ (.outsideGroup ..))
          | some scope =>
              exact Within.bind (within_emit fun _ _ => trivial) fun _ => within_pure _

section Lists

variable {nodes : List Node}
  (each : ∀ node ∈ nodes, node.isBlank = false → ∀ context fields,
    (collect context fields node).Within (fun _ => True) faults)

include each

theorem collectIn_within (context : Context) (fields : Fields) :
    (collectIn context fields nodes).Within (fun _ => True) faults := by
  induction nodes generalizing fields with
  | nil => exact within_pure _
  | cons node rest ih =>
      have later := ih fun other member => each other (by simp [member])
      rw [collectIn]
      split
      · exact Within.bind (within_pure _) later
      · rename_i present
        exact Within.bind (each node (by simp) (Bool.eq_false_iff.mpr present) context fields) later

theorem collectAll_within (packed : (∀ node ∈ nodes, node.isBlank = false) ∨ faults .emptyPlace)
    (context : Context) (fields : Fields) :
    (collectAll context fields nodes).Within (fun _ => True) faults := by
  induction nodes generalizing fields with
  | nil => exact within_pure _
  | cons node rest ih =>
      have later := ih (fun other member => each other (by simp [member]))
        (packed.imp_left fun all other member => all other (by simp [member]))
      rw [collectAll]
      split
      · rename_i blank
        rcases packed with all | expected
        · rw [all node (by simp)] at blank
          cases blank
        · exact Within.bind (within_fail expected) later
      · rename_i present
        exact Within.bind (each node (by simp) (Bool.eq_false_iff.mpr present) context fields) later

end Lists

theorem collect_within (node : Node)
    (covered : ∀ inner ∈ node.preorder, ∀ fault, MayFault inner fault → faults fault)
    (context : Context) (fields : Fields) :
    (collect context fields node).Within (fun _ => True) faults := by
  induction node generalizing context fields with
  | hole | stray | otherwise | constant | stringLiteral | flag | stream => exact within_pure _
  | bundle serial parts ih =>
      simp only [Node.preorder, Node.forall_mem_preorderIn] at covered
      exact collectIn_within (fun part member present =>
        ih part member (covered part member present)) context fields
  | reference name index position ih =>
      simp only [Node.preorder, List.forall_mem_cons] at covered
      exact ih covered.2 context fields
  | call name args position ih =>
      simp only [Node.preorder, List.forall_mem_cons, Node.forall_mem_preorderIn] at covered
      exact collectIn_within (fun arg member present =>
        ih arg member (covered.2 arg member present)) context fields
  | binary op left right position leftIh rightIh =>
      simp only [Node.preorder, List.forall_mem_cons, List.forall_mem_append] at covered
      exact Within.bind (leftIh covered.2.1 context fields) (rightIh covered.2.2 context)
  | logical op operands position ih =>
      simp only [Node.preorder, List.forall_mem_cons, Node.forall_mem_preorderIn] at covered
      exact collectIn_within (fun operand member present =>
        ih operand member (covered.2 operand member present)) context fields
  | assign target index value position indexIh valueIh =>
      simp only [Node.preorder, List.forall_mem_cons, List.forall_mem_append] at covered
      exact Within.bind (indexIh covered.2.1 context fields) (valueIh covered.2.2 context)
  | conditional condition thenBody elseBody position conditionIh thenIh elseIh =>
      simp only [Node.preorder, List.forall_mem_cons, List.forall_mem_append,
        Node.forall_mem_preorderIn] at covered
      obtain ⟨-, belowCondition, belowThen, belowElse⟩ := covered
      apply Within.bind (conditionIh belowCondition context fields)
      intro fields
      apply Within.bind
      · exact collectIn_within (fun statement member present =>
          thenIh statement member (belowThen statement member present)) context fields
      · exact collectIn_within (fun statement member present =>
          elseIh statement member (belowElse statement member present)) context
  | decl name typeName isRecord dims initial position ih =>
      exact collectDecl_within (covered _ (by simp [Node.preorder])) context fields
  | group kind decls position ih =>
      simp only [Node.preorder, List.forall_mem_cons, Node.forall_mem_preorderIn] at covered
      obtain ⟨own, below⟩ := covered
      exact collectAll_within (fun entry member present =>
          ih entry member (below entry member present))
        (Classical.or_iff_not_imp_left.mpr fun unpacked => own _ (.emptyPlace unpacked))
        _ fields
  | moduleBlock name groups position ih =>
      simp only [Node.preorder, List.forall_mem_cons, Node.forall_mem_preorderIn] at covered
      obtain ⟨own, below⟩ := covered
      exact collectAll_within (fun entry member present =>
          ih entry member (below entry member present))
        (Classical.or_iff_not_imp_left.mpr fun unpacked => own _ (.emptyPlace unpacked))
        _ fields
  | record name decls position ih =>
      simp only [Node.preorder, List.forall_mem_cons, Node.forall_mem_preorderIn] at covered
      obtain ⟨own, below⟩ := covered
      apply Within.bind
      · exact collectAll_within (fun entry member present =>
            ih entry member (below entry member present))
          (Classical.or_iff_not_imp_left.mpr fun unpacked => own _ (.emptyPlace unpacked))
          _ .empty
      · intro fields
        exact Within.bind (within_emit fun _ _ => trivial) fun _ => within_pure _
  | event name precondition effects position preconditionIh effectsIh =>
      simp only [Node.preorder, List.forall_mem_cons, List.forall_mem_append,
        Node.forall_mem_preorderIn] at covered
      apply Within.bind (preconditionIh covered.2.1 context fields)
      exact collectIn_within (fun effect member present =>
        effectsIh effect member (covered.2.2 effect member present)) context
  | program name items position ih =>
      simp only [Node.preorder, List.forall_mem_cons, Node.forall_mem_preorderIn] at covered
      exact collectIn_within (fun item member present =>
        ih item member (covered.2 item member present)) context fields

theorem ofProgram_within {program : Node} (root : program.isBlank = true → faults .emptyPlace)
    (covered : ∀ inner ∈ program.preorder, ∀ fault, MayFault inner fault → faults fault) :
    (ofProgram program).Within (fun _ => True) faults := by
  unfold ofProgram
  split
  · rename_i blank
    exact within_fail (root blank)
  · exact collect_within program covered {} .empty

end Declarations

/-- The faults that a node by itself can cause in some phase. -/
inductive Node.MayFault : Node → Fault → Prop
  | unknownType {name typeName : String} {isRecord : Bool} {dims : Int} {initial : Node}
      {position : Option Position} {fault : Fault}
      (unknown : declaredType typeName isRecord dims = .error fault) :
      MayFault (.decl name typeName isRecord dims initial position) fault
  | outsideGroup (name typeName : String) (isRecord : Bool) (dims : Int) (initial : Node)
      (position : Option Position) :
      MayFault (.decl name typeName isRecord dims initial position) (.outsideGroup name)
  | unresolvedReference {node : Node} {text : String}
      (mentioned : node.referenceText? = some text) : MayFault node (.unresolvedReference text)
  | unresolvedTarget {node : Node} {text : String}
      (mentioned : node.referenceText? = some text) : MayFault node (.unresolvedTarget text)
  | emptyPlace {node : Node} (unfilled : ¬ (node.Filled ∧ node.Packed)) : MayFault node .emptyPlace

/-- A fault that the nodes of a program account for, or its root if that is no node. -/
def Fault.Within (program : Node) (fault : Fault) : Prop :=
  program.isBlank = true ∧ fault = .emptyPlace ∨
    ∃ inner ∈ program.preorder, inner.MayFault fault

theorem Phase.fault_of_work {policy : RedefinitionPolicy} {program : Node} {table : SymbolTable}
    {phase : Phase} {fault : Fault}
    (failed : (phase.work policy program table).outcome = .error fault) : fault.Within program := by
  have root (blank : program.isBlank = true) : Fault.Within program .emptyPlace := .inl ⟨blank, rfl⟩
  cases phase with
  | build =>
      have within : (Declarations.ofProgram program).Within (fun _ => True)
          (Fault.Within program) := by
        apply Declarations.ofProgram_within root
        intro inner member fault may
        refine .inr ⟨inner, member, ?_⟩
        cases may with
        | unknownType unknown => exact .unknownType unknown
        | outsideGroup => exact .outsideGroup ..
        | emptyPlace unpacked => exact .emptyPlace fun both => unpacked both.2
      cases ended : (Declarations.ofProgram program).outcome with
      | error other =>
          simp only [work, declare, ended] at failed
          cases failed
          exact within.failure _ ended
      | ok done =>
          simp only [work, declare, ended] at failed
          cases failed
  | resolve =>
      have within : (References.check table.env program).Within (Entry.OfPhase .resolve)
          (Fault.Within program) := References.check_within root
      exact within.failure fault failed
  | types =>
      have within : (Typing.check table.env program).Within (Entry.OfPhase .types)
          (Fault.Within program) := by
        apply Typing.check_within root
        intro inner member fault may
        refine .inr ⟨inner, member, ?_⟩
        cases may with
        | reference mentioned _ => exact .unresolvedReference mentioned
        | unknownType unknown => exact .unknownType unknown
        | emptyPlace unfilled => exact .emptyPlace fun both => unfilled both.1
      exact within.failure fault failed
  | access =>
      have within : (WriteAccess.check table.env program).Within (Entry.OfPhase .access)
          (Fault.Within program) := by
        apply WriteAccess.check_within root
        rintro inner member fault ⟨text, _, mentioned, _, rfl⟩
        exact .inr ⟨inner, member, .unresolvedTarget mentioned⟩
      exact within.failure fault failed

theorem Analyzer.fault_of_runPhases {policy : RedefinitionPolicy} {program : Node}
    {phases : List Phase} {table : SymbolTable} {fault : Fault}
    (failed : (runPhases policy program phases table).outcome = .error fault) :
    fault.Within program := by
  induction phases generalizing table with
  | nil => cases failed
  | cons phase rest ih =>
      rw [outcome_runPhases_cons] at failed
      cases worked : (phase.work policy program table).outcome with
      | error other =>
          rw [worked] at failed
          cases failed
          exact Phase.fault_of_work worked
      | ok done =>
          rw [worked] at failed
          dsimp only at failed
          split at failed
          · exact ih failed
          · cases failed

end SwarmCheck
