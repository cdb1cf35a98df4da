import SwarmCheck.Analysis.Phase
import SwarmCheck.Proofs.Journal
import SwarmCheck.Proofs.Trail
import SwarmCheck.Proofs.Trees

/-!
# What a phase may record and where it may stop

Every finding belongs to the phase that looks for its kind. A phase adds findings of its own kind
at the end of a table and touches no finding that is there already. This holds over any tree and
also when the phase ends in a fault. The faults of the later phases are traced to the nodes that
can cause them.
-/

namespace SwarmCheck

set_option autoImplicit false

def Finding.phase : Finding → Phase
  | redeclared .. => .build
  | unresolved .. => .resolve
  | mismatch .. => .types
  | sensorWrite .. | streamWrite .. | readOnlyWrite .. => .access

def Finding.site : Finding → Node
  | redeclared _ site | unresolved _ site _ | mismatch site _ _ _ => site
  | sensorWrite _ site | streamWrite _ site | readOnlyWrite _ site => site

/-- An entry of a phase's pass: a note, or a finding of the phase's own kind. -/
def Entry.OfPhase (phase : Phase) : Entry → Prop
  | .note _ => True
  | .report finding => finding.phase = phase

namespace Entry

variable {phase : Phase}

theorem phase_of_mem_findings {entries : List Entry}
    (each : ∀ entry ∈ entries, OfPhase phase entry) :
    ∀ finding ∈ findings entries, finding.phase = phase := by
  intro finding member
  exact each (.report finding) (mem_findings.mp member)

end Entry

namespace Node

/-- The places that are visited without looking whether they are empty hold nodes: the effects of
an event, and the condition and the bodies of a conditional. A precondition may be left out, but
nothing else than a node may take its place. -/
def Filled : Node → Prop
  | event _ precondition effects _ =>
      (precondition.isBlank = true → precondition = hole) ∧
        ∀ effect ∈ effects, effect.isBlank = false
  | conditional condition thenBody elseBody _ =>
      condition.isBlank = false ∧ (∀ statement ∈ thenBody, statement.isBlank = false) ∧
        ∀ statement ∈ elseBody, statement.isBlank = false
  | _ => True

end Node

namespace Typing

open Trail

/-- The faults that a node by itself can cause in the type pass. -/
inductive MayFault (env : Environment) : Node → Fault → Prop
  | reference {node : Node} {text : String} {cause : Unresolved}
      (mentioned : node.referenceText? = some text) (missing : env.resolve text = .error cause) :
      MayFault env node (.unresolvedReference text)
  | unknownType {name typeName : String} {isRecord : Bool} {dims : Int} {initial : Node}
      {position : Option Position} {fault : Fault}
      (unknown : declaredType typeName isRecord dims = .error fault) :
      MayFault env (.decl name typeName isRecord dims initial position) fault
  | emptyPlace {node : Node} (unfilled : ¬ node.Filled) : MayFault env node .emptyPlace

variable {env : Environment} {faults : Fault → Prop}

theorem note_within (text : String) : (note text).Within (Entry.OfPhase .types) faults := by
  apply within_emit
  intro entry member
  rw [List.mem_singleton.mp member]
  exact trivial

theorem mismatch_within (site : Node) (construct expected actual : String) :
    (mismatch site construct expected actual).Within (Entry.OfPhase .types) faults := by
  apply Within.bind (note_within _)
  intro _
  apply within_emit
  intro entry member
  rw [List.mem_singleton.mp member]
  exact rfl

theorem pop_within (stack : Operands) : (pop stack).Within (Entry.OfPhase .types) faults := by
  cases stack with
  | nil => exact Within.bind (note_within _) fun _ => within_pure _
  | cons type rest => exact within_pure _

theorem popMany_within (count : Nat) (stack : Operands) :
    (popMany count stack).Within (Entry.OfPhase .types) faults := by
  induction count generalizing stack with
  | zero => exact within_pure _
  | succ count ih => exact Within.bind (pop_within stack) fun popped => ih popped.2

theorem typeOf_within {text : String}
    (known : ∀ cause, env.resolve text = .error cause → faults (.unresolvedReference text)) :
    (typeOf env text).Within (Entry.OfPhase .types) faults := by
  unfold typeOf
  split
  · exact within_pure _
  · rename_i cause missing
    exact Within.bind (within_emit (List.forall_mem_map.mpr fun _ _ => trivial))
      fun _ => within_fail (known cause missing)

theorem checkIndex_within (site : Node) (index : Ty) :
    (checkIndex site index).Within (Entry.OfPhase .types) faults := by
  unfold checkIndex
  split
  · exact within_pure _
  · exact mismatch_within _ _ _ _

theorem binaryType_within (site : Node) (op : String) (left right : Ty) :
    (binaryType site op left right).Within (Entry.OfPhase .types) faults := by
  unfold binaryType
  split
  · exact within_pure _
  split
  · exact within_pure _
  split
  · exact Within.bind (mismatch_within _ _ _ _) fun _ => within_pure _
  · exact within_pure _

theorem elementType_within (site : Node) (name : String) (type : Ty) :
    (elementType site name type).Within (Entry.OfPhase .types) faults := by
  unfold elementType
  split
  · exact within_pure _
  · exact Within.bind (mismatch_within _ _ _ _) fun _ => within_pure _

theorem leaveBinary_within (site : Node) (op : String) (stack : Operands) :
    (leaveBinary site op stack).Within (Entry.OfPhase .types) faults := by
  apply Within.bind (pop_within stack)
  intro right
  apply Within.bind (pop_within right.2)
  intro left
  exact Within.bind (binaryType_within site op left.1 right.1) fun _ => within_pure _

theorem leaveReference_within {name : String}
    (known : ∀ cause, env.resolve name = .error cause → faults (.unresolvedReference name))
    (site index : Node) (stack : Operands) :
    (leaveReference env site name index stack).Within (Entry.OfPhase .types) faults := by
  apply Within.bind (typeOf_within known)
  intro type
  split
  · exact within_pure _
  · apply Within.bind (pop_within stack)
    intro popped
    apply Within.bind (checkIndex_within site popped.1)
    intro _
    exact Within.bind (elementType_within site name type) fun _ => within_pure _

theorem checkTarget_within (site : Node) (target : String) (indexed : Bool) (type actual : Ty) :
    (checkTarget site target indexed type actual).Within (Entry.OfPhase .types) faults := by
  unfold checkTarget
  split
  · split
    · exact within_pure _
    · exact mismatch_within _ _ _ _
  · split
    · split
      · exact within_pure _
      · exact mismatch_within _ _ _ _
    · exact mismatch_within _ _ _ _

theorem popIndex_within (site index : Node) (stack : Operands) :
    (popIndex site index stack).Within (Entry.OfPhase .types) faults := by
  unfold popIndex
  split
  · exact within_pure _
  · apply Within.bind (pop_within stack)
    intro popped
    exact Within.bind (checkIndex_within site popped.1) fun _ => within_pure _

theorem leaveAssign_within {target : String}
    (known : ∀ cause, env.resolve target = .error cause → faults (.unresolvedReference target))
    (site index : Node) (stack : Operands) :
    (leaveAssign env site target index stack).Within (Entry.OfPhase .types) faults := by
  apply Within.bind (pop_within stack)
  intro popped
  apply Within.bind (popIndex_within site index popped.2)
  intro rest
  split
  · exact within_pure _
  · apply Within.bind (typeOf_within known)
    intro type
    exact Within.bind (checkTarget_within site _ _ _ _) fun _ => within_pure _

theorem checkStream_within {channel : Option String}
    (known : ∀ text, channel = some text → ∀ cause, env.resolve text = .error cause →
      faults (.unresolvedReference text))
    (site : Node) :
    (checkStream env site channel).Within (Entry.OfPhase .types) faults := by
  cases channel with
  | none => exact within_pure _
  | some channel =>
      apply Within.bind (typeOf_within (known channel rfl))
      intro type
      split
      · exact within_pure _
      · exact mismatch_within _ _ _ _

theorem leaveDecl_within {typeName : String} {isRecord : Bool} {dims : Int}
    (known : ∀ fault, declaredType typeName isRecord dims = .error fault → faults fault)
    (site : Node) (name : String) (initial : Node) (stack : Operands) :
    (leaveDecl site name typeName isRecord dims initial stack).Within (Entry.OfPhase .types)
      faults := by
  unfold leaveDecl
  split
  · exact within_pure _
  · apply Within.bind (pop_within stack)
    rintro ⟨actual, _⟩
    dsimp only
    split
    · exact within_pure _
    · split
      · rename_i fault unknown
        exact within_fail (known fault unknown)
      · split
        · exact within_pure _
        · exact mismatch_within _ _ _ _

section Lists

variable {nodes : List Node}

theorem visitIn_within
    (each : ∀ node ∈ nodes, node.isBlank = false → ∀ stack,
      (visit env stack node).Within (Entry.OfPhase .types) faults)
    (stack : Operands) : (visitIn env stack nodes).Within (Entry.OfPhase .types) faults := by
  induction nodes generalizing stack with
  | nil => exact within_pure _
  | cons node rest ih =>
      have later := ih fun other member => each other (by simp [member])
      rw [visitIn]
      split
      · exact Within.bind (within_pure _) later
      · rename_i present
        exact Within.bind (each node (by simp) (Bool.eq_false_iff.mpr present) stack) later

theorem visitStatements_within
    (filled : (∀ node ∈ nodes, node.isBlank = false) ∨ faults .emptyPlace)
    (each : ∀ node ∈ nodes, node.isBlank = false → ∀ stack,
      (visit env stack node).Within (Entry.OfPhase .types) faults)
    (stack : Operands) :
    (visitStatements env stack nodes).Within (Entry.OfPhase .types) faults := by
  induction nodes generalizing stack with
  | nil => exact within_pure _
  | cons node rest ih =>
      have later := ih
        (filled.imp_left fun all other member => all other (by simp [member]))
        (fun other member => each other (by simp [member])) []
      rw [visitStatements]
      split
      · rename_i blank
        rcases filled with all | expected
        · have present := all node (by simp)
          rw [present] at blank
          cases blank
        · exact Within.bind (within_fail expected) fun _ => later
      · rename_i present
        exact Within.bind (each node (by simp) (Bool.eq_false_iff.mpr present) stack)
          fun _ => later

end Lists

/-- Over any tree the type pass reports mismatches and nothing else, and it stops only at a fault
that some node of the tree can cause. -/
theorem visit_within (node : Node)
    (covered : ∀ inner ∈ node.preorder, ∀ fault, MayFault env inner fault → faults fault)
    (stack : Operands) : (visit env stack node).Within (Entry.OfPhase .types) faults := by
  induction node generalizing stack with
  | hole => exact within_pure _
  | stray found => exact within_pure _
  | bundle serial parts ih =>
      simp only [Node.preorder, Node.forall_mem_preorderIn] at covered
      rw [visit]
      exact visitIn_within (fun part member present =>
        ih part member (covered part member present)) stack
  | otherwise statements ih => exact within_pure _
  | constant kind text position parenthesised => exact within_pure _
  | stringLiteral value position => exact within_pure _
  | reference name index position ih =>
      simp only [Node.preorder, List.forall_mem_cons] at covered
      obtain ⟨own, below⟩ := covered
      rw [visit]
      exact Within.bind (ih below stack)
        (leaveReference_within (fun cause missing => own _ (.reference rfl missing))
          _ index)
  | call name args position ih =>
      simp only [Node.preorder, List.forall_mem_cons, Node.forall_mem_preorderIn] at covered
      rw [visit]
      apply Within.bind (visitIn_within (fun arg member present =>
        ih arg member (covered.2 arg member present)) stack)
      intro after
      exact Within.bind (popMany_within args.length after) fun _ => within_pure _
  | binary op left right position leftIh rightIh =>
      simp only [Node.preorder, List.forall_mem_cons, List.forall_mem_append] at covered
      obtain ⟨own, belowLeft, belowRight⟩ := covered
      rw [visit]
      apply Within.bind (leftIh belowLeft stack)
      intro afterLeft
      exact Within.bind (rightIh belowRight afterLeft) (leaveBinary_within _ op)
  | logical op operands position ih =>
      simp only [Node.preorder, List.forall_mem_cons, Node.forall_mem_preorderIn] at covered
      rw [visit]
      apply Within.bind (visitIn_within (fun operand member present =>
        ih operand member (covered.2 operand member present)) stack)
      intro after
      exact Within.bind (popMany_within operands.length after) fun _ => within_pure _
  | flag name position =>
      have own := covered (.flag name position) (by simp [Node.preorder])
      rw [visit]
      exact Within.bind
        (typeOf_within fun cause missing => own _ (.reference rfl missing))
        fun _ => within_pure _
  | assign target index value position indexIh valueIh =>
      simp only [Node.preorder, List.forall_mem_cons, List.forall_mem_append] at covered
      obtain ⟨own, belowIndex, belowValue⟩ := covered
      rw [visit]
      apply Within.bind (indexIh belowIndex stack)
      intro afterIndex
      exact Within.bind (valueIh belowValue afterIndex)
        (leaveAssign_within (fun cause missing => own _ (.reference rfl missing))
          _ index)
  | stream channel position =>
      have own := covered (.stream channel position) (by simp [Node.preorder])
      rw [visit]
      apply Within.bind
      · refine checkStream_within ?_ _
        intro text mentioned cause missing
        exact own _ (.reference mentioned missing)
      · exact fun _ => within_pure _
  | conditional condition thenBody elseBody position conditionIh thenIh elseIh =>
      simp only [Node.preorder, List.forall_mem_cons, List.forall_mem_append,
        Node.forall_mem_preorderIn] at covered
      obtain ⟨own, belowCondition, belowThen, belowElse⟩ := covered
      have expected (blank : ¬ (Node.conditional condition thenBody elseBody position).Filled) :
          faults .emptyPlace := own _ (.emptyPlace blank)
      have thenWithin := visitStatements_within
        (Classical.or_iff_not_imp_left.mpr fun blank => expected fun filled => blank filled.2.1)
        (fun statement member present =>
          thenIh statement member (belowThen statement member present)) []
      have elseWithin := visitStatements_within
        (Classical.or_iff_not_imp_left.mpr fun blank => expected fun filled => blank filled.2.2)
        (fun statement member present =>
          elseIh statement member (belowElse statement member present))
      rw [visit]
      split
      · rename_i blank
        apply Within.bind
        · apply within_fail
          apply expected
          intro filled
          rw [filled.1] at blank
          cases blank
        · exact fun _ => Within.bind thenWithin elseWithin
      · exact Within.bind (conditionIh belowCondition stack)
          fun _ => Within.bind thenWithin elseWithin
  | decl name typeName isRecord dims initial position ih =>
      simp only [Node.preorder, List.forall_mem_cons] at covered
      obtain ⟨own, below⟩ := covered
      rw [visit]
      apply Within.bind (ih below stack)
      intro after
      exact Within.bind
        (leaveDecl_within (fun fault unknown => own fault (.unknownType unknown))
          _ name initial after)
        fun _ => within_pure _
  | group kind decls position ih =>
      simp only [Node.preorder, List.forall_mem_cons, Node.forall_mem_preorderIn] at covered
      rw [visit]
      exact visitIn_within (fun entry member present =>
        ih entry member (covered.2 entry member present)) stack
  | moduleBlock name groups position ih =>
      simp only [Node.preorder, List.forall_mem_cons, Node.forall_mem_preorderIn] at covered
      rw [visit]
      exact visitIn_within (fun entry member present =>
        ih entry member (covered.2 entry member present)) stack
  | record name fields position ih =>
      simp only [Node.preorder, List.forall_mem_cons, Node.forall_mem_preorderIn] at covered
      rw [visit]
      exact visitIn_within (fun field member present =>
        ih field member (covered.2 field member present)) stack
  | event name precondition effects position preconditionIh effectsIh =>
      simp only [Node.preorder, List.forall_mem_cons, List.forall_mem_append,
        Node.forall_mem_preorderIn] at covered
      obtain ⟨own, belowPrecondition, belowEffects⟩ := covered
      have expected (blank : ¬ (Node.event name precondition effects position).Filled) :
          faults .emptyPlace := own _ (.emptyPlace blank)
      have body := visitStatements_within
        (Classical.or_iff_not_imp_left.mpr fun blank => expected fun filled => blank filled.2)
        (fun effect member present =>
          effectsIh effect member (belowEffects effect member present))
      rw [visit]
      split
      · exact Within.bind (within_pure _) body
      rename_i taken
      split
      · rename_i blank
        apply Within.bind
        · apply within_fail
          apply expected
          intro filled
          exact taken (Node.isHole_iff.mpr (filled.1 blank))
        · exact body
      · apply Within.bind (preconditionIh belowPrecondition stack)
        intro _
        exact Within.bind (within_pure _) body
  | program name items position ih =>
      simp only [Node.preorder, List.forall_mem_cons, Node.forall_mem_preorderIn] at covered
      rw [visit]
      exact visitIn_within (fun item member present =>
        ih item member (covered.2 item member present)) stack

theorem check_within {program : Node} (root : program.isBlank = true → faults .emptyPlace)
    (covered : ∀ inner ∈ program.preorder, ∀ fault, MayFault env inner fault → faults fault) :
    (check env program).Within (Entry.OfPhase .types) faults := by
  unfold check
  split
  · rename_i blank
    exact Within.bind (within_fail (root blank)) fun _ => within_pure _
  · exact Within.bind (visit_within program covered []) fun _ => within_pure _

end Typing

namespace References

open Trail

variable {env : Environment} {faults : Fault → Prop}

theorem check_within {program : Node} (root : program.isBlank = true → faults .emptyPlace) :
    (check env program).Within (Entry.OfPhase .resolve) faults := by
  unfold check
  split
  · rename_i blank
    exact within_fail (root blank)
  · apply within_emit
    intro entry member
    obtain ⟨node, visited, emitted⟩ := List.mem_flatMap.mp member
    unfold entriesAt at emitted
    split at emitted
    · cases emitted
    split at emitted
    · cases emitted
    · rcases List.mem_append.mp emitted with inNotes | reported
      · exact List.forall_mem_map.mpr (fun _ _ => trivial) entry inNotes
      · simp only [List.mem_cons, List.not_mem_nil, or_false] at reported
        rcases reported with rfl | rfl
        · exact trivial
        · exact rfl

end References

namespace WriteAccess

open Trail

def MayFault (env : Environment) (node : Node) (fault : Fault) : Prop :=
  ∃ text cause, node.referenceText? = some text ∧ env.resolve text = .error cause ∧
    fault = .unresolvedTarget text

variable {env : Environment} {faults : Fault → Prop}

theorem violation_ofPhase {note target : String} {finding : Finding}
    (own : finding.phase = .access) :
    ∀ entry ∈ violation note target finding, entry.OfPhase .access := by
  intro entry member
  simp only [violation, List.mem_cons, List.not_mem_nil, or_false] at member
  rcases member with rfl | rfl
  · exact trivial
  · exact own

theorem violations_ofPhase (site : Node) (target : String) (indexed : Bool) (value : Node)
    (resolution : Resolution) :
    ∀ entry ∈ violations site target indexed value resolution, entry.OfPhase .access := by
  intro entry member
  simp only [violations, List.mem_append] at member
  rcases member with (sensor | stream) | readOnly
  · split at sensor
    · exact violation_ofPhase rfl entry sensor
    · cases sensor
  · split at stream
    · exact violation_ofPhase rfl entry stream
    · cases stream
  · split at readOnly
    · exact violation_ofPhase rfl entry readOnly
    · cases readOnly

theorem checkNode_within {node : Node}
    (covered : ∀ fault, MayFault env node fault → faults fault) :
    (checkNode env node).Within (Entry.OfPhase .access) faults := by
  unfold checkNode
  split
  · split
    · rename_i cause missing
      exact Within.bind (within_emit (List.forall_mem_map.mpr fun _ _ => trivial))
        fun _ => within_fail (covered _ ⟨_, cause, rfl, missing, rfl⟩)
    · exact within_emit (violations_ofPhase _ _ _ _ _)
  · exact within_pure _

theorem checkNodes_within {nodes : List Node}
    (covered : ∀ node ∈ nodes, ∀ fault, MayFault env node fault → faults fault) :
    (checkNodes env nodes).Within (Entry.OfPhase .access) faults := by
  induction nodes with
  | nil => exact within_pure _
  | cons node rest ih =>
      have later := ih fun other member => covered other (by simp [member])
      exact Within.bind (checkNode_within (covered node (by simp))) fun _ => later

theorem check_within {program : Node} (root : program.isBlank = true → faults .emptyPlace)
    (covered : ∀ inner ∈ program.preorder, ∀ fault, MayFault env inner fault → faults fault) :
    (check env program).Within (Entry.OfPhase .access) faults := by
  unfold check
  split
  · rename_i blank
    exact within_fail (root blank)
  · exact checkNodes_within covered

end WriteAccess

namespace SymbolTable

/-- The second table has everything the first has found, and beyond it only findings of one
phase. -/
def Extends (phase : Phase) (before after : SymbolTable) : Prop :=
  ∃ recorded, after.toJournal = before.toJournal ++ .ofFindings recorded ∧
    ∀ finding ∈ recorded, finding.phase = phase

theorem clean_mk (env : Environment) : (mk .empty env).Clean := rfl

theorem clean_empty : empty.Clean := clean_mk .empty

theorem not_clean_report (table : SymbolTable) (finding : Finding) :
    ¬ (table.report finding).Clean :=
  table.toJournal.not_clean_report finding

variable {phase : Phase}

theorem extends_of_same {before after : SymbolTable}
    (same : after.toJournal = before.toJournal) : Extends phase before after :=
  ⟨[], same.trans before.append_empty.symm, List.forall_mem_nil _⟩

theorem extends_report {finding : Finding} (own : finding.phase = phase) (table : SymbolTable) :
    Extends phase table (table.report finding) :=
  ⟨[finding], table.report_eq_append finding, List.forall_mem_singleton.mpr own⟩

theorem Extends.trans {first second third : SymbolTable} (earlier : Extends phase first second)
    (later : Extends phase second third) : Extends phase first third := by
  obtain ⟨early, earlyEq, earlyOwn⟩ := earlier
  obtain ⟨late, lateEq, lateOwn⟩ := later
  refine ⟨early ++ late,
    by rw [lateEq, earlyEq, Journal.append_assoc, Journal.ofFindings_append], ?_⟩
  intro finding member
  rcases List.mem_append.mp member with inEarly | inLate
  · exact earlyOwn finding inEarly
  · exact lateOwn finding inLate

theorem enter_extends (policy : RedefinitionPolicy) (table : SymbolTable)
    (declaration : Declaration) : Extends .build table (table.enter policy declaration) := by
  cases declaration with
  | symbol symbol =>
      simp only [enter]
      split
      · exact extends_report rfl table
      · exact extends_of_same rfl
  | repeatedField record field site => exact extends_report rfl table
  | record name fields site =>
      simp only [enter]
      split
      · exact extends_report rfl table
      · exact extends_of_same rfl
      · exact extends_of_same rfl

theorem enterAll_extends (policy : RedefinitionPolicy) (table : SymbolTable)
    (declarations : List Declaration) :
    Extends .build table (table.enterAll policy declarations) := by
  induction declarations generalizing table with
  | nil => exact extends_of_same rfl
  | cons declaration rest ih =>
      exact (enter_extends policy table declaration).trans (ih (table.enter policy declaration))

end SymbolTable

namespace Phase

section Inspect

variable {pass : Environment → Node → Pass Unit} {program : Node} {table : SymbolTable}

theorem inspect_journal :
    (inspect pass program table).table.toJournal =
      table.toJournal ++ .ofFindings (Entry.findings (pass table.env program).emitted) :=
  table.reportAll_eq_append _

theorem inspect_journal_of_clean (clean : table.Clean) :
    (inspect pass program table).table.toJournal =
      .ofFindings (Entry.findings (pass table.env program).emitted) := by
  rw [inspect_journal, clean, Journal.empty_append]

theorem inspect_extends {phase : Phase} {faults : Fault → Prop}
    (within : (pass table.env program).Within (Entry.OfPhase phase) faults) :
    table.Extends phase (inspect pass program table).table :=
  ⟨_, inspect_journal, Entry.phase_of_mem_findings within.entries⟩

end Inspect

theorem work_extends (policy : RedefinitionPolicy) (program : Node) (table : SymbolTable)
    (phase : Phase) : table.Extends phase (phase.work policy program table).table := by
  cases phase with
  | build => exact SymbolTable.enterAll_extends policy table _
  | resolve =>
      have within : (References.check table.env program).Within (Entry.OfPhase .resolve)
          fun _ => True := References.check_within fun _ => trivial
      exact inspect_extends within
  | types =>
      have within : (Typing.check table.env program).Within (Entry.OfPhase .types)
          fun _ => True := Typing.check_within (fun _ => trivial) fun _ _ _ _ => trivial
      exact inspect_extends within
  | access =>
      have within : (WriteAccess.check table.env program).Within (Entry.OfPhase .access)
          fun _ => True := WriteAccess.check_within (fun _ => trivial) fun _ _ _ _ => trivial
      exact inspect_extends within

end Phase

end SwarmCheck
