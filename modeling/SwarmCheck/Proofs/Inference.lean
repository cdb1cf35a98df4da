import SwarmCheck.Analysis.Phase
import SwarmCheck.Proofs.Sorts
import SwarmCheck.Proofs.Trail

/-!
# Type inference without a stack

The type pass keeps the types of operands on a stack that every node pops from and pushes to.
Here is the same pass written as plain recursion: an expression has a type, which is handed to
whatever contains it, and every declaration and statement is checked on its own. On well-sorted
programs the two agree step by step, in what they report, in the log, and in where a fault ends
them. The invariant behind it is that visiting an expression pushes exactly its inferred type
onto whatever stack was there, and that no statement or declaration looks at the stack it finds.
-/

namespace SwarmCheck

set_option autoImplicit false

namespace Inference

open Typing (typeOf constantType checkIndex binaryType elementType checkTarget checkStream
  mismatch)

mutual

/-- The type of an expression. Whatever is wrong inside it is reported on the way. -/
def infer (env : Environment) : Node → Pass Ty
  | .constant kind _ _ _ => return constantType kind
  | .stringLiteral .. => return .string
  | site@(.reference name index _) =>
      if index.isHole then typeOf env name
      else do
        let indexType ← infer env index
        let type ← typeOf env name
        checkIndex site indexType
        elementType site name type
  | .call _ args _ => do
      inferEach env args
      return .unknown
  | site@(.binary op left right _) => do
      let leftType ← infer env left
      let rightType ← infer env right
      binaryType site op leftType rightType
  | .logical _ operands _ => do
      inferEach env operands
      return .bool
  | .flag name _ => typeOf env name
  | _ => return .unknown

def inferEach (env : Environment) : List Node → Pass Unit
  | [] => return ()
  | node :: rest => do
      let _ ← infer env node
      inferEach env rest

end

/-- The type of an expression that may be left out. -/
def inferOptional (env : Environment) (place : Node) : Pass (Option Ty) :=
  if place.isHole then return none
  else do
    let type ← infer env place
    return some type

def checkOptionalIndex (site : Node) : Option Ty → Pass Unit
  | none => return ()
  | some index => checkIndex site index

/-- A value of unknown type may be assigned to anything, even to what is not declared. -/
def checkAssign (env : Environment) (site : Node) (target : String) (index value : Node) :
    Pass Unit := do
  let indexType ← inferOptional env index
  let actual ← infer env value
  checkOptionalIndex site indexType
  if actual.isUnknown then return ()
  else
    let type ← typeOf env target
    checkTarget site target indexType.isSome type actual

mutual

def checkStatement (env : Environment) : Node → Pass Unit
  | site@(.assign target index value _) => checkAssign env site target index value
  | site@(.stream channel _) => checkStream env site channel
  | .conditional condition thenBody elseBody _ => do
      let _ ← infer env condition
      checkStatements env thenBody
      checkStatements env elseBody
  | call => do
      let _ ← infer env call
      return ()

def checkStatements (env : Environment) : List Node → Pass Unit
  | [] => return ()
  | node :: rest => do
      checkStatement env node
      checkStatements env rest

end

/-- An initial value of known type has to have the declared one. -/
def checkInitial (site : Node) (name typeName : String) (isRecord : Bool) (dims : Int) :
    Option Ty → Pass Unit
  | none | some .unknown => return ()
  | some actual =>
      match declaredType typeName isRecord dims with
      | .error fault => .fail fault
      | .ok expected =>
          if expected = actual then return ()
          else mismatch site ("initializer of '" ++ name ++ "'") expected.text actual.text

def checkDecl (env : Environment) : Node → Pass Unit
  | site@(.decl name typeName isRecord dims initial _) => do
      let actual ← inferOptional env initial
      checkInitial site name typeName isRecord dims actual
  | _ => return ()

def checkGroup (env : Environment) : Node → Pass Unit
  | .group _ decls _ => forM decls (checkDecl env)
  | _ => return ()

def checkItem (env : Environment) : Node → Pass Unit
  | .moduleBlock _ groups _ => forM groups (checkGroup env)
  | .record _ fields _ => forM fields (checkDecl env)
  | .event _ precondition effects _ => do
      let _ ← inferOptional env precondition
      checkStatements env effects
  | group => checkGroup env group

def check (env : Environment) : Node → Pass Unit
  | .program _ items _ => forM items (checkItem env)
  | _ => return ()

end Inference

namespace Typing

open Inference

@[simp] theorem pop_cons (type : Ty) (stack : Operands) :
    pop (type :: stack) = pure (type, stack) := rfl

theorem popMany_succ (count : Nat) (stack : Operands) :
    popMany (count + 1) stack = (do
      let stack ← popMany count stack
      popMany 1 stack) := by
  induction count generalizing stack with
  | zero => simp [popMany]
  | succ count ih =>
      rw [popMany]
      conv =>
        rhs
        rw [popMany]
      simp only [bind_assoc]
      congr 1
      funext popped
      exact ih popped.2

/-- Operands are taken up again by as many pops as there are of them. -/
theorem visitIn_popMany (env : Environment) (nodes : List Node)
    (present : ∀ node ∈ nodes, node.isBlank = false)
    (pushes : ∀ node ∈ nodes, ∀ stack, visit env stack node = (do
      let type ← infer env node
      return type :: stack))
    (stack : Operands) :
    (visitIn env stack nodes >>= popMany nodes.length) = (do
      inferEach env nodes
      return stack) := by
  induction nodes generalizing stack with
  | nil => simp [visitIn, popMany, inferEach]
  | cons node rest ih =>
      have shown := present node (by simp)
      have pushed := pushes node (by simp) stack
      have taken := ih (fun other member => present other (by simp [member]))
        (fun other member => pushes other (by simp [member]))
      simp only [visitIn, shown, Bool.false_eq_true, if_false, pushed, inferEach, bind_assoc,
        pure_bind, List.length_cons]
      congr 1
      funext type
      calc
        (visitIn env (type :: stack) rest >>= popMany (rest.length + 1)) =
            ((visitIn env (type :: stack) rest >>= popMany rest.length) >>= popMany 1) := by
          rw [bind_assoc]
          congr 1
          funext later
          exact popMany_succ rest.length later
        _ = (do
              inferEach env rest
              return stack) := by
          rw [taken (type :: stack)]
          simp [popMany]

/-- Visiting an expression pushes its inferred type and leaves the rest of the stack alone. -/
theorem visit_expression {env : Environment} {node : Node} (sorted : Expression node)
    (stack : Operands) :
    visit env stack node = (do
      let type ← infer env node
      return type :: stack) := by
  induction sorted generalizing stack with
  | constant kind text position parenthesised => simp [visit, infer]
  | stringLiteral value position => simp [visit, infer]
  | reference name position => simp [visit, leaveReference, infer, Node.isHole]
  | element name position sortedIndex ih =>
      have shown := sortedIndex.not_hole
      simp [visit, leaveReference, infer, shown, ih]
  | call name position sortedArgs ih =>
      have taken := visitIn_popMany env _ (fun arg member => (sortedArgs arg member).not_blank)
        (fun arg member => ih arg member) stack
      simp only [visit, infer]
      rw [← bind_assoc, taken]
      simp
  | binary op position sortedLeft sortedRight leftIh rightIh =>
      simp [visit, leaveBinary, infer, leftIh, rightIh]
  | logical op position sortedOperands ih =>
      have taken := visitIn_popMany env _
        (fun operand member => (sortedOperands operand member).not_blank)
        (fun operand member => ih operand member) stack
      simp only [visit, infer]
      rw [← bind_assoc, taken]
      simp
  | flag name position => simp [visit, infer]

theorem visit_decl {env : Environment} {node : Node} (sorted : VariableDecl node)
    (stack : Operands) :
    visit env stack node = (do
      checkDecl env node
      return []) := by
  cases sorted with
  | decl name typeName isRecord dims position sortedInitial =>
      rcases sortedInitial with empty | sorted
      · subst empty
        simp [visit, leaveDecl, checkDecl, inferOptional, checkInitial, Node.isHole]
      · simp only [visit, visit_expression sorted, checkDecl, inferOptional, leaveDecl,
          sorted.not_hole, Bool.false_eq_true, if_false, bind_assoc, pure_bind, pop_cons]
        congr 1
        funext actual
        cases actual <;> rfl

theorem visit_assign {env : Environment} {index value : Node}
    (sortedIndex : OptionalExpression index) (sortedValue : Expression value)
    (target : String) (position : Option Position) (stack : Operands) :
    visit env stack (.assign target index value position) = (do
      checkAssign env (.assign target index value position) target index value
      return stack) := by
  rcases sortedIndex with empty | sortedIndex
  · subst empty
    simp only [visit, visit_expression sortedValue, leaveAssign, checkAssign, inferOptional,
      checkOptionalIndex, popIndex, Node.isHole, if_true, bind_assoc, pure_bind, pop_cons]
    congr 1
    funext actual
    cases actual.isUnknown <;> simp
  · simp only [visit, visit_expression sortedValue, visit_expression sortedIndex, leaveAssign,
      checkAssign, inferOptional, checkOptionalIndex, popIndex, sortedIndex.not_hole,
      Bool.false_eq_true, if_false, bind_assoc, pure_bind, pop_cons]
    congr 1
    funext indexType
    congr 1
    funext actual
    congr 1
    funext checked
    cases actual.isUnknown <;> simp

section Lists

variable (env : Environment) (nodes : List Node)

theorem visitIn_forM (checkOne : Node → Pass Unit)
    (present : ∀ node ∈ nodes, node.isBlank = false)
    (agrees : ∀ node ∈ nodes, ∀ stack, (do
      let _ ← visit env stack node
      return ()) = checkOne node)
    (stack : Operands) :
    (do
      let _ ← visitIn env stack nodes
      return ()) = forM nodes checkOne := by
  induction nodes generalizing stack with
  | nil => simp [visitIn]
  | cons node rest ih =>
      have shown := present node (by simp)
      have later := ih (fun other member => present other (by simp [member]))
        (fun other member => agrees other (by simp [member]))
      simp only [visitIn, shown, Bool.false_eq_true, if_false, bind_assoc, later,
        List.forM_cons]
      rw [← agrees node (by simp) stack]
      simp only [bind_assoc, pure_bind]

theorem visitStatements_checkStatements
    (present : ∀ node ∈ nodes, node.isBlank = false)
    (agrees : ∀ node ∈ nodes, ∀ stack, (do
      let _ ← visit env stack node
      return ()) = checkStatement env node)
    (stack : Operands) :
    (do
      let _ ← visitStatements env stack nodes
      return ()) = checkStatements env nodes := by
  induction nodes generalizing stack with
  | nil => simp [visitStatements, checkStatements]
  | cons node rest ih =>
      have shown := present node (by simp)
      have later := ih (fun other member => present other (by simp [member]))
        (fun other member => agrees other (by simp [member]))
      simp only [visitStatements, shown, Bool.false_eq_true, if_false, bind_assoc, later,
        checkStatements]
      rw [← agrees node (by simp) stack]
      simp only [bind_assoc, pure_bind]

end Lists

/-- No statement looks at the stack it finds. -/
theorem visit_statement {env : Environment} {node : Node} (sorted : Statement node)
    (stack : Operands) :
    (do
      let _ ← visit env stack node
      return ()) = checkStatement env node := by
  induction sorted generalizing stack with
  | call name position sortedArgs =>
      rw [visit_expression (.call name position sortedArgs)]
      simp [checkStatement]
  | assign target position sortedIndex sortedValue =>
      rw [visit_assign sortedIndex sortedValue]
      simp [checkStatement]
  | stream channel position => simp [visit, checkStatement]
  | conditional position sortedCondition sortedThen sortedElse thenIh elseIh =>
      have thenAgrees := visitStatements_checkStatements env _
        (fun statement member => (sortedThen statement member).not_blank) thenIh
      have elseAgrees := visitStatements_checkStatements env _
        (fun statement member => (sortedElse statement member).not_blank) elseIh
      simp only [visit, checkStatement, sortedCondition.not_blank, Bool.false_eq_true, if_false,
        visit_expression sortedCondition, bind_assoc, pure_bind, elseAgrees]
      congr 1
      funext type
      rw [← thenAgrees []]
      simp only [bind_assoc, pure_bind]

theorem visit_group {env : Environment} {node : Node} (sorted : DeclGroup node)
    (stack : Operands) :
    (do
      let _ ← visit env stack node
      return ()) = checkGroup env node := by
  cases sorted with
  | group kind position sortedDecls =>
      simp only [visit, checkGroup]
      apply visitIn_forM
      · intro entry member
        exact (sortedDecls entry member).not_blank
      · intro entry member stack
        rw [visit_decl (sortedDecls entry member)]
        simp

theorem visit_item {env : Environment} {node : Node} (sorted : TopItem node)
    (stack : Operands) :
    (do
      let _ ← visit env stack node
      return ()) = checkItem env node := by
  cases sorted with
  | group sortedGroup =>
      rw [visit_group sortedGroup]
      cases sortedGroup
      rfl
  | moduleBlock name position sortedGroups =>
      simp only [visit, checkItem]
      apply visitIn_forM
      · intro entry member
        exact (sortedGroups entry member).not_blank
      · intro entry member stack
        exact visit_group (sortedGroups entry member) stack
  | record name position sortedFields =>
      simp only [visit, checkItem]
      apply visitIn_forM
      · intro field member
        exact (sortedFields field member).not_blank
      · intro field member stack
        rw [visit_decl (sortedFields field member)]
        simp
  | event name position sortedPrecondition sortedEffects =>
      have effectsAgree := visitStatements_checkStatements env _
        (fun effect member => (sortedEffects effect member).not_blank)
        (fun effect member => visit_statement (sortedEffects effect member))
      rcases sortedPrecondition with empty | sorted
      · subst empty
        simp only [visit, checkItem, inferOptional, Node.isHole, if_true, pure_bind,
          effectsAgree]
      · simp only [visit, checkItem, inferOptional, sorted.not_hole, sorted.not_blank,
          Bool.false_eq_true, if_false, visit_expression sorted, bind_assoc, pure_bind,
          effectsAgree]

/-- The pass with the stack and the recursive one are the same on well-sorted programs. -/
theorem check_eq_inference {program : Node} (sorted : WellSorted program) (env : Environment) :
    check env program = Inference.check env program := by
  cases sorted with
  | program name position sortedItems =>
      simp only [check, Node.isBlank, Bool.false_eq_true, if_false, visit, Inference.check]
      apply visitIn_forM
      · intro item member
        exact (sortedItems item member).not_blank
      · intro item member stack
        exact visit_item (sortedItems item member) stack

end Typing

/-- The type phase leaves the table, the log and the outcome that recursive inference gives,
whatever table it starts from and also when a reference that is needed does not resolve: what was
reported up to that point is the same. Onto any stack, an expression pushes its one inferred
type. -/
theorem type_phase_is_recursive_inference (policy : RedefinitionPolicy) (table : SymbolTable)
    {program : Node} (sorted : WellSorted program) :
    Phase.types.work policy program table = Phase.inspect Inference.check program table ∧
      ∀ (stack : Typing.Operands) (node : Node), Expression node →
        Typing.visit table.env stack node = (do
          let type ← Inference.infer table.env node
          return type :: stack) := by
  constructor
  · simp only [Phase.work, Phase.inspect]
    rw [Typing.check_eq_inference sorted]
  · intro stack node expression
    exact Typing.visit_expression expression stack

/-- One variable with an initial value of the wrong type, and an assignment to it from a variable
that is not declared. -/
def undeclaredSource : Node :=
  .program "Swarm"
    [.group .locals
      [.decl "count" "int" false 0
        (.binary "+" (.constant .int "1" none false) (.stringLiteral "a" none) none) none] none,
      .event "Step" .hole [.assign "count" .hole (.reference "target" .hole none) none] none]
    none

theorem undeclaredSource_sorted : WellSorted undeclaredSource := by
  refine .program _ _ ?_
  intro item member
  simp only [List.mem_cons, List.not_mem_nil, or_false] at member
  rcases member with rfl | rfl
  · refine .group (.group _ _ ?_)
    intro entry member
    rw [List.mem_singleton.mp member]
    exact .decl _ _ _ _ _
      (.inr (.binary _ _ (.constant _ _ _ _) (.stringLiteral _ _)))
  · refine .event _ _ (.inl rfl) ?_
    intro effect member
    rw [List.mem_singleton.mp member]
    exact .assign _ _ (.inl rfl) (.reference _ _)

/-- The wrong initial value is on record when the missing reference ends the phase. -/
theorem type_phase_of_undeclared_source :
    WellSorted undeclaredSource ∧
      (Phase.types.work .reject undeclaredSource .empty).table.mismatches.length = 1 ∧
      (Phase.types.work .reject undeclaredSource .empty).outcome =
        .error (.unresolvedReference "target") := by
  rw [(type_phase_is_recursive_inference .reject .empty undeclaredSource_sorted).1]
  exact ⟨undeclaredSource_sorted, rfl, rfl⟩

end SwarmCheck
