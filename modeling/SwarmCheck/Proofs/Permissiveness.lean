import SwarmCheck.Proofs.History
import SwarmCheck.Proofs.Loosening
import SwarmCheck.Proofs.TypeRules

/-!
# Values of unknown type are let pass

A call has an unknown type, and the type pass lets such a value stand wherever a value may stand. So
a program does not get worse by calls: if one expression is replaced by a call, whatever was
reported is still reported in the same words or no longer at all, and nothing new is. Each rule is
shown to go along with this by itself: given operands that are known less well, it shows no more and
returns a type that is known less well. The one exception is a declaration that names no type at
all. It ends the pass if its initial value is of known type, and a call in that value that makes the
type unknown lets the pass go on.
-/

namespace SwarmCheck

set_option autoImplicit false

namespace Typing

open Pass Rules

variable {exempt : Fault → Prop} {site site' : Node} (same : site'.position = site.position)

include same

theorem mismatch_eases (construct expected actual : String) :
    Eases exempt Eq (mismatch site' construct expected actual)
      (mismatch site construct expected actual) := by
  apply Eases.returned rfl rfl rfl
  have shown : (mismatch site' construct expected actual).shown =
      (mismatch site construct expected actual).shown := by
    change [(Finding.mismatch site' construct expected actual).diagnostic] =
      [(Finding.mismatch site construct expected actual).diagnostic]
    rw [Finding.diagnostic, Finding.diagnostic, same]
  exact shown ▸ List.Sublist.refl _

theorem checkIndex_eases {index index' : Ty} (looser : index'.Looser index) :
    Eases exempt Eq (checkIndex site' index') (checkIndex site index) := by
  rcases looser with unknown | equal
  · rw [unknown]
    exact eases_of_returned (checkIndex_yields site index).outcome rfl
  · rw [equal]
    exact eases_ite (eases_pure rfl) (mismatch_eases same _ _ _)

theorem binaryType_eases (op : String) {left left' right right' : Ty}
    (looserLeft : left'.Looser left) (looserRight : right'.Looser right) :
    Eases exempt Ty.Looser (binaryType site' op left' right') (binaryType site op left right) := by
  by_cases unknown : (left'.isUnknown || right'.isUnknown) = true
  · rw [binaryType, if_pos unknown]
    exact eases_of_returned (binaryType_yields site op left right).outcome (.inl rfl)
  · have known := unknown
    rw [Bool.or_eq_true, Ty.isUnknown_iff, Ty.isUnknown_iff, not_or] at known
    rw [looserLeft.resolve_left known.1, looserRight.resolve_left known.2]
    apply eases_ite (eases_pure (.inl rfl))
    apply eases_ite (eases_pure (.inr rfl))
    apply eases_ite _ (eases_pure (.inr rfl))
    apply (mismatch_eases same _ _ _).bind
    intro _ _ _
    exact eases_pure (.inr rfl)

theorem elementType_eases (name : String) (type : Ty) :
    Eases exempt Ty.Looser (elementType site' name type) (elementType site name type) := by
  have refused : Eases exempt Ty.Looser
      (do mismatch site' ("indexing '" ++ name ++ "'") "array" type.text; return .unknown)
      (do mismatch site ("indexing '" ++ name ++ "'") "array" type.text; return .unknown) := by
    apply (mismatch_eases same _ _ _).bind
    intro _ _ _
    exact eases_pure (.inl rfl)
  cases type with
  | array inner => exact eases_pure (.inr rfl)
  | primitive name => exact refused
  | record name => exact refused
  | unknown => exact refused

theorem checkTarget_eases (target : String) (indexed : Bool) (type actual : Ty) :
    Eases exempt Eq (checkTarget site' target indexed type actual)
      (checkTarget site target indexed type actual) := by
  apply eases_ite
  · exact eases_ite (eases_pure rfl) (mismatch_eases same _ _ _)
  · cases type with
    | array inner => exact eases_ite (eases_pure rfl) (mismatch_eases same _ _ _)
    | primitive name => exact mismatch_eases same _ _ _
    | record name => exact mismatch_eases same _ _ _
    | unknown => exact mismatch_eases same _ _ _

end Typing

namespace Node

def groupDecls : Node → List Node
  | group _ decls _ => decls
  | _ => []

def itemDecls : Node → List Node
  | moduleBlock _ groups _ => groups.flatMap groupDecls
  | record _ fields _ => fields
  | item => groupDecls item

/-- The declarations of a program in source order, those of fields included. -/
def programDecls : Node → List Node
  | program _ items _ => items.flatMap itemDecls
  | _ => []

/-- The type pass does not stop at a declaration: it names a type, or there is no initial value or
none of known type to compare with the type. -/
def LetsPass (env : Environment) (entry : Node) : Prop :=
  ∀ name typeName dims initial position,
    entry = .decl name typeName false dims initial position → typeName ∉ Ty.primitiveNames →
      initial = .hole ∨ Rules.HasType env initial .unknown

/-- Two lists of declarations that differ in one initial value. It belongs to the first declaration
that the type pass stops at, since it names no type and the value is of known type, and in the other
list nothing is known of the value. -/
inductive Uncovers (env : Environment) (decls decls' : List Node) (fault : Fault) : Prop
  | stop {earlier later : List Node} {name typeName : String} {dims : Int}
      {initial initial' : Node} {position : Option Position} {type : Ty}
      (strict : decls = earlier ++ .decl name typeName false dims initial position :: later)
      (loose : decls' = earlier ++ .decl name typeName false dims initial' position :: later)
      (passed : ∀ entry ∈ earlier, entry.LetsPass env)
      (undeclared : typeName ∉ Ty.primitiveNames) (same : fault = .unknownType typeName)
      (typed : Rules.HasType env initial type) (known : type ≠ .unknown)
      (loosely : Rules.HasType env initial' .unknown)

theorem Uncovers.within {env : Environment} {before decls decls' : List Node} {fault : Fault}
    (uncovers : Uncovers env decls decls' fault)
    (passed : ∀ entry ∈ before, entry.LetsPass env) (after : List Node) :
    Uncovers env (before ++ (decls ++ after)) (before ++ (decls' ++ after)) fault := by
  obtain ⟨strict, loose, between, undeclared, same, typed, known, loosely⟩ := uncovers
  have assoc (earlier later : List Node) (entry : Node) :
      before ++ (earlier ++ entry :: later ++ after) =
        before ++ earlier ++ entry :: (later ++ after) := by simp
  rw [strict, loose]
  exact .stop (assoc ..) (assoc ..) (List.forall_mem_append.mpr ⟨passed, between⟩) undeclared same
    typed known loosely

end Node

namespace Inference

open Pass Rules Typing

variable {env : Environment} {exempt : Fault → Prop}

theorem resolved_replaced {sort : Node → Prop} {before after : List Node} {inner : Node}
    (present : ∀ {node : Node}, sort node → node.isBlank = false)
    (each : ∀ entry ∈ before ++ inner :: after, sort entry)
    (resolved : Resolved env (Node.preorderIn (before ++ inner :: after))) :
    sort inner ∧ Resolved env inner.preorder := by
  have member : inner ∈ before ++ inner :: after :=
    List.mem_append_right before List.mem_cons_self
  have sorted := each inner member
  exact ⟨sorted, resolved_preorderIn.mp resolved inner member (present sorted)⟩

theorem inferEach_eq_forM (nodes : List Node) :
    inferEach env nodes = forM nodes fun node => do
      let _ ← infer env node
      return () := by
  induction nodes with
  | nil => rw [inferEach, List.forM_nil]
  | cons node rest ih =>
      rw [inferEach, List.forM_cons, ih, bind_assoc]
      rfl

theorem inferEach_eases {before after : List Node} {inner inner' : Node}
    (entry : Eases exempt Ty.Looser (infer env inner') (infer env inner)) :
    Eases exempt Eq (inferEach env (before ++ inner' :: after))
      (inferEach env (before ++ inner :: after)) := by
  rw [inferEach_eq_forM, inferEach_eq_forM]
  apply eases_forM _ fun _ _ allowed => allowed
  apply entry.bind
  intro _ _ _
  exact eases_pure rfl

/-- An expression in which another is replaced by a call has its type or an unknown one, and no more
is said about it. -/
theorem infer_eases {node node' : Node} (sorted : Expression node)
    (resolved : Resolved env node.preorder) (loosened : Node.Loosened node node') :
    Eases exempt Ty.Looser (infer env node') (infer env node) := by
  induction loosened with
  | here _ name position =>
      rw [infer, inferEach, pure_bind]
      obtain ⟨type, _, yields⟩ := infer_yields sorted resolved
      exact eases_of_returned yields.outcome (.inl rfl)
  | @index inner inner' name position below ih =>
      have same : (Node.reference name inner' position).position =
          (Node.reference name inner position).position := rfl
      cases sorted with
      | reference => exact absurd below Node.not_loosened_hole
      | element _ _ sortedIndex =>
          rw [Node.preorder, resolved_cons] at resolved
          simp only [infer, sortedIndex.not_hole, (below.expression sortedIndex).not_hole,
            Bool.false_eq_true, if_false]
          apply (ih sortedIndex resolved.2).bind
          intro index' index looser
          apply (eases_refl Eq.refl _).bind
          intro type' type equal
          rw [equal]
          apply (checkIndex_eases same looser).bind
          intro _ _ _
          exact elementType_eases same name type
  | argument name before after position below ih =>
      cases sorted with
      | call _ _ sortedArgs =>
          rw [Node.preorder, resolved_cons] at resolved
          have found := resolved_replaced Expression.not_blank sortedArgs resolved.2
          rw [infer, infer]
          apply (inferEach_eases (ih found.1 found.2)).bind
          intro _ _ _
          exact eases_pure (.inl rfl)
  | @left inner inner' op right position below ih =>
      have same : (Node.binary op inner' right position).position =
          (Node.binary op inner right position).position := rfl
      cases sorted with
      | binary _ _ sortedLeft sortedRight =>
          rw [Node.preorder, resolved_cons, resolved_append] at resolved
          rw [infer, infer]
          apply (ih sortedLeft resolved.2.1).bind
          intro leftType' leftType looser
          apply (eases_refl Ty.looser_refl _).bind
          intro rightType' rightType looserRight
          exact binaryType_eases same op looser looserRight
  | @right inner inner' op left position below ih =>
      have same : (Node.binary op left inner' position).position =
          (Node.binary op left inner position).position := rfl
      cases sorted with
      | binary _ _ sortedLeft sortedRight =>
          rw [Node.preorder, resolved_cons, resolved_append] at resolved
          rw [infer, infer]
          apply (eases_refl Ty.looser_refl _).bind
          intro leftType' leftType looserLeft
          apply (ih sortedRight resolved.2.2).bind
          intro rightType' rightType looser
          exact binaryType_eases same op looserLeft looser
  | operand op before after position below ih =>
      cases sorted with
      | logical _ _ sortedOperands =>
          rw [Node.preorder, resolved_cons] at resolved
          have found := resolved_replaced Expression.not_blank sortedOperands resolved.2
          rw [infer, infer]
          apply (inferEach_eases (ih found.1 found.2)).bind
          intro _ _ _
          exact eases_pure (.inr rfl)
  | _ => cases sorted

theorem inferOptional_eases {place place' : Node} (sorted : OptionalExpression place)
    (resolved : Resolved env place.preorder) (loosened : Node.Loosened place place') :
    Eases exempt (Option.Rel Ty.Looser) (inferOptional env place') (inferOptional env place) := by
  rcases sorted with empty | sorted
  · rw [empty] at loosened
    exact absurd loosened Node.not_loosened_hole
  · simp only [inferOptional, sorted.not_hole, (loosened.expression sorted).not_hole,
      Bool.false_eq_true, if_false]
    apply (infer_eases sorted resolved loosened).bind
    intro type' type looser
    exact eases_pure (.some looser)

theorem resolved_of_loosened {node node' : Node} (sorted : Expression node)
    (resolved : Resolved env node.preorder) (loosened : Node.Loosened node node') :
    Resolved env node'.preorder := by
  have replaced {before after : List Node} {inner inner' : Node}
      (sortedAll : ∀ entry ∈ before ++ inner :: after, Expression entry)
      (all : Resolved env (Node.preorderIn (before ++ inner :: after)))
      (step : Expression inner → Resolved env inner.preorder → Resolved env inner'.preorder) :
      Resolved env (Node.preorderIn (before ++ inner' :: after)) := by
    have found := resolved_replaced Expression.not_blank sortedAll all
    rw [resolved_preorderIn] at all ⊢
    exact forall_mem_replace all fun _ _ => step found.1 found.2
  induction loosened with
  | here _ name position =>
      rw [Node.preorder, resolved_cons]
      refine ⟨?_, List.forall_mem_nil _⟩
      intro text mentioned
      cases mentioned
  | index name position below ih =>
      rw [Node.preorder, resolved_cons] at resolved ⊢
      cases sorted with
      | reference => exact absurd below Node.not_loosened_hole
      | element _ _ sortedIndex => exact ⟨resolved.1, ih sortedIndex resolved.2⟩
  | argument name before after position below ih =>
      rw [Node.preorder, resolved_cons] at resolved ⊢
      cases sorted with
      | call _ _ sortedArgs => exact ⟨resolved.1, replaced sortedArgs resolved.2 ih⟩
  | left op right position below ih =>
      rw [Node.preorder, resolved_cons, resolved_append] at resolved ⊢
      cases sorted with
      | binary _ _ sortedLeft _ =>
          exact ⟨resolved.1, ih sortedLeft resolved.2.1, resolved.2.2⟩
  | right op left position below ih =>
      rw [Node.preorder, resolved_cons, resolved_append] at resolved ⊢
      cases sorted with
      | binary _ _ _ sortedRight =>
          exact ⟨resolved.1, resolved.2.1, ih sortedRight resolved.2.2⟩
  | operand op before after position below ih =>
      rw [Node.preorder, resolved_cons] at resolved ⊢
      cases sorted with
      | logical _ _ sortedOperands => exact ⟨resolved.1, replaced sortedOperands resolved.2 ih⟩
  | _ => cases sorted

/-- The types by the rules of an expression and of the one that has been loosened are what is
inferred of them, so they are known as well or less well. -/
theorem inferOptional_eases_typed {node node' : Node} (sorted : Expression node)
    (resolved : Resolved env node.preorder) (loosened : Node.Loosened node node') :
    ∃ type type', HasType env node type ∧ HasType env node' type' ∧ type'.Looser type ∧
      Eases exempt (fun value strictValue => value = some type' ∧ strictValue = some type)
        (inferOptional env node') (inferOptional env node) := by
  obtain ⟨type, typed, yields⟩ := inferOptional_yields sorted resolved
  obtain ⟨type', typed', yields'⟩ := inferOptional_yields (loosened.expression sorted)
    (resolved_of_loosened sorted resolved loosened)
  -- Without exempt faults nothing but a return is left on both sides.
  cases @inferOptional_eases env (fun _ => False) _ _ (.inr sorted) resolved loosened with
  | exempted allowed => exact allowed.elim
  | failed _ stopped =>
      rw [yields.outcome] at stopped
      cases stopped
  | returned looseReturned strictReturned values shown =>
      rw [yields'.outcome] at looseReturned
      rw [yields.outcome] at strictReturned
      cases looseReturned
      cases strictReturned
      cases values with
      | some looser =>
          exact ⟨type, type', typed, typed', looser,
            .returned yields'.outcome yields.outcome ⟨rfl, rfl⟩ shown⟩

theorem optional_looser_refl (type : Option Ty) : Option.Rel Ty.Looser type type := by
  cases type with
  | none => exact .none
  | some type => exact .some (Ty.looser_refl type)

section Sites

variable {site site' : Node} (same : site'.position = site.position)

include same

theorem checkOptionalIndex_eases {index index' : Option Ty}
    (looser : Option.Rel Ty.Looser index' index) :
    Eases exempt Eq (checkOptionalIndex site' index') (checkOptionalIndex site index) := by
  cases looser with
  | none => exact eases_pure rfl
  | some looser => exact checkIndex_eases same looser

theorem checkFit_eases {target : String} {type : Ty} (named : NameHasType env target type)
    (indexed : Bool) {actual actual' : Ty} (looser : actual'.Looser actual) :
    Eases exempt Eq
      (if actual'.isUnknown then pure () else do
        let type ← typeOf env target
        checkTarget site' target indexed type actual')
      (if actual.isUnknown then pure () else do
        let type ← typeOf env target
        checkTarget site target indexed type actual) := by
  rcases looser with unknown | equal
  · rw [if_pos (Ty.isUnknown_iff.mpr unknown)]
    exact eases_of_returned (checkFit_yields named site indexed actual).outcome rfl
  · rw [equal]
    apply eases_ite (eases_pure rfl)
    apply (eases_refl Eq.refl _).bind
    intro type' type equalType
    rw [equalType]
    exact checkTarget_eases same target indexed type actual

theorem checkAssign_eases {target : String} {type : Ty} {index index' value value' : Node}
    (named : NameHasType env target type)
    (indexEases : Eases exempt (Option.Rel Ty.Looser) (inferOptional env index')
      (inferOptional env index))
    (valueEases : Eases exempt Ty.Looser (infer env value') (infer env value)) :
    Eases exempt Eq (checkAssign env site' target index' value')
      (checkAssign env site target index value) := by
  apply indexEases.bind
  intro indexType' indexType looserIndex
  apply valueEases.bind
  intro actual' actual looser
  apply (checkOptionalIndex_eases same looserIndex).bind
  intro _ _ _
  have indexed : indexType'.isSome = indexType.isSome := by cases looserIndex <;> rfl
  rw [indexed]
  exact checkFit_eases same named indexType.isSome looser

/-- A declared type that does not exist is not missed until it is compared with another. -/
theorem checkInitial_eases {name typeName : String} {isRecord : Bool} {dims : Int}
    {actual actual' : Ty}
    (allowed : ∀ fault, declaredType typeName isRecord dims = .error fault → actual ≠ .unknown →
      actual' = .unknown → exempt fault) (looser : actual'.Looser actual) :
    Eases exempt Eq (checkInitial site' name typeName isRecord dims (some actual'))
      (checkInitial site name typeName isRecord dims (some actual)) := by
  by_cases unknown : actual = .unknown
  · have still : actual' = .unknown := looser.elim id fun equal => equal.trans unknown
    rw [unknown, still]
    exact eases_pure rfl
  · cases declared : declaredType typeName isRecord dims with
    | error fault =>
        have stops (site : Node) :
            checkInitial site name typeName isRecord dims (some actual) = Trail.fail fault := by
          cases actual <;> simp [checkInitial, declared] at unknown ⊢
        rw [stops]
        rcases looser with loose | equal
        · exact .exempted (allowed fault declared unknown loose) rfl
        · rw [equal, stops]
          exact .failed rfl rfl (List.Sublist.refl _)
    | ok expected =>
        rcases looser with loose | equal
        · rw [loose]
          exact eases_of_returned (checkInitial_yields declared site name actual).outcome rfl
        · rw [equal]
          cases actual with
          | unknown => exact absurd rfl unknown
          | _ =>
              simp only [checkInitial, declared]
              exact eases_ite (eases_pure rfl) (mismatch_eases same _ _ _)

end Sites

section Program

variable {node node' : Node}

theorem checkStatements_eases {before after : List Node} {inner inner' : Node}
    (entry : Eases exempt Eq (checkStatement env inner') (checkStatement env inner)) :
    Eases exempt Eq (checkStatements env (before ++ inner' :: after))
      (checkStatements env (before ++ inner :: after)) := by
  rw [checkStatements_eq_forM, checkStatements_eq_forM]
  exact eases_forM entry fun _ _ allowed => allowed

theorem checkStatement_eases (sorted : Statement node) (resolved : Resolved env node.preorder)
    (loosened : Node.Loosened node node') :
    Eases exempt Eq (checkStatement env node') (checkStatement env node) := by
  induction loosened with
  | here expression name position =>
      cases sorted with
      | call _ _ sortedArgs =>
          simp only [checkStatement]
          apply (infer_eases expression resolved (.here expression name position)).bind
          intro _ _ _
          exact eases_pure rfl
      | _ => cases expression
  | argument name before after position below =>
      cases sorted with
      | call _ _ sortedArgs =>
          simp only [checkStatement]
          apply (infer_eases (.call name position sortedArgs) resolved
            (.argument name before after position below)).bind
          intro _ _ _
          exact eases_pure rfl
  | @assignedIndex inner inner' target value position below =>
      have same : (Node.assign target inner' value position).position =
          (Node.assign target inner value position).position := rfl
      cases sorted with
      | assign _ _ sortedIndex sortedValue =>
          rw [Node.preorder, resolved_cons, resolved_append] at resolved
          obtain ⟨type, named⟩ := exists_nameHasType rfl resolved.1
          rw [checkStatement, checkStatement]
          exact checkAssign_eases same named (inferOptional_eases sortedIndex resolved.2.1 below)
            (eases_refl Ty.looser_refl _)
  | @assignedValue inner inner' target index position below =>
      have same : (Node.assign target index inner' position).position =
          (Node.assign target index inner position).position := rfl
      cases sorted with
      | assign _ _ sortedIndex sortedValue =>
          rw [Node.preorder, resolved_cons, resolved_append] at resolved
          obtain ⟨type, named⟩ := exists_nameHasType rfl resolved.1
          rw [checkStatement, checkStatement]
          exact checkAssign_eases same named (eases_refl optional_looser_refl _)
            (infer_eases sortedValue resolved.2.2 below)
  | condition thenBody elseBody position below =>
      cases sorted with
      | conditional _ sortedCondition sortedThen sortedElse =>
          rw [Node.preorder, resolved_cons, resolved_append] at resolved
          rw [checkStatement, checkStatement]
          apply (infer_eases sortedCondition resolved.2.1 below).bind
          intro _ _ _
          exact eases_refl Eq.refl _
  | thenStatement condition before after elseBody position below ih =>
      cases sorted with
      | conditional _ sortedCondition sortedThen sortedElse =>
          rw [Node.preorder, resolved_cons, resolved_append, resolved_append] at resolved
          have found := resolved_replaced Statement.not_blank sortedThen resolved.2.2.1
          rw [checkStatement, checkStatement]
          apply (eases_refl Ty.looser_refl _).bind
          intro _ _ _
          apply (checkStatements_eases (ih found.1 found.2)).bind
          intro _ _ _
          exact eases_refl Eq.refl _
  | elseStatement condition thenBody before after position below ih =>
      cases sorted with
      | conditional _ sortedCondition sortedThen sortedElse =>
          rw [Node.preorder, resolved_cons, resolved_append, resolved_append] at resolved
          have found := resolved_replaced Statement.not_blank sortedElse resolved.2.2.2
          rw [checkStatement, checkStatement]
          apply (eases_refl Ty.looser_refl _).bind
          intro _ _ _
          apply (eases_refl Eq.refl _).bind
          intro _ _ _
          exact checkStatements_eases (ih found.1 found.2)
  | _ => cases sorted

theorem checkDecl_eases (sorted : VariableDecl node) (resolved : Resolved env node.preorder)
    (loosened : Node.Loosened node node') :
    Eases (Node.Uncovers env [node] [node']) Eq (checkDecl env node') (checkDecl env node) := by
  cases sorted with
  | @decl name typeName isRecord dims initial position sortedInitial =>
      rw [Node.preorder, resolved_cons] at resolved
      cases loosened with
      | here sorted => cases sorted
      | @initial _ initial' _ _ _ _ _ below =>
          have same : (Node.decl name typeName isRecord dims initial' position).position =
              (Node.decl name typeName isRecord dims initial position).position := rfl
          rcases sortedInitial with empty | sorted
          · rw [empty] at below
            exact absurd below Node.not_loosened_hole
          obtain ⟨type, type', typed, typed', looser, eases⟩ :=
            inferOptional_eases_typed sorted resolved.2 below
          rw [checkDecl, checkDecl]
          apply eases.bind
          rintro _ _ ⟨rfl, rfl⟩
          apply checkInitial_eases same _ looser
          intro fault unnamed known unknown
          obtain ⟨rfl, undeclared, stops⟩ := declaredType_eq_error_iff.mp unnamed
          subst unknown
          exact .stop rfl rfl (List.forall_mem_nil _) undeclared stops typed known typed'

theorem letsPass_of_checkDecl (sorted : VariableDecl node) (resolved : Resolved env node.preorder)
    (returned : (checkDecl env node).outcome = .ok ()) : node.LetsPass env := by
  rintro name typeName dims initial position rfl undeclared
  rw [Node.preorder, resolved_cons] at resolved
  cases sorted with
  | decl _ _ _ _ _ sortedInitial =>
      rcases sortedInitial with empty | sorted
      · exact .inl empty
      · obtain ⟨type, typed, yields⟩ := inferOptional_yields sorted resolved.2
        have unnamed := (@declaredType_eq_error_iff typeName false dims _).mpr
          ⟨rfl, undeclared, rfl⟩
        rw [checkDecl, Trail.outcome_bind_of_ok yields.outcome] at returned
        cases type with
        | unknown => exact .inr typed
        | _ =>
            simp only [checkInitial, unnamed] at returned
            cases returned

theorem letsPass_of_checkDecls {decls : List Node} (sorted : ∀ entry ∈ decls, VariableDecl entry)
    (resolved : Resolved env (Node.preorderIn decls))
    (returned : (forM decls (checkDecl env)).outcome = .ok ()) :
    ∀ entry ∈ decls, entry.LetsPass env := by
  rw [resolved_preorderIn] at resolved
  intro entry member
  exact letsPass_of_checkDecl (sorted entry member)
    (resolved entry member (sorted entry member).not_blank)
    (Trail.returned_of_forM returned entry member)

theorem letsPass_of_checkGroup (sorted : DeclGroup node) (resolved : Resolved env node.preorder)
    (returned : (checkGroup env node).outcome = .ok ()) :
    ∀ entry ∈ node.groupDecls, entry.LetsPass env := by
  cases sorted with
  | group kind position sortedDecls =>
      rw [Node.preorder, resolved_cons] at resolved
      exact letsPass_of_checkDecls sortedDecls resolved.2 returned

theorem letsPass_of_forM {sort : Node → Prop} {check : Node → Pass Unit}
    {declsOf : Node → List Node} {nodes : List Node}
    (present : ∀ {node : Node}, sort node → node.isBlank = false)
    (each : ∀ {node : Node}, sort node → Resolved env node.preorder →
      (check node).outcome = .ok () → ∀ entry ∈ declsOf node, entry.LetsPass env)
    (sorted : ∀ node ∈ nodes, sort node) (resolved : Resolved env (Node.preorderIn nodes))
    (returned : (forM nodes check).outcome = .ok ()) :
    ∀ entry ∈ nodes.flatMap declsOf, entry.LetsPass env := by
  rw [resolved_preorderIn] at resolved
  intro entry member
  obtain ⟨node, listed, inner⟩ := List.mem_flatMap.mp member
  have own := sorted node listed
  exact each own (resolved node listed (present own))
    (Trail.returned_of_forM returned node listed) entry inner

theorem letsPass_of_checkItem (sorted : TopItem node) (resolved : Resolved env node.preorder)
    (returned : (checkItem env node).outcome = .ok ()) :
    ∀ entry ∈ node.itemDecls, entry.LetsPass env := by
  cases sorted with
  | group sortedGroup =>
      cases sortedGroup with
      | group kind position sortedDecls =>
          exact letsPass_of_checkGroup (.group kind position sortedDecls) resolved returned
  | moduleBlock name position sortedGroups =>
      rw [Node.preorder, resolved_cons] at resolved
      exact letsPass_of_forM DeclGroup.not_blank letsPass_of_checkGroup sortedGroups resolved.2
        returned
  | record name position sortedFields =>
      rw [Node.preorder, resolved_cons] at resolved
      exact letsPass_of_checkDecls sortedFields resolved.2 returned
  | event => exact List.forall_mem_nil _

theorem before_replaced {sort : Node → Prop} {before after : List Node} {inner : Node}
    (each : ∀ entry ∈ before ++ inner :: after, sort entry)
    (resolved : Resolved env (Node.preorderIn (before ++ inner :: after))) :
    (∀ entry ∈ before, sort entry) ∧ Resolved env (Node.preorderIn before) := by
  rw [resolved_preorderIn] at resolved ⊢
  exact ⟨fun entry member => each entry (List.mem_append_left _ member),
    fun entry member => resolved entry (List.mem_append_left _ member)⟩

theorem checkDecls_eases {before after : List Node} {inner inner' : Node}
    (sorted : ∀ entry ∈ before ++ inner :: after, VariableDecl entry)
    (resolved : Resolved env (Node.preorderIn (before ++ inner :: after)))
    (loosened : Node.Loosened inner inner') :
    Eases (Node.Uncovers env (before ++ inner :: after) (before ++ inner' :: after)) Eq
      (forM (before ++ inner' :: after) (checkDecl env))
      (forM (before ++ inner :: after) (checkDecl env)) := by
  have found := resolved_replaced VariableDecl.not_blank sorted resolved
  obtain ⟨sortedBefore, resolvedBefore⟩ := before_replaced sorted resolved
  apply eases_forM (checkDecl_eases found.1 found.2 loosened)
  intro returned fault uncovers
  exact uncovers.within (letsPass_of_checkDecls sortedBefore resolvedBefore returned) after

theorem checkGroup_eases (sorted : DeclGroup node) (resolved : Resolved env node.preorder)
    (loosened : Node.Loosened node node') :
    Eases (Node.Uncovers env node.groupDecls node'.groupDecls) Eq (checkGroup env node')
      (checkGroup env node) := by
  cases sorted with
  | group kind position sortedDecls =>
      rw [Node.preorder, resolved_cons] at resolved
      cases loosened with
      | here sorted => cases sorted
      | decl _ before after _ below => exact checkDecls_eases sortedDecls resolved.2 below

theorem checkItem_eases (sorted : TopItem node) (resolved : Resolved env node.preorder)
    (loosened : Node.Loosened node node') :
    Eases (Node.Uncovers env node.itemDecls node'.itemDecls) Eq (checkItem env node')
      (checkItem env node) := by
  cases sorted with
  | group sortedGroup =>
      have eases := checkGroup_eases sortedGroup resolved loosened
      cases loosened.declGroup sortedGroup
      cases sortedGroup
      exact eases
  | moduleBlock name position sortedGroups =>
      rw [Node.preorder, resolved_cons] at resolved
      cases loosened with
      | here sorted => cases sorted
      | group _ before after _ below =>
          have found := resolved_replaced DeclGroup.not_blank sortedGroups resolved.2
          obtain ⟨sortedBefore, resolvedBefore⟩ := before_replaced sortedGroups resolved.2
          rw [checkItem, checkItem, Node.itemDecls, Node.itemDecls, List.flatMap_append,
            List.flatMap_append, List.flatMap_cons, List.flatMap_cons]
          apply eases_forM (checkGroup_eases found.1 found.2 below)
          intro returned fault uncovers
          exact uncovers.within (letsPass_of_forM DeclGroup.not_blank letsPass_of_checkGroup
            sortedBefore resolvedBefore returned) _
  | record name position sortedFields =>
      rw [Node.preorder, resolved_cons] at resolved
      cases loosened with
      | here sorted => cases sorted
      | field _ before after _ below => exact checkDecls_eases sortedFields resolved.2 below
  | event name position sortedPrecondition sortedEffects =>
      rw [Node.preorder, resolved_cons, resolved_append] at resolved
      cases loosened with
      | here sorted => cases sorted
      | precondition _ _ _ below =>
          rw [checkItem, checkItem]
          apply (inferOptional_eases sortedPrecondition resolved.2.1 below).bind
          intro _ _ _
          exact eases_refl Eq.refl _
      | effect _ _ before after _ below =>
          have found := resolved_replaced Statement.not_blank sortedEffects resolved.2.2
          rw [checkItem, checkItem]
          apply (eases_refl optional_looser_refl _).bind
          intro _ _ _
          exact checkStatements_eases (checkStatement_eases found.1 found.2 below)

theorem check_eases (sorted : WellSorted node) (resolved : Resolved env node.preorder)
    (loosened : Node.Loosened node node') :
    Eases (Node.Uncovers env node.programDecls node'.programDecls) Eq (check env node')
      (check env node) := by
  cases sorted with
  | program name position sortedItems =>
      rw [Node.preorder, resolved_cons] at resolved
      cases loosened with
      | here sorted => cases sorted
      | item _ before after _ below =>
          have found := resolved_replaced TopItem.not_blank sortedItems resolved.2
          obtain ⟨sortedBefore, resolvedBefore⟩ := before_replaced sortedItems resolved.2
          rw [check, check, Node.programDecls, Node.programDecls, List.flatMap_append,
            List.flatMap_append, List.flatMap_cons, List.flatMap_cons]
          apply eases_forM (checkItem_eases found.1 found.2 below)
          intro returned fault uncovers
          exact uncovers.within (letsPass_of_forM TopItem.not_blank letsPass_of_checkItem
            sortedBefore resolvedBefore returned) _

end Program

end Inference

namespace Phase

variable {policy : RedefinitionPolicy} {table : SymbolTable} {program : Node}

theorem outcome_types_run_eq_error_iff (sorted : WellSorted program) (fault : Fault) :
    (types.run policy program table).outcome = .error fault ↔
      (Inference.check table.env program).outcome = .error fault := by
  rw [outcome_run_eq_error_iff, work, inspect, Typing.check_eq_inference sorted]

theorem diagnostics_types_run (sorted : WellSorted program) :
    (types.run policy program table).table.diagnostics =
      table.diagnostics ++ (Inference.check table.env program).shown := by
  rw [table_run, work, inspect_journal, Typing.check_eq_inference sorted]
  rfl

theorem mismatches_types_run :
    (types.run policy program table).table.mismatches = table.mismatches ↔
      (types.run policy program table).table.diagnostics = table.diagnostics := by
  obtain ⟨recorded, same, own⟩ := work_extends policy program table types
  have seen : recorded.filterMap Finding.mismatch? = [] ↔ recorded = [] := by
    rw [List.filterMap_eq_nil_iff, List.eq_nil_iff_forall_not_mem]
    apply forall_congr'
    intro finding
    apply imp_congr_right
    intro member
    cases finding with
    | mismatch => simp [Finding.mismatch?]
    | _ => cases own _ member
  have mismatches : (types.run policy program table).table.mismatches =
      table.mismatches ++ recorded.filterMap Finding.mismatch? := by
    rw [table_run, same]
    rfl
  have diagnostics : (types.run policy program table).table.diagnostics =
      table.diagnostics ++ recorded.map Finding.diagnostic := by
    rw [table_run, same]
    rfl
  rw [mismatches, diagnostics, List.append_right_eq_self, List.append_right_eq_self,
    List.map_eq_nil_iff]
  exact seen

end Phase

/-- In a well-sorted program whose references resolve, let one expression anywhere be replaced by a
call. The type phase then ends as before, with the same fault or with none, and of the diagnostics
that it added it adds some in the same order and no others; if it found no mismatch, it finds none.
The only exception: the expression stands in the initial value of the declaration that the phase had
stopped at, since it names no type, and the call makes the type of that value unknown. -/
theorem unknown_values_are_permitted (policy : RedefinitionPolicy) (table : SymbolTable)
    {program loosened : Node} (sorted : WellSorted program)
    (resolved : Inference.Resolved table.env program.preorder)
    (replaced : Node.Loosened program loosened) :
    let before := Phase.types.run policy program table
    let after := Phase.types.run policy loosened table
    (∃ fault, Node.Uncovers table.env program.programDecls loosened.programDecls fault ∧
        before.outcome = .error fault) ∨
      (∀ fault, after.outcome = .error fault ↔ before.outcome = .error fault) ∧
      (∃ shown kept, before.table.diagnostics = table.diagnostics ++ shown ∧
        after.table.diagnostics = table.diagnostics ++ kept ∧ kept.Sublist shown) ∧
      (before.table.mismatches = table.mismatches → after.table.mismatches = table.mismatches) := by
  intro before after
  have sortedAfter := replaced.wellSorted sorted
  have failsBefore : ∀ fault, before.outcome = .error fault ↔ _ :=
    Phase.outcome_types_run_eq_error_iff sorted
  have failsAfter : ∀ fault, after.outcome = .error fault ↔ _ :=
    Phase.outcome_types_run_eq_error_iff sortedAfter
  have addedBefore : before.table.diagnostics = _ := Phase.diagnostics_types_run sorted
  have addedAfter : after.table.diagnostics = _ := Phase.diagnostics_types_run sortedAfter
  have unchanged (shown : (Inference.check table.env loosened).shown.Sublist
      (Inference.check table.env program).shown)
      (quiet : before.table.mismatches = table.mismatches) :
      after.table.mismatches = table.mismatches := by
    rw [Phase.mismatches_types_run, addedBefore, List.append_right_eq_self] at quiet
    rw [quiet, List.sublist_nil] at shown
    rw [Phase.mismatches_types_run, addedAfter, shown, List.append_nil]
  cases Inference.check_eases sorted resolved replaced with
  | @exempted fault allowed stopped => exact .inl ⟨fault, allowed, (failsBefore fault).mpr stopped⟩
  | @failed fault looseStopped strictStopped shown =>
      refine .inr ⟨?_, ⟨_, _, addedBefore, addedAfter, shown⟩, unchanged shown⟩
      intro other
      rw [failsBefore, failsAfter, looseStopped, strictStopped]
  | returned looseReturned strictReturned _ shown =>
      refine .inr ⟨?_, ⟨_, _, addedBefore, addedAfter, shown⟩, unchanged shown⟩
      intro other
      rw [failsBefore, failsAfter, looseReturned, strictReturned]

/-- Two assignments to a number: of a text with one appended, and of a fraction. -/
def doubtfulCounts (text : Node) : Node :=
  .program "counting"
    [.event "tick" .hole
      [.assign "count" .hole (.binary "+" text (.constant .int "1" none false) none) none,
        .assign "count" .hole (.constant .float "2.5" none false) none] none] none

def countOnly : SymbolTable := SymbolTable.empty.declare ⟨"count", .int, .locals, .hole⟩

/-- If the text comes from a call, nothing is known of the sum, and only the fraction is reported.
-/
theorem doubtfulCounts_permitted :
    let before := Phase.types.run .reject (doubtfulCounts (.stringLiteral "no. " none)) countOnly
    let after := Phase.types.run .reject (doubtfulCounts (.call "label" [] none)) countOnly
    WellSorted (doubtfulCounts (.stringLiteral "no. " none)) ∧
      Inference.Resolved countOnly.env (doubtfulCounts (.stringLiteral "no. " none)).preorder ∧
      Node.Loosened (doubtfulCounts (.stringLiteral "no. " none))
        (doubtfulCounts (.call "label" [] none)) ∧
      (∀ fault, after.outcome = .error fault ↔ before.outcome = .error fault) ∧
      after.table.diagnostics.Sublist before.table.diagnostics ∧
      before.table.diagnostics.length = 2 ∧ after.table.diagnostics.length = 1 := by
  intro before after
  have sorted : WellSorted (doubtfulCounts (.stringLiteral "no. " none)) := by
    apply WellSorted.program
    rw [List.forall_mem_singleton]
    apply TopItem.event _ _ (.inl rfl)
    rw [List.forall_mem_cons, List.forall_mem_singleton]
    exact ⟨.assign _ _ (.inl rfl) (.binary _ _ (.stringLiteral ..) (.constant ..)),
      .assign _ _ (.inl rfl) (.constant ..)⟩
  have resolved : Inference.Resolved countOnly.env
      (doubtfulCounts (.stringLiteral "no. " none)).preorder := by
    have count : ∃ resolution, countOnly.env.resolve "count" = .ok resolution := ⟨_, rfl⟩
    simp [doubtfulCounts, Node.preorder, Node.preorderIn, Node.isBlank, Inference.Resolved,
      Node.referenceText?, count]
  have replaced : Node.Loosened (doubtfulCounts (.stringLiteral "no. " none))
      (doubtfulCounts (.call "label" [] none)) :=
    .item _ [] [] _ (.effect _ _ [] _ _ (.assignedValue _ _ _ (.left _ _ _
      (.here (.stringLiteral ..) "label" none))))
  refine ⟨sorted, resolved, replaced, ?_⟩
  rcases unknown_values_are_permitted .reject countOnly sorted resolved replaced with
    ⟨_, uncovers, _⟩ | ⟨ends, ⟨shown, kept, same, sameAfter, fewer⟩, _⟩
  · obtain ⟨strict⟩ := uncovers
    cases List.append_ne_nil_of_right_ne_nil _ (List.cons_ne_nil _ _) strict.symm
  · refine ⟨ends, ?_, rfl, rfl⟩
    change before.table.diagnostics = _ at same
    change after.table.diagnostics = _ at sameAfter
    rw [same, sameAfter]
    exact fewer

/-- A declaration that names no type, and one whose initial value does not fit. -/
def undeclaredType (initial : Node) : Node :=
  .program "p"
    [.group .locals [.decl "x" "foo" false 0 initial none] none,
      .group .locals [.decl "y" "int" false 0 (.stringLiteral "a" none) none] none] none

/-- A number is compared with the type that does not exist, which ends the type phase before it has
found anything. A call is not, and so the second declaration is reported. -/
theorem call_uncovers_mismatch :
    let number := undeclaredType (.constant .int "1" none false)
    let call := undeclaredType (.call "f" [] none)
    let before := Phase.types.run .reject number .empty
    let after := Phase.types.run .reject call .empty
    WellSorted number ∧ Inference.Resolved SymbolTable.empty.env number.preorder ∧
      Node.Loosened number call ∧
      before.outcome = .error (.unknownType "foo") ∧ before.table.mismatches = [] ∧
      after.outcome = .ok (.blocked 1) ∧
      ¬ after.table.diagnostics.Sublist before.table.diagnostics := by
  have replaced := Node.Loosened.initial "x" "foo" false 0 none
    (.here (.constant .int "1" none false) "f" none)
  refine ⟨?_, ?_, .item _ [] _ _ (.decl _ [] [] _ replaced), rfl, rfl, rfl, ?_⟩
  · apply WellSorted.program
    rw [List.forall_mem_cons, List.forall_mem_singleton]
    refine ⟨.group (.group _ _ ?_), .group (.group _ _ ?_)⟩
    · rw [List.forall_mem_singleton]
      exact .decl _ _ _ _ _ (.inr (.constant ..))
    · rw [List.forall_mem_singleton]
      exact .decl _ _ _ _ _ (.inr (.stringLiteral ..))
  · simp [undeclaredType, Node.preorder, Node.preorderIn, Node.isBlank, Inference.Resolved,
      Node.referenceText?]
  · intro fewer
    have length : 1 ≤ 0 := fewer.length_le
    omega

end SwarmCheck
