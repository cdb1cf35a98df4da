import SwarmCheck.Proofs.Inference
import SwarmCheck.Proofs.Rules
import SwarmCheck.Proofs.Safety

/-!
# The type pass against the typing rules

Where all references resolve, inference gives every expression the type that the rules give it,
and the type pass over a well-sorted program reports nothing exactly when the typing rule of
every node holds. Each construct is settled by itself: what it returns, and when it is quiet.
-/

namespace SwarmCheck

set_option autoImplicit false

theorem Ty.isUnknown_iff {type : Ty} : type.isUnknown = true ↔ type = .unknown := by
  cases type <;> simp [isUnknown]

namespace Typing

open Rules Pass

variable {env : Environment}

theorem mismatch_yields (site : Node) (construct expected actual : String) :
    (mismatch site construct expected actual).Yields () False :=
  ⟨rfl, by simp [mismatch, note]⟩

theorem mismatch_return_yields {α : Type} (site : Node) (construct expected actual : String)
    (value : α) :
    Yields (do
      mismatch site construct expected actual
      return value) value False :=
  ⟨rfl, by simp [mismatch, note]⟩

theorem yields_of_check {accepted : Prop} [Decidable accepted] (site : Node)
    (construct expected actual : String) :
    Yields (if accepted then pure () else mismatch site construct expected actual) ()
      accepted := by
  split
  · rename_i passes
    exact (yields_pure ()).of_iff (by simp [passes])
  · rename_i stops
    exact (mismatch_yields _ _ _ _).of_iff (by simp [stops])

theorem typeOf_yields {text : String} {type : Ty} (named : NameHasType env text type) :
    (typeOf env text).Yields type True := by
  obtain ⟨symbol, fields, refers⟩ := named
  have found := (@Environment.resolve_eq_ok_iff env text ⟨symbol, type, fields⟩).mpr refers
  rw [typeOf, found]
  exact yields_pure _

theorem checkIndex_yields (site : Node) (index : Ty) :
    (checkIndex site index).Yields () (MayIndex index) := by
  have accepted : (index.isUnknown || index = .int) = true ↔ index = .unknown ∨ index = .int := by
    simp [Ty.isUnknown_iff]
  exact (yields_of_check site _ _ _).of_iff accepted

theorem binaryType_yields (site : Node) (op : String) (left right : Ty) :
    (binaryType site op left right).Yields (operationType op left right)
      (MayCombine op left right) := by
  unfold binaryType operationType MayCombine Ty.string
  by_cases unknown : left = .unknown ∨ right = .unknown
  · have skipped : (left.isUnknown || right.isUnknown) = true := by
      simpa [Ty.isUnknown_iff] using unknown
    rw [if_pos skipped, if_pos unknown]
    exact (yields_pure _).of_iff (by simp [← or_assoc, unknown])
  · have continued : ¬ (left.isUnknown || right.isUnknown) = true := by
      simpa [Ty.isUnknown_iff] using unknown
    rw [if_neg continued, if_neg unknown, ← or_assoc]
    by_cases joined : op = "+" ∧ (left = .primitive "string" ∨ right = .primitive "string")
    · have concatenates :
          (op = "+" && (left = .primitive "string" || right = .primitive "string")) = true := by
        simpa using joined
      rw [if_pos concatenates, if_pos joined]
      exact (yields_pure _).of_iff (by simp [joined])
    · have computes :
          ¬ (op = "+" && (left = .primitive "string" || right = .primitive "string")) = true := by
        simpa using joined
      rw [if_neg computes, if_neg joined]
      by_cases same : left = right
      · simp only [same, ne_eq, not_true_eq_false, if_false]
        exact (yields_pure _).of_iff (by simp)
      · simp only [ne_eq, same, not_false_eq_true, if_true]
        exact (mismatch_return_yields _ _ _ _ _).of_iff (by simp [unknown, joined])

theorem elementType_yields (site : Node) (name : String) (type : Ty) :
    (elementType site name type).Yields (elementOf type) (∃ inner, type = .array inner) := by
  cases type with
  | array inner => exact (yields_pure _).of_iff (by simp)
  | primitive name => exact (mismatch_return_yields _ _ _ _ _).of_iff (by simp)
  | record name => exact (mismatch_return_yields _ _ _ _ _).of_iff (by simp)
  | unknown => exact (mismatch_return_yields _ _ _ _ _).of_iff (by simp)

theorem checkTarget_yields (site : Node) (target : String) (indexed : Bool) (type actual : Ty) :
    (checkTarget site target indexed type actual).Yields ()
      (type = if indexed then .array actual else actual) := by
  cases indexed with
  | false => exact (yields_of_check site _ _ _).of_iff (by simp)
  | true =>
      cases type with
      | array inner => exact (yields_of_check site _ _ _).of_iff (by simp)
      | primitive name => exact (mismatch_yields _ _ _ _).of_iff (by simp)
      | record name => exact (mismatch_yields _ _ _ _).of_iff (by simp)
      | unknown => exact (mismatch_yields _ _ _ _).of_iff (by simp)

end Typing

namespace Inference

open Rules Pass Typing

variable {env : Environment}

/-- All references of the nodes resolve. -/
def Resolved (env : Environment) (nodes : List Node) : Prop :=
  ∀ node ∈ nodes, ∀ text, node.referenceText? = some text →
    ∃ resolution, env.resolve text = .ok resolution

/-- The typing rules of the nodes hold. -/
def RulesHold (env : Environment) (nodes : List Node) : Prop :=
  ∀ node ∈ nodes, WellTyped env node

section Lists

variable {node : Node} {nodes others : List Node}

theorem resolved_cons : Resolved env (node :: nodes) ↔
    (∀ text, node.referenceText? = some text →
      ∃ resolution, env.resolve text = .ok resolution) ∧ Resolved env nodes :=
  List.forall_mem_cons

theorem resolved_append :
    Resolved env (nodes ++ others) ↔ Resolved env nodes ∧ Resolved env others :=
  List.forall_mem_append

theorem resolved_preorderIn : Resolved env (Node.preorderIn nodes) ↔
    ∀ node ∈ nodes, node.isBlank = false → Resolved env node.preorder :=
  Node.forall_mem_preorderIn

theorem rulesHold_nil : RulesHold env [] ↔ True := by simp [RulesHold]

theorem rulesHold_singleton : RulesHold env [node] ↔ WellTyped env node :=
  List.forall_mem_singleton

theorem rulesHold_cons :
    RulesHold env (node :: nodes) ↔ WellTyped env node ∧ RulesHold env nodes :=
  List.forall_mem_cons

theorem rulesHold_append :
    RulesHold env (nodes ++ others) ↔ RulesHold env nodes ∧ RulesHold env others :=
  List.forall_mem_append

theorem rulesHold_preorderIn : RulesHold env (Node.preorderIn nodes) ↔
    ∀ node ∈ nodes, node.isBlank = false → RulesHold env node.preorder :=
  Node.forall_mem_preorderIn

end Lists

section Single

variable {op name target typeName : String} {left right index value initial : Node}
  {leftType rightType indexType valueType type : Ty} {isRecord : Bool} {dims : Int}
  {position : Option Position}

theorem wellTyped_binary_iff (leftTyped : HasType env left leftType)
    (rightTyped : HasType env right rightType) :
    WellTyped env (.binary op left right position) ↔ MayCombine op leftType rightType := by
  simp only [WellTyped, exists_and_left, leftTyped.exists_and_iff, rightTyped.exists_and_iff]

theorem wellTyped_element_iff (taken : index ≠ .hole) (indexTyped : HasType env index indexType)
    (named : NameHasType env name type) :
    WellTyped env (.reference name index position) ↔
      MayIndex indexType ∧ ∃ inner, type = .array inner := by
  simp only [WellTyped, indexTyped.exists_and_iff, named.iff_eq]
  exact ⟨fun rule => rule taken, fun rule _ => rule⟩

theorem wellTyped_assign_iff (valueTyped : HasType env value valueType)
    (named : NameHasType env target type) :
    WellTyped env (.assign target .hole value position) ↔
      valueType = .unknown ∨ type = valueType := by
  simp only [WellTyped, valueTyped.exists_and_iff, named.iff_eq]
  constructor
  · rintro ⟨-, unknown | ⟨-, fits⟩ | ⟨taken, -⟩⟩
    · exact .inl unknown
    · exact .inr fits
    · exact absurd rfl taken
  · intro rule
    exact ⟨fun taken => absurd rfl taken, rule.imp_right fun fits => .inl ⟨trivial, fits⟩⟩

theorem wellTyped_assign_element_iff (taken : index ≠ .hole)
    (indexTyped : HasType env index indexType) (valueTyped : HasType env value valueType)
    (named : NameHasType env target type) :
    WellTyped env (.assign target index value position) ↔
      MayIndex indexType ∧ (valueType = .unknown ∨ type = .array valueType) := by
  simp only [WellTyped, indexTyped.exists_and_iff, valueTyped.exists_and_iff, named.iff_eq]
  constructor
  · rintro ⟨indexed, unknown | ⟨empty, -⟩ | ⟨-, fits⟩⟩
    · exact ⟨indexed taken, .inl unknown⟩
    · exact absurd empty taken
    · exact ⟨indexed taken, .inr fits⟩
  · rintro ⟨indexed, rule⟩
    exact ⟨fun _ => indexed, rule.imp_right fun fits => .inr ⟨taken, fits⟩⟩

theorem wellTyped_decl_iff (taken : initial ≠ .hole) (initialTyped : HasType env initial type) :
    WellTyped env (.decl name typeName isRecord dims initial position) ↔
      type = .unknown ∨ type = namedType typeName isRecord dims := by
  simp only [WellTyped, initialTyped.exists_and_iff]
  exact ⟨fun rule => rule taken, fun rule _ => rule⟩

end Single

theorem exists_nameHasType {node : Node} {name : String}
    (mentioned : node.referenceText? = some name)
    (resolved : ∀ text, node.referenceText? = some text →
      ∃ resolution, env.resolve text = .ok resolution) : ∃ type, NameHasType env name type := by
  obtain ⟨resolution, found⟩ := resolved name mentioned
  exact ⟨_, _, _, Environment.resolve_eq_ok_iff.mp found⟩

/-- A node is inferred to have the type that the rules give it, and nothing is reported exactly when
the rules hold throughout. -/
def InfersByRules (env : Environment) (node : Node) : Prop :=
  ∃ type, HasType env node type ∧ (infer env node).Yields type (RulesHold env node.preorder)

theorem inferEach_yields {nodes : List Node}
    (present : ∀ node ∈ nodes, node.isBlank = false)
    (each : ∀ node ∈ nodes, InfersByRules env node) :
    (inferEach env nodes).Yields () (RulesHold env (Node.preorderIn nodes)) := by
  induction nodes with
  | nil => exact (yields_pure ()).of_iff rulesHold_nil.symm
  | cons node rest ih =>
      have later := ih (fun other member => present other (by simp [member]))
        (fun other member => each other (by simp [member]))
      have shown := present node (by simp)
      obtain ⟨type, _, yields⟩ := each node (by simp)
      rw [inferEach]
      refine (yields.bind later).of_iff ?_
      rw [Node.preorderIn, shown, rulesHold_append]
      rfl

theorem hasType_constant (kind : ConstantKind) (text : String) (position : Option Position)
    (parenthesised : Bool) :
    HasType env (.constant kind text position parenthesised) (constantType kind) := by
  cases kind with
  | float => exact .fraction ..
  | _ => exact .number (by decide) ..

theorem infer_yields {node : Node} (sorted : Expression node)
    (resolved : Resolved env node.preorder) : InfersByRules env node := by
  induction sorted with
  | constant kind text position parenthesised =>
      refine ⟨_, hasType_constant kind text position parenthesised, (yields_pure _).of_iff ?_⟩
      rw [Node.preorder, rulesHold_singleton]
      rfl
  | stringLiteral value position =>
      refine ⟨_, .stringLiteral value position, (yields_pure _).of_iff ?_⟩
      rw [Node.preorder, rulesHold_singleton]
      rfl
  | reference name position =>
      rw [Node.preorder, resolved_cons] at resolved
      obtain ⟨type, named⟩ := exists_nameHasType rfl resolved.1
      refine ⟨type, .reference position named, (typeOf_yields named).of_iff ?_⟩
      rw [Node.preorder, Node.preorder, rulesHold_singleton]
      exact ⟨fun _ taken => absurd rfl taken, fun _ => trivial⟩
  | @element name index position sortedIndex ih =>
      rw [Node.preorder, resolved_cons] at resolved
      have taken := sortedIndex.ne_hole
      obtain ⟨indexType, indexTyped, indexYields⟩ := ih resolved.2
      obtain ⟨type, named⟩ := exists_nameHasType rfl resolved.1
      refine ⟨elementOf type, .element position taken named, ?_⟩
      simp only [infer, sortedIndex.not_hole, Bool.false_eq_true, if_false]
      refine (indexYields.bind ((typeOf_yields named).bind
        ((checkIndex_yields _ _).bind (elementType_yields _ _ _)))).of_iff ?_
      rw [Node.preorder, rulesHold_cons, wellTyped_element_iff taken indexTyped named]
      constructor
      · rintro ⟨below, -, rule⟩
        exact ⟨rule, below⟩
      · rintro ⟨rule, below⟩
        exact ⟨below, trivial, rule⟩
  | call name position sortedArgs ih =>
      rw [Node.preorder, resolved_cons, resolved_preorderIn] at resolved
      have args := inferEach_yields (fun arg member => (sortedArgs arg member).not_blank)
        (fun arg member => ih arg member
          (resolved.2 arg member (sortedArgs arg member).not_blank))
      refine ⟨.unknown, .call .., ?_⟩
      rw [infer, Node.preorder, rulesHold_cons]
      exact (args.bind (yields_pure Ty.unknown)).of_iff
        ⟨fun holds => ⟨trivial, holds.1⟩, fun holds => ⟨holds.2, trivial⟩⟩
  | binary op position sortedLeft sortedRight leftIh rightIh =>
      rw [Node.preorder, resolved_cons, resolved_append] at resolved
      obtain ⟨leftType, leftTyped, leftYields⟩ := leftIh resolved.2.1
      obtain ⟨rightType, rightTyped, rightYields⟩ := rightIh resolved.2.2
      refine ⟨_, .binary op position leftTyped rightTyped, ?_⟩
      rw [infer, Node.preorder, rulesHold_cons, rulesHold_append,
        wellTyped_binary_iff leftTyped rightTyped]
      refine (leftYields.bind (rightYields.bind (binaryType_yields _ _ _ _))).of_iff ?_
      constructor
      · rintro ⟨belowLeft, belowRight, rule⟩
        exact ⟨rule, belowLeft, belowRight⟩
      · rintro ⟨rule, belowLeft, belowRight⟩
        exact ⟨belowLeft, belowRight, rule⟩
  | logical op position sortedOperands ih =>
      rw [Node.preorder, resolved_cons, resolved_preorderIn] at resolved
      have operands := inferEach_yields
        (fun operand member => (sortedOperands operand member).not_blank)
        (fun operand member => ih operand member
          (resolved.2 operand member (sortedOperands operand member).not_blank))
      refine ⟨.bool, .logical .., ?_⟩
      rw [infer, Node.preorder, rulesHold_cons]
      exact (operands.bind (yields_pure Ty.bool)).of_iff
        ⟨fun holds => ⟨trivial, holds.1⟩, fun holds => ⟨holds.2, trivial⟩⟩
  | flag name position =>
      rw [Node.preorder, resolved_cons] at resolved
      obtain ⟨type, named⟩ := exists_nameHasType rfl resolved.1
      refine ⟨type, .flag position named, ?_⟩
      rw [infer]
      refine (typeOf_yields named).of_iff ?_
      rw [Node.preorder, rulesHold_singleton]
      rfl

theorem inferOptional_yields {place : Node} (sorted : Expression place)
    (resolved : Resolved env place.preorder) :
    ∃ type, HasType env place type ∧
      (inferOptional env place).Yields (some type) (RulesHold env place.preorder) := by
  obtain ⟨type, typed, yields⟩ := infer_yields sorted resolved
  refine ⟨type, typed, ?_⟩
  simp only [inferOptional, sorted.not_hole, Bool.false_eq_true, if_false]
  exact (yields.bind (yields_pure (some type))).of_iff
    ⟨fun holds => holds.1, fun holds => ⟨holds, trivial⟩⟩

theorem inferOptional_hole_yields :
    (inferOptional env .hole).Yields none (RulesHold env (Node.preorder .hole)) :=
  (yields_pure none).of_iff rulesHold_nil.symm

/-- The second half of an assignment: a value of known type has to fit its target. -/
theorem checkFit_yields {target : String} {type : Ty} (named : NameHasType env target type)
    (site : Node) (indexed : Bool) (actual : Ty) :
    Yields (if actual.isUnknown then pure () else do
        let type ← typeOf env target
        checkTarget site target indexed type actual) ()
      (actual = .unknown ∨ type = if indexed then .array actual else actual) := by
  by_cases unknown : actual = .unknown
  · rw [if_pos (Ty.isUnknown_iff.mpr unknown)]
    exact (yields_pure ()).of_iff ⟨fun _ => .inl unknown, fun _ => trivial⟩
  · have known : ¬ actual.isUnknown = true := fun holds => unknown (Ty.isUnknown_iff.mp holds)
    rw [if_neg known]
    refine ((typeOf_yields named).bind (checkTarget_yields site target indexed _ actual)).of_iff ?_
    constructor
    · exact fun holds => .inr holds.2
    · exact fun holds => ⟨trivial, holds.resolve_left unknown⟩

theorem checkAssign_yields {target : String} {index value : Node} {position : Option Position}
    (sortedIndex : OptionalExpression index) (sortedValue : Expression value)
    (resolved : Resolved env (Node.assign target index value position).preorder) :
    (checkAssign env (.assign target index value position) target index value).Yields ()
      (RulesHold env (Node.assign target index value position).preorder) := by
  rw [Node.preorder, resolved_cons, resolved_append] at resolved
  rw [Node.preorder, rulesHold_cons, rulesHold_append]
  obtain ⟨type, named⟩ := exists_nameHasType rfl resolved.1
  obtain ⟨valueType, valueTyped, valueYields⟩ := infer_yields sortedValue resolved.2.2
  rcases sortedIndex with empty | sorted
  · subst empty
    rw [wellTyped_assign_iff valueTyped named]
    refine (inferOptional_hole_yields.bind (valueYields.bind ((yields_pure ()).bind
      (checkFit_yields named _ false _)))).of_iff ?_
    constructor
    · rintro ⟨belowIndex, belowValue, -, rule⟩
      exact ⟨rule, belowIndex, belowValue⟩
    · rintro ⟨rule, belowIndex, belowValue⟩
      exact ⟨belowIndex, belowValue, trivial, rule⟩
  · obtain ⟨indexType, indexTyped, indexYields⟩ := inferOptional_yields sorted resolved.2.1
    rw [wellTyped_assign_element_iff sorted.ne_hole indexTyped valueTyped named]
    refine (indexYields.bind (valueYields.bind ((checkIndex_yields _ _).bind
      (checkFit_yields named _ true _)))).of_iff ?_
    constructor
    · rintro ⟨belowIndex, belowValue, rule⟩
      exact ⟨rule, belowIndex, belowValue⟩
    · rintro ⟨rule, belowIndex, belowValue⟩
      exact ⟨belowIndex, belowValue, rule⟩

theorem checkStatements_eq_forM (nodes : List Node) :
    checkStatements env nodes = forM nodes (checkStatement env) := by
  induction nodes with
  | nil => simp [checkStatements]
  | cons node rest ih => rw [checkStatements, List.forM_cons, ih]

theorem yields_forM_nodes {nodes : List Node} {check : Node → Pass Unit}
    (present : ∀ node ∈ nodes, node.isBlank = false)
    (each : ∀ node ∈ nodes, (check node).Yields () (RulesHold env node.preorder)) :
    Yields (forM nodes check) () (RulesHold env (Node.preorderIn nodes)) := by
  refine (yields_forM each).of_iff ?_
  rw [rulesHold_preorderIn]
  constructor
  · intro holds node member _
    exact holds node member
  · intro holds node member
    exact holds node member (present node member)

theorem checkStatement_yields {node : Node} (sorted : Statement node)
    (resolved : Resolved env node.preorder) :
    (checkStatement env node).Yields () (RulesHold env node.preorder) := by
  induction sorted with
  | call name position sortedArgs =>
      obtain ⟨type, _, yields⟩ := infer_yields (.call name position sortedArgs) resolved
      simp only [checkStatement]
      exact (yields.bind (yields_pure ())).of_iff
        ⟨fun holds => holds.1, fun holds => ⟨holds, trivial⟩⟩
  | assign target position sortedIndex sortedValue =>
      rw [checkStatement]
      exact checkAssign_yields sortedIndex sortedValue resolved
  | stream channel position =>
      rw [Node.preorder, resolved_cons] at resolved
      rw [checkStatement, Node.preorder, rulesHold_singleton]
      cases channel with
      | none => exact yields_pure ()
      | some channel =>
          obtain ⟨type, named⟩ := exists_nameHasType rfl resolved.1
          refine ((typeOf_yields named).bind (yields_of_check _ _ _ _)).of_iff ?_
          rw [WellTyped, named.iff_eq]
          exact ⟨fun holds => holds.2, fun holds => ⟨trivial, holds⟩⟩
  | conditional position sortedCondition sortedThen sortedElse thenIh elseIh =>
      rw [Node.preorder, resolved_cons, resolved_append, resolved_append, resolved_preorderIn,
        resolved_preorderIn] at resolved
      obtain ⟨-, condition, thenBody, elseBody⟩ := resolved
      have thenPresent := fun statement member => (sortedThen statement member).not_blank
      have elsePresent := fun statement member => (sortedElse statement member).not_blank
      have thenYields := yields_forM_nodes thenPresent fun statement member =>
        thenIh statement member (thenBody statement member (thenPresent statement member))
      have elseYields := yields_forM_nodes elsePresent fun statement member =>
        elseIh statement member (elseBody statement member (elsePresent statement member))
      obtain ⟨type, _, conditionYields⟩ := infer_yields sortedCondition condition
      rw [checkStatement, checkStatements_eq_forM, checkStatements_eq_forM, Node.preorder,
        rulesHold_cons, rulesHold_append, rulesHold_append]
      refine (conditionYields.bind (thenYields.bind elseYields)).of_iff ?_
      exact ⟨fun holds => ⟨trivial, holds⟩, fun holds => holds.2⟩

theorem checkInitial_yields {typeName : String} {isRecord : Bool} {dims : Int} {type : Ty}
    (known : declaredType typeName isRecord dims = .ok type) (site : Node) (name : String)
    (actual : Ty) :
    (checkInitial site name typeName isRecord dims (some actual)).Yields ()
      (actual = .unknown ∨ actual = namedType typeName isRecord dims) := by
  have named := namedType_of_declaredType known
  subst named
  cases actual with
  | unknown => exact (yields_pure ()).of_iff ⟨fun _ => .inl rfl, fun _ => trivial⟩
  | primitive name =>
      simp only [checkInitial, known]
      exact (yields_of_check _ _ _ _).of_iff (by simp [eq_comm])
  | array inner =>
      simp only [checkInitial, known]
      exact (yields_of_check _ _ _ _).of_iff (by simp [eq_comm])
  | record name =>
      simp only [checkInitial, known]
      exact (yields_of_check _ _ _ _).of_iff (by simp [eq_comm])

theorem checkDecl_yields {node : Node} (sorted : VariableDecl node) (known : node.TypeKnown)
    (resolved : Resolved env node.preorder) :
    (checkDecl env node).Yields () (RulesHold env node.preorder) := by
  cases sorted with
  | @decl name typeName isRecord dims initial position sortedInitial =>
      rw [Node.preorder, resolved_cons] at resolved
      obtain ⟨type, declared⟩ := known
      rw [checkDecl, Node.preorder, rulesHold_cons]
      rcases sortedInitial with empty | sorted
      · subst empty
        refine (inferOptional_hole_yields.bind (yields_pure ())).of_iff ?_
        exact ⟨fun holds => ⟨fun taken => absurd rfl taken, holds.1⟩,
          fun holds => ⟨holds.2, trivial⟩⟩
      · obtain ⟨actual, typed, initialYields⟩ := inferOptional_yields sorted resolved.2
        rw [wellTyped_decl_iff sorted.ne_hole typed]
        refine (initialYields.bind (checkInitial_yields declared _ name _)).of_iff ?_
        exact ⟨fun holds => ⟨holds.2, holds.1⟩, fun holds => ⟨holds.2, holds.1⟩⟩

def TypesKnown (nodes : List Node) : Prop := ∀ node ∈ nodes, node.TypeKnown

theorem checkDecls_yields {decls : List Node} (sorted : ∀ entry ∈ decls, VariableDecl entry)
    (known : TypesKnown (Node.preorderIn decls))
    (resolved : Resolved env (Node.preorderIn decls)) :
    Yields (forM decls (checkDecl env)) () (RulesHold env (Node.preorderIn decls)) := by
  rw [resolved_preorderIn] at resolved
  apply yields_forM_nodes fun entry member => (sorted entry member).not_blank
  intro entry member
  have present := (sorted entry member).not_blank
  exact checkDecl_yields (sorted entry member) (known entry (Node.mem_preorderIn member present))
    (resolved entry member present)

theorem checkGroup_yields {node : Node} (sorted : DeclGroup node)
    (known : TypesKnown node.preorder) (resolved : Resolved env node.preorder) :
    (checkGroup env node).Yields () (RulesHold env node.preorder) := by
  cases sorted with
  | group kind position sortedDecls =>
      rw [Node.preorder, resolved_cons] at resolved
      rw [Node.preorder, TypesKnown, List.forall_mem_cons] at known
      rw [checkGroup, Node.preorder, rulesHold_cons]
      exact (checkDecls_yields sortedDecls known.2 resolved.2).of_iff
        ⟨fun holds => ⟨trivial, holds⟩, fun holds => holds.2⟩

theorem checkItem_yields {node : Node} (sorted : TopItem node)
    (known : TypesKnown node.preorder) (resolved : Resolved env node.preorder) :
    (checkItem env node).Yields () (RulesHold env node.preorder) := by
  cases sorted with
  | group sortedGroup =>
      have yields := checkGroup_yields sortedGroup known resolved
      cases sortedGroup
      exact yields
  | moduleBlock name position sortedGroups =>
      rw [Node.preorder, resolved_cons, resolved_preorderIn] at resolved
      rw [Node.preorder, TypesKnown, List.forall_mem_cons, Node.forall_mem_preorderIn] at known
      have present := fun entry member => (sortedGroups entry member).not_blank
      rw [checkItem, Node.preorder, rulesHold_cons]
      refine (yields_forM_nodes present fun entry member =>
        checkGroup_yields (sortedGroups entry member)
          (known.2 entry member (present entry member))
          (resolved.2 entry member (present entry member))).of_iff ?_
      exact ⟨fun holds => ⟨trivial, holds⟩, fun holds => holds.2⟩
  | record name position sortedFields =>
      rw [Node.preorder, resolved_cons] at resolved
      rw [Node.preorder, TypesKnown, List.forall_mem_cons] at known
      rw [checkItem, Node.preorder, rulesHold_cons]
      exact (checkDecls_yields sortedFields known.2 resolved.2).of_iff
        ⟨fun holds => ⟨trivial, holds⟩, fun holds => holds.2⟩
  | event name position sortedPrecondition sortedEffects =>
      rw [Node.preorder, resolved_cons, resolved_append, resolved_preorderIn] at resolved
      obtain ⟨-, precondition, effects⟩ := resolved
      have present := fun effect member => (sortedEffects effect member).not_blank
      have effectsYield := yields_forM_nodes present fun effect member =>
        checkStatement_yields (sortedEffects effect member)
          (effects effect member (present effect member))
      rw [checkItem, checkStatements_eq_forM, Node.preorder, rulesHold_cons, rulesHold_append]
      rcases sortedPrecondition with empty | sorted
      · subst empty
        exact (inferOptional_hole_yields.bind effectsYield).of_iff
          ⟨fun holds => ⟨trivial, holds⟩, fun holds => holds.2⟩
      · obtain ⟨type, _, preconditionYields⟩ := inferOptional_yields sorted precondition
        exact (preconditionYields.bind effectsYield).of_iff
          ⟨fun holds => ⟨trivial, holds⟩, fun holds => holds.2⟩

/-- Where references resolve and types are known, a well-sorted program passes the recursive type
check without a report exactly when the typing rule of each of its nodes holds. -/
theorem check_yields {program : Node} (sorted : WellSorted program)
    (known : TypesKnown program.preorder) (resolved : Resolved env program.preorder) :
    (check env program).Yields () (RulesHold env program.preorder) := by
  cases sorted with
  | program name position sortedItems =>
      rw [Node.preorder, resolved_cons, resolved_preorderIn] at resolved
      rw [Node.preorder, TypesKnown, List.forall_mem_cons, Node.forall_mem_preorderIn] at known
      have present := fun item member => (sortedItems item member).not_blank
      rw [check, Node.preorder, rulesHold_cons]
      refine (yields_forM_nodes present fun item member =>
        checkItem_yields (sortedItems item member)
          (known.2 item member (present item member))
          (resolved.2 item member (present item member))).of_iff ?_
      exact ⟨fun holds => ⟨trivial, holds⟩, fun holds => holds.2⟩

end Inference

end SwarmCheck
