import SwarmCheck.Proofs.Trees

/-!
# Well-sorted programs

Any node may stand in any place of a tree. In a well-sorted program each stands in its own:
items at the top, groups in modules, declarations in groups and records, statements in events
and conditionals, expressions below them. A place is empty only where something may be left out,
which is an index, an initial value and a precondition; a stream statement may also leave out
its channel.
-/

namespace SwarmCheck

set_option autoImplicit false

inductive Expression : Node → Prop
  | constant (kind : ConstantKind) (text : String) (position : Option Position)
      (parenthesised : Bool) : Expression (.constant kind text position parenthesised)
  | stringLiteral (value : String) (position : Option Position) :
      Expression (.stringLiteral value position)
  | reference (name : String) (position : Option Position) :
      Expression (.reference name .hole position)
  | element (name : String) {index : Node} (position : Option Position)
      (sortedIndex : Expression index) : Expression (.reference name index position)
  | call (name : String) {args : List Node} (position : Option Position)
      (sortedArgs : ∀ arg ∈ args, Expression arg) : Expression (.call name args position)
  | binary (op : String) {left right : Node} (position : Option Position)
      (sortedLeft : Expression left) (sortedRight : Expression right) :
      Expression (.binary op left right position)
  | logical (op : String) {operands : List Node} (position : Option Position)
      (sortedOperands : ∀ operand ∈ operands, Expression operand) :
      Expression (.logical op operands position)
  | flag (name : String) (position : Option Position) : Expression (.flag name position)

def OptionalExpression (place : Node) : Prop := place = .hole ∨ Expression place

inductive Statement : Node → Prop
  | call (name : String) {args : List Node} (position : Option Position)
      (sortedArgs : ∀ arg ∈ args, Expression arg) : Statement (.call name args position)
  | assign (target : String) {index value : Node} (position : Option Position)
      (sortedIndex : OptionalExpression index) (sortedValue : Expression value) :
      Statement (.assign target index value position)
  | stream (channel : Option String) (position : Option Position) :
      Statement (.stream channel position)
  | conditional {condition : Node} {thenBody elseBody : List Node} (position : Option Position)
      (sortedCondition : Expression condition)
      (sortedThen : ∀ statement ∈ thenBody, Statement statement)
      (sortedElse : ∀ statement ∈ elseBody, Statement statement) :
      Statement (.conditional condition thenBody elseBody position)

inductive VariableDecl : Node → Prop
  | decl (name typeName : String) (isRecord : Bool) (dims : Int) {initial : Node}
      (position : Option Position) (sortedInitial : OptionalExpression initial) :
      VariableDecl (.decl name typeName isRecord dims initial position)

inductive DeclGroup : Node → Prop
  | group (kind : GroupKind) {decls : List Node} (position : Option Position)
      (sortedDecls : ∀ entry ∈ decls, VariableDecl entry) :
      DeclGroup (.group kind decls position)

inductive TopItem : Node → Prop
  | group {node : Node} (sortedGroup : DeclGroup node) : TopItem node
  | moduleBlock (name : String) {groups : List Node} (position : Option Position)
      (sortedGroups : ∀ entry ∈ groups, DeclGroup entry) :
      TopItem (.moduleBlock name groups position)
  | record (name : String) {fields : List Node} (position : Option Position)
      (sortedFields : ∀ field ∈ fields, VariableDecl field) :
      TopItem (.record name fields position)
  | event (name : String) {precondition : Node} {effects : List Node}
      (position : Option Position) (sortedPrecondition : OptionalExpression precondition)
      (sortedEffects : ∀ effect ∈ effects, Statement effect) :
      TopItem (.event name precondition effects position)

inductive WellSorted : Node → Prop
  | program (name : String) {items : List Node} (position : Option Position)
      (sortedItems : ∀ item ∈ items, TopItem item) : WellSorted (.program name items position)

section Presence

variable {node : Node}

theorem Expression.not_blank (sorted : Expression node) : node.isBlank = false := by
  cases sorted <;> rfl

theorem Expression.not_hole (sorted : Expression node) : node.isHole = false := by
  cases sorted <;> rfl

theorem Expression.ne_hole (sorted : Expression node) : node ≠ .hole := by
  intro empty
  rw [empty] at sorted
  cases sorted

theorem Statement.not_blank (sorted : Statement node) : node.isBlank = false := by
  cases sorted <;> rfl

theorem VariableDecl.not_blank (sorted : VariableDecl node) : node.isBlank = false := by
  cases sorted
  rfl

theorem DeclGroup.not_blank (sorted : DeclGroup node) : node.isBlank = false := by
  cases sorted
  rfl

theorem TopItem.not_blank (sorted : TopItem node) : node.isBlank = false := by
  cases sorted with
  | group sortedGroup => exact sortedGroup.not_blank
  | moduleBlock => rfl
  | record => rfl
  | event => rfl

theorem WellSorted.not_blank (sorted : WellSorted node) : node.isBlank = false := by
  cases sorted
  rfl

end Presence

inductive Sorted : Node → Prop
  | expression {node : Node} (sorted : Expression node) : Sorted node
  | statement {node : Node} (sorted : Statement node) : Sorted node
  | variableDecl {node : Node} (sorted : VariableDecl node) : Sorted node
  | item {node : Node} (sorted : TopItem node) : Sorted node
  | program {node : Node} (sorted : WellSorted node) : Sorted node

section Below

variable {node : Node}

theorem Expression.all_below (sorted : Expression node) :
    ∀ inner ∈ node.preorder, Expression inner := by
  induction sorted with
  | constant kind text position parenthesised =>
      rw [Node.preorder, List.forall_mem_singleton]
      exact .constant kind text position parenthesised
  | stringLiteral value position =>
      rw [Node.preorder, List.forall_mem_singleton]
      exact .stringLiteral value position
  | reference name position =>
      rw [Node.preorder, Node.preorder, List.forall_mem_singleton]
      exact .reference name position
  | element name position sortedIndex ih =>
      rw [Node.preorder, List.forall_mem_cons]
      exact ⟨.element name position sortedIndex, ih⟩
  | call name position sortedArgs ih =>
      rw [Node.preorder, List.forall_mem_cons, Node.forall_mem_preorderIn]
      exact ⟨.call name position sortedArgs, fun arg member _ => ih arg member⟩
  | binary op position sortedLeft sortedRight leftIh rightIh =>
      rw [Node.preorder, List.forall_mem_cons, List.forall_mem_append]
      exact ⟨.binary op position sortedLeft sortedRight, leftIh, rightIh⟩
  | logical op position sortedOperands ih =>
      rw [Node.preorder, List.forall_mem_cons, Node.forall_mem_preorderIn]
      exact ⟨.logical op position sortedOperands, fun operand member _ => ih operand member⟩
  | flag name position =>
      rw [Node.preorder, List.forall_mem_singleton]
      exact .flag name position

theorem OptionalExpression.all_below (sorted : OptionalExpression node) :
    ∀ inner ∈ node.preorder, Expression inner := by
  rcases sorted with empty | sorted
  · rw [empty, Node.preorder]
    exact List.forall_mem_nil _
  · exact sorted.all_below

theorem Statement.all_below (sorted : Statement node) :
    ∀ inner ∈ node.preorder, Sorted inner := by
  induction sorted with
  | call name position sortedArgs =>
      intro inner member
      exact .expression (Expression.all_below (.call name position sortedArgs) inner member)
  | assign target position sortedIndex sortedValue =>
      rw [Node.preorder, List.forall_mem_cons, List.forall_mem_append]
      exact ⟨.statement (.assign target position sortedIndex sortedValue),
        fun inner member => .expression (sortedIndex.all_below inner member),
        fun inner member => .expression (sortedValue.all_below inner member)⟩
  | stream channel position =>
      rw [Node.preorder, List.forall_mem_singleton]
      exact .statement (.stream channel position)
  | conditional position sortedCondition sortedThen sortedElse thenIh elseIh =>
      rw [Node.preorder, List.forall_mem_cons, List.forall_mem_append, List.forall_mem_append,
        Node.forall_mem_preorderIn, Node.forall_mem_preorderIn]
      exact ⟨.statement (.conditional position sortedCondition sortedThen sortedElse),
        fun inner member => .expression (sortedCondition.all_below inner member),
        fun statement member _ => thenIh statement member,
        fun statement member _ => elseIh statement member⟩

theorem VariableDecl.all_below (sorted : VariableDecl node) :
    ∀ inner ∈ node.preorder, Sorted inner := by
  cases sorted with
  | decl name typeName isRecord dims position sortedInitial =>
      rw [Node.preorder, List.forall_mem_cons]
      exact ⟨.variableDecl (.decl name typeName isRecord dims position sortedInitial),
        fun inner member => .expression (sortedInitial.all_below inner member)⟩

theorem DeclGroup.all_below (sorted : DeclGroup node) :
    ∀ inner ∈ node.preorder, Sorted inner := by
  cases sorted with
  | group kind position sortedDecls =>
      rw [Node.preorder, List.forall_mem_cons, Node.forall_mem_preorderIn]
      exact ⟨.item (.group (.group kind position sortedDecls)),
        fun entry member _ => (sortedDecls entry member).all_below⟩

theorem TopItem.all_below (sorted : TopItem node) :
    ∀ inner ∈ node.preorder, Sorted inner := by
  cases sorted with
  | group sortedGroup => exact sortedGroup.all_below
  | moduleBlock name position sortedGroups =>
      rw [Node.preorder, List.forall_mem_cons, Node.forall_mem_preorderIn]
      exact ⟨.item (.moduleBlock name position sortedGroups),
        fun entry member _ => (sortedGroups entry member).all_below⟩
  | record name position sortedFields =>
      rw [Node.preorder, List.forall_mem_cons, Node.forall_mem_preorderIn]
      exact ⟨.item (.record name position sortedFields),
        fun field member _ => (sortedFields field member).all_below⟩
  | event name position sortedPrecondition sortedEffects =>
      rw [Node.preorder, List.forall_mem_cons, List.forall_mem_append, Node.forall_mem_preorderIn]
      exact ⟨.item (.event name position sortedPrecondition sortedEffects),
        fun inner member => .expression (sortedPrecondition.all_below inner member),
        fun effect member _ => (sortedEffects effect member).all_below⟩

theorem WellSorted.all_below (sorted : WellSorted node) :
    ∀ inner ∈ node.preorder, Sorted inner := by
  cases sorted with
  | program name position sortedItems =>
      rw [Node.preorder, List.forall_mem_cons, Node.forall_mem_preorderIn]
      exact ⟨.program (.program name position sortedItems),
        fun item member _ => (sortedItems item member).all_below⟩

end Below

end SwarmCheck
