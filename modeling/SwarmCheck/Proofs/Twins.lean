import Mathlib.Data.List.Forall2
import SwarmCheck.Proofs.Trees

/-!
# Twin trees

Twins are trees of one shape that agree in every name and type that an analysis goes by. They may
differ in what it does not go by: in positions, in the wording of constants, strings, conditions,
calls, events and programs, and in the parentheses around constants. How far corresponding nodes
differ is up to a link between them, so one notion serves wherever two trees are compared node by
node.
-/

namespace SwarmCheck

set_option autoImplicit false

namespace Node

/-- What a node says in words that no phase goes by. -/
def wording : Node → String
  | constant _ text _ _ => text
  | stringLiteral value _ => value
  | call name _ _ => name
  | logical op _ _ => op
  | event name _ _ _ => name
  | program name _ _ => name
  | _ => ""

def isAssign : Node → Bool
  | assign .. => true
  | _ => false

inductive Twin (link : Node → Node → Prop) : Node → Node → Prop
  | hole : Twin link .hole .hole
  | stray (found : Stray) : Twin link (.stray found) (.stray found)
  | bundle (serial : Nat) {parts parts' : List Node}
      (inner : List.Forall₂ (Twin link) parts parts') :
      Twin link (.bundle serial parts) (.bundle serial parts')
  | otherwise {statements statements' : List Node}
      (inner : List.Forall₂ (Twin link) statements statements') :
      Twin link (.otherwise statements) (.otherwise statements')
  | constant {kind : ConstantKind} {text text' : String} {position position' : Option Position}
      {parenthesised parenthesised' : Bool}
      (linked : link (.constant kind text position parenthesised)
        (.constant kind text' position' parenthesised')) :
      Twin link (.constant kind text position parenthesised)
        (.constant kind text' position' parenthesised')
  | stringLiteral {value value' : String} {position position' : Option Position}
      (linked : link (.stringLiteral value position) (.stringLiteral value' position')) :
      Twin link (.stringLiteral value position) (.stringLiteral value' position')
  | reference {name : String} {index index' : Node} {position position' : Option Position}
      (linked : link (.reference name index position) (.reference name index' position'))
      (innerIndex : Twin link index index') :
      Twin link (.reference name index position) (.reference name index' position')
  | call {name name' : String} {args args' : List Node} {position position' : Option Position}
      (linked : link (.call name args position) (.call name' args' position'))
      (inner : List.Forall₂ (Twin link) args args') :
      Twin link (.call name args position) (.call name' args' position')
  | binary {op : String} {left left' right right' : Node} {position position' : Option Position}
      (linked : link (.binary op left right position) (.binary op left' right' position'))
      (innerLeft : Twin link left left') (innerRight : Twin link right right') :
      Twin link (.binary op left right position) (.binary op left' right' position')
  | logical {op op' : String} {operands operands' : List Node}
      {position position' : Option Position}
      (linked : link (.logical op operands position) (.logical op' operands' position'))
      (inner : List.Forall₂ (Twin link) operands operands') :
      Twin link (.logical op operands position) (.logical op' operands' position')
  | flag {name : String} {position position' : Option Position}
      (linked : link (.flag name position) (.flag name position')) :
      Twin link (.flag name position) (.flag name position')
  | assign {target : String} {index index' value value' : Node}
      {position position' : Option Position}
      (linked : link (.assign target index value position)
        (.assign target index' value' position'))
      (innerIndex : Twin link index index') (innerValue : Twin link value value') :
      Twin link (.assign target index value position) (.assign target index' value' position')
  | stream {channel : Option String} {position position' : Option Position}
      (linked : link (.stream channel position) (.stream channel position')) :
      Twin link (.stream channel position) (.stream channel position')
  | conditional {condition condition' : Node} {thenBody thenBody' elseBody elseBody' : List Node}
      {position position' : Option Position}
      (linked : link (.conditional condition thenBody elseBody position)
        (.conditional condition' thenBody' elseBody' position'))
      (innerCondition : Twin link condition condition')
      (innerThen : List.Forall₂ (Twin link) thenBody thenBody')
      (innerElse : List.Forall₂ (Twin link) elseBody elseBody') :
      Twin link (.conditional condition thenBody elseBody position)
        (.conditional condition' thenBody' elseBody' position')
  | decl {name typeName : String} {isRecord : Bool} {dims : Int} {initial initial' : Node}
      {position position' : Option Position}
      (linked : link (.decl name typeName isRecord dims initial position)
        (.decl name typeName isRecord dims initial' position'))
      (innerInitial : Twin link initial initial') :
      Twin link (.decl name typeName isRecord dims initial position)
        (.decl name typeName isRecord dims initial' position')
  | group {kind : GroupKind} {decls decls' : List Node} {position position' : Option Position}
      (linked : link (.group kind decls position) (.group kind decls' position'))
      (inner : List.Forall₂ (Twin link) decls decls') :
      Twin link (.group kind decls position) (.group kind decls' position')
  | moduleBlock {name : String} {groups groups' : List Node} {position position' : Option Position}
      (linked : link (.moduleBlock name groups position) (.moduleBlock name groups' position'))
      (inner : List.Forall₂ (Twin link) groups groups') :
      Twin link (.moduleBlock name groups position) (.moduleBlock name groups' position')
  | record {name : String} {fields fields' : List Node} {position position' : Option Position}
      (linked : link (.record name fields position) (.record name fields' position'))
      (inner : List.Forall₂ (Twin link) fields fields') :
      Twin link (.record name fields position) (.record name fields' position')
  | event {name name' : String} {precondition precondition' : Node} {effects effects' : List Node}
      {position position' : Option Position}
      (linked : link (.event name precondition effects position)
        (.event name' precondition' effects' position'))
      (innerPrecondition : Twin link precondition precondition')
      (inner : List.Forall₂ (Twin link) effects effects') :
      Twin link (.event name precondition effects position)
        (.event name' precondition' effects' position')
  | program {name name' : String} {items items' : List Node} {position position' : Option Position}
      (linked : link (.program name items position) (.program name' items' position'))
      (inner : List.Forall₂ (Twin link) items items') :
      Twin link (.program name items position) (.program name' items' position')

namespace Twin

variable {link : Node → Node → Prop} {first second : Node}

section Kinds

theorem isHole_eq (twin : Twin link first second) : first.isHole = second.isHole := by
  cases twin <;> rfl

theorem isBlank_eq (twin : Twin link first second) : first.isBlank = second.isBlank := by
  cases twin <;> rfl

theorem isDecl_eq (twin : Twin link first second) : first.isDecl = second.isDecl := by
  cases twin <;> rfl

theorem isGroup_eq (twin : Twin link first second) : first.isGroup = second.isGroup := by
  cases twin <;> rfl

theorem isCondition_eq (twin : Twin link first second) :
    first.isCondition = second.isCondition := by
  cases twin <;> rfl

theorem isAssign_eq (twin : Twin link first second) : first.isAssign = second.isAssign := by
  cases twin <;> rfl

theorem referenceText?_eq (twin : Twin link first second) :
    first.referenceText? = second.referenceText? := by
  cases twin <;> rfl

theorem name?_isSome_eq (twin : Twin link first second) :
    first.name?.isSome = second.name?.isSome := by
  cases twin <;> rfl

end Kinds

theorem linked (twin : Twin link first second) (present : first.isBlank = false) :
    link first second := by
  cases twin <;> first | assumption | cases present

section Walks

variable {nodes others : List Node}

theorem filter (twins : List.Forall₂ (Twin link) nodes others) {keep : Node → Bool}
    (kept : ∀ {node other}, Twin link node other → keep node = keep other) :
    List.Forall₂ (Twin link) (nodes.filter keep) (others.filter keep) := by
  apply List.rel_filter _ twins
  intro node other twin
  dsimp only
  rw [kept twin]

theorem preorderIn_of_each (twins : List.Forall₂ (Twin link) nodes others)
    (each : ∀ node ∈ nodes, ∀ other, Twin link node other →
      List.Forall₂ (Twin link) node.preorder other.preorder) :
    List.Forall₂ (Twin link) (preorderIn nodes) (preorderIn others) := by
  induction twins with
  | nil => exact .nil
  | @cons node other _ _ twin _ ih =>
      rw [preorderIn, preorderIn, ← twin.isBlank_eq]
      apply List.rel_append _ (ih fun later member => each later (by simp [member]))
      split
      · exact .nil
      · exact each node (by simp) other twin

theorem preorder (twin : Twin link first second) :
    List.Forall₂ (Twin link) first.preorder second.preorder := by
  induction first generalizing second with
  | hole =>
      cases twin
      exact .nil
  | stray found =>
      cases twin
      exact .nil
  | bundle serial parts ih =>
      cases twin with
      | bundle serial inner => exact preorderIn_of_each inner ih
  | otherwise statements ih =>
      cases twin
      exact .nil
  | constant kind text position parenthesised =>
      cases twin with
      | constant linked => exact .cons (.constant linked) .nil
  | stringLiteral value position =>
      cases twin with
      | stringLiteral linked => exact .cons (.stringLiteral linked) .nil
  | reference name index position ih =>
      cases twin with
      | reference linked innerIndex => exact .cons (.reference linked innerIndex) (ih innerIndex)
  | call name args position ih =>
      cases twin with
      | call linked inner => exact .cons (.call linked inner) (preorderIn_of_each inner ih)
  | binary op left right position leftIh rightIh =>
      cases twin with
      | binary linked innerLeft innerRight =>
          exact .cons (.binary linked innerLeft innerRight)
            (List.rel_append (leftIh innerLeft) (rightIh innerRight))
  | logical op operands position ih =>
      cases twin with
      | logical linked inner => exact .cons (.logical linked inner) (preorderIn_of_each inner ih)
  | flag name position =>
      cases twin with
      | flag linked => exact .cons (.flag linked) .nil
  | assign target index value position indexIh valueIh =>
      cases twin with
      | assign linked innerIndex innerValue =>
          exact .cons (.assign linked innerIndex innerValue)
            (List.rel_append (indexIh innerIndex) (valueIh innerValue))
  | stream channel position =>
      cases twin with
      | stream linked => exact .cons (.stream linked) .nil
  | conditional condition thenBody elseBody position conditionIh thenIh elseIh =>
      cases twin with
      | conditional linked innerCondition innerThen innerElse =>
          refine .cons (.conditional linked innerCondition innerThen innerElse)
            (List.rel_append (conditionIh innerCondition) (List.rel_append ?_ ?_))
          · exact preorderIn_of_each innerThen thenIh
          · exact preorderIn_of_each innerElse elseIh
  | decl name typeName isRecord dims initial position ih =>
      cases twin with
      | decl linked innerInitial => exact .cons (.decl linked innerInitial) (ih innerInitial)
  | group kind decls position ih =>
      cases twin with
      | group linked inner => exact .cons (.group linked inner) (preorderIn_of_each inner ih)
  | moduleBlock name groups position ih =>
      cases twin with
      | moduleBlock linked inner =>
          exact .cons (.moduleBlock linked inner) (preorderIn_of_each inner ih)
  | record name fields position ih =>
      cases twin with
      | record linked inner => exact .cons (.record linked inner) (preorderIn_of_each inner ih)
  | event name precondition effects position preconditionIh effectsIh =>
      cases twin with
      | event linked innerPrecondition inner =>
          exact .cons (.event linked innerPrecondition inner)
            (List.rel_append (preconditionIh innerPrecondition)
              (preorderIn_of_each inner effectsIh))
  | program name items position ih =>
      cases twin with
      | program linked inner => exact .cons (.program linked inner) (preorderIn_of_each inner ih)

end Walks

section Equality

variable (worded : ∀ node other, link node other →
  node.position = other.position ∧ node.wording = other.wording)

theorem sameAll_of_each {nodes others : List Node} (twins : List.Forall₂ (Twin link) nodes others)
    (each : ∀ node ∈ nodes, ∀ other, Twin link node other → node.sameAs other = true) :
    Node.sameAll nodes others = true := by
  induction twins with
  | nil => rfl
  | @cons node other _ _ twin _ ih =>
      rw [Node.sameAll, each node (by simp) other twin, Bool.true_and]
      exact ih fun later member => each later (by simp [member])

include worded

theorem sameAs (twin : Twin link first second) : first.sameAs second = true := by
  induction first generalizing second with
  | hole =>
      cases twin
      rfl
  | stray found =>
      cases twin
      rw [Node.sameAs, beq_self_eq_true]
  | bundle serial parts ih =>
      cases twin with
      | bundle serial inner => exact sameAll_of_each inner ih
  | otherwise statements ih =>
      cases twin with
      | otherwise inner => exact sameAll_of_each inner ih
  | constant kind text position parenthesised =>
      cases twin with
      | constant linked =>
          have same := worded _ _ linked
          simp only [Node.position, wording] at same
          simp [Node.sameAs, same]
  | stringLiteral value position =>
      cases twin with
      | stringLiteral linked =>
          have same := worded _ _ linked
          simp only [Node.position, wording] at same
          simp [Node.sameAs, same]
  | reference name index position ih =>
      cases twin with
      | reference linked innerIndex =>
          have same := worded _ _ linked
          simp only [Node.position, wording] at same
          simp [Node.sameAs, same, ih innerIndex]
  | call name args position ih =>
      cases twin with
      | call linked inner =>
          have same := worded _ _ linked
          simp only [Node.position, wording] at same
          simp [Node.sameAs, same, sameAll_of_each inner ih]
  | binary op left right position leftIh rightIh =>
      cases twin with
      | binary linked innerLeft innerRight =>
          have same := worded _ _ linked
          simp only [Node.position, wording] at same
          simp [Node.sameAs, same, leftIh innerLeft, rightIh innerRight]
  | logical op operands position ih =>
      cases twin with
      | logical linked inner =>
          have same := worded _ _ linked
          simp only [Node.position, wording] at same
          simp [Node.sameAs, same, sameAll_of_each inner ih]
  | flag name position =>
      cases twin with
      | flag linked =>
          have same := worded _ _ linked
          simp only [Node.position, wording] at same
          simp [Node.sameAs, same]
  | assign target index value position indexIh valueIh =>
      cases twin with
      | assign linked innerIndex innerValue =>
          have same := worded _ _ linked
          simp only [Node.position, wording] at same
          simp [Node.sameAs, same, indexIh innerIndex, valueIh innerValue]
  | stream channel position =>
      cases twin with
      | stream linked =>
          have same := worded _ _ linked
          simp only [Node.position, wording] at same
          simp [Node.sameAs, same]
  | conditional condition thenBody elseBody position conditionIh thenIh elseIh =>
      cases twin with
      | conditional linked innerCondition innerThen innerElse =>
          have same := worded _ _ linked
          simp only [Node.position, wording] at same
          simp [Node.sameAs, same, conditionIh innerCondition, sameAll_of_each innerThen thenIh,
            sameAll_of_each innerElse elseIh]
  | decl name typeName isRecord dims initial position ih =>
      cases twin with
      | decl linked innerInitial =>
          have same := worded _ _ linked
          simp only [Node.position, wording] at same
          simp [Node.sameAs, same, ih innerInitial]
  | group kind decls position ih =>
      cases twin with
      | group linked inner =>
          have same := worded _ _ linked
          simp only [Node.position, wording] at same
          simp [Node.sameAs, same, sameAll_of_each inner ih]
  | moduleBlock name groups position ih =>
      cases twin with
      | moduleBlock linked inner =>
          have same := worded _ _ linked
          simp only [Node.position, wording] at same
          simp [Node.sameAs, same, sameAll_of_each inner ih]
  | record name fields position ih =>
      cases twin with
      | record linked inner =>
          have same := worded _ _ linked
          simp only [Node.position, wording] at same
          simp [Node.sameAs, same, sameAll_of_each inner ih]
  | event name precondition effects position preconditionIh effectsIh =>
      cases twin with
      | event linked innerPrecondition inner =>
          have same := worded _ _ linked
          simp only [Node.position, wording] at same
          simp [Node.sameAs, same, preconditionIh innerPrecondition,
            sameAll_of_each inner effectsIh]
  | program name items position ih =>
      cases twin with
      | program linked inner =>
          have same := worded _ _ linked
          simp only [Node.position, wording] at same
          simp [Node.sameAs, same, sameAll_of_each inner ih]

theorem sameAll {nodes others : List Node} (twins : List.Forall₂ (Twin link) nodes others) :
    Node.sameAll nodes others = true :=
  sameAll_of_each twins fun _ _ _ twin => sameAs worded twin

end Equality

end Twin

/-- Corresponding nodes of twin trees, neither of them a place left empty. -/
structure Counterparts (link : Node → Node → Prop) (node other : Node) : Prop where
  twin : Twin link node other
  present : node.isBlank = false

theorem Counterparts.linked {link : Node → Node → Prop} {node other : Node}
    (nodes : Counterparts link node other) : link node other :=
  nodes.twin.linked nodes.present

theorem counterparts_of_reference {link : Node → Node → Prop} {node other : Node} {text : String}
    (twin : Twin link node other) (mentioned : node.referenceText? = some text) :
    Counterparts link node other := by
  refine ⟨twin, ?_⟩
  cases node <;> first | rfl | cases mentioned

end Node

end SwarmCheck
