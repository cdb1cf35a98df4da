import SwarmCheck.Syntax.Position
import SwarmCheck.Syntax.Token

/-!
# Syntax nodes

One type for programs, declarations, statements and expressions. Any node may stand in any
place: which trees are sensible is a matter for the analysis, not for the type. A place can also
be blank: `hole` stands in one that was left empty, and `stray`, `bundle` and `otherwise` in one
that holds something else than a node. A bundle that has a place to itself stands for the nodes
in it; among the entries of a list it is as blank as the others.
-/

namespace SwarmCheck

set_option autoImplicit false

inductive ConstantKind where
  | float
  | int
  | pid
  | numAgents
  deriving DecidableEq, Repr

inductive GroupKind where
  | sensors
  | actuators
  | allRead
  | allWrite
  | locals
  deriving DecidableEq, Repr

/-- An object that is no part of any program. All that is known of it is its kind, how it is
listed, and how a message speaks of it. -/
structure Foreign where
  kind : String
  listing : String
  phrase : String
  deriving DecidableEq, Repr

/-- What may be in the place of a node without being one or holding any. -/
inductive Stray where
  | text (text : String)
  | truth (value : Bool)
  | empty
  | token (token : Token)
  | dimension
  /-- A table of the reader's settings, by its number. -/
  | settings (number : Nat)
  | object (object : Foreign)
  deriving DecidableEq, Repr

inductive Node where
  | hole
  | stray (found : Stray)
  /-- Bundles are told apart by their serial numbers, however alike their parts may be. -/
  | bundle (serial : Nat) (parts : List Node)
  | otherwise (statements : List Node)
  | constant (kind : ConstantKind) (text : String) (position : Option Position)
      (parenthesised : Bool)
  | stringLiteral (value : String) (position : Option Position)
  | reference (name : String) (index : Node) (position : Option Position)
  | call (name : String) (args : List Node) (position : Option Position)
  | binary (op : String) (left right : Node) (position : Option Position)
  | logical (op : String) (operands : List Node) (position : Option Position)
  | flag (name : String) (position : Option Position)
  | assign (target : String) (index value : Node) (position : Option Position)
  | stream (channel : Option String) (position : Option Position)
  | conditional (condition : Node) (thenBody elseBody : List Node) (position : Option Position)
  | decl (name typeName : String) (isRecord : Bool) (dims : Int) (initial : Node)
      (position : Option Position)
  | group (kind : GroupKind) (decls : List Node) (position : Option Position)
  | moduleBlock (name : String) (groups : List Node) (position : Option Position)
  | record (name : String) (fields : List Node) (position : Option Position)
  | event (name : String) (precondition : Node) (effects : List Node)
      (position : Option Position)
  | program (name : String) (items : List Node) (position : Option Position)
  deriving Inhabited

namespace Node

def isHole : Node → Bool
  | hole => true
  | _ => false

theorem isHole_iff {node : Node} : node.isHole = true ↔ node = hole := by
  cases node <;> simp [isHole]

/-- Whether there is no node in a place: it is empty, or something else is in it. -/
def isBlank : Node → Bool
  | hole | stray _ | bundle .. | otherwise _ => true
  | _ => false

def isDecl : Node → Bool
  | decl .. => true
  | _ => false

def isGroup : Node → Bool
  | group .. => true
  | _ => false

/-- Whether a node is a truth-valued expression: a flag or a logical expression. -/
def isCondition : Node → Bool
  | logical .. => true
  | flag .. => true
  | _ => false

/-- Whether an expression is the writing agent's own identity: the bare literal, not in
parentheses. -/
def isOwnIdentity : Node → Bool
  | constant .pid _ _ parenthesised => !parenthesised
  | _ => false

/-- Puts a constant in parentheses; every other node stays as it is. -/
def parenthesise : Node → Node
  | constant kind text position _ => constant kind text position true
  | node => node

def position : Node → Option Position
  | hole | stray _ | bundle .. | otherwise _ => none
  | constant _ _ position _ => position
  | stringLiteral _ position => position
  | reference _ _ position => position
  | call _ _ position => position
  | binary _ _ _ position => position
  | logical _ _ position => position
  | flag _ position => position
  | assign _ _ _ position => position
  | stream _ position => position
  | conditional _ _ _ position => position
  | decl _ _ _ _ _ position => position
  | group _ _ position => position
  | moduleBlock _ _ position => position
  | record _ _ position => position
  | event _ _ _ position => position
  | program _ _ position => position

def name? : Node → Option String
  | reference name _ _ => some name
  | call name _ _ => some name
  | flag name _ => some name
  | decl name _ _ _ _ _ => some name
  | moduleBlock name _ _ => some name
  | record name _ _ => some name
  | event name _ _ _ => some name
  | program name _ _ => some name
  | _ => none

def referenceText? : Node → Option String
  | reference name _ _ => some name
  | flag name _ => some name
  | assign target _ _ _ => some target
  | stream channel _ => channel
  | _ => none

/-- What a place of its own has to offer: the parts of a bundle, or else whatever is there. -/
def spread : Node → List Node
  | bundle _ parts => parts
  | node => [node]

/-- Everything directly below a node, in source order, blank places included. -/
def places : Node → List Node
  | reference _ index _ => index.spread
  | call _ args _ => args
  | binary _ left right _ => left.spread ++ right.spread
  | logical _ operands _ => operands
  | assign _ index value _ => index.spread ++ value.spread
  | conditional condition thenBody elseBody _ => condition.spread ++ (thenBody ++ elseBody)
  | decl _ _ _ _ initial _ => initial.spread
  | group _ decls _ => decls
  | moduleBlock _ groups _ => groups
  | record _ fields _ => fields
  | event _ precondition effects _ => precondition.spread ++ effects
  | program _ items _ => items
  | hole | stray _ | bundle .. | otherwise _ | constant .. | stringLiteral .. | flag ..
  | stream .. => []

def children (node : Node) : List Node :=
  node.places.filter (!·.isBlank)

mutual

/-- The nodes at and below a place, each node before its children. -/
def preorder : Node → List Node
  | hole | stray _ | otherwise _ => []
  | bundle _ parts => preorderIn parts
  | node@(constant ..) => [node]
  | node@(stringLiteral ..) => [node]
  | node@(reference _ index _) => node :: index.preorder
  | node@(call _ args _) => node :: preorderIn args
  | node@(binary _ left right _) => node :: (left.preorder ++ right.preorder)
  | node@(logical _ operands _) => node :: preorderIn operands
  | node@(flag ..) => [node]
  | node@(assign _ index value _) => node :: (index.preorder ++ value.preorder)
  | node@(stream ..) => [node]
  | node@(conditional condition thenBody elseBody _) =>
      node :: (condition.preorder ++ (preorderIn thenBody ++ preorderIn elseBody))
  | node@(decl _ _ _ _ initial _) => node :: initial.preorder
  | node@(group _ decls _) => node :: preorderIn decls
  | node@(moduleBlock _ groups _) => node :: preorderIn groups
  | node@(record _ fields _) => node :: preorderIn fields
  | node@(event _ precondition effects _) =>
      node :: (precondition.preorder ++ preorderIn effects)
  | node@(program _ items _) => node :: preorderIn items

/-- The nodes at and below the entries of a list, blank entries left out. -/
def preorderIn : List Node → List Node
  | [] => []
  | node :: rest => (if node.isBlank then [] else node.preorder) ++ preorderIn rest

end

theorem preorderIn_eq_flatMap (nodes : List Node) :
    preorderIn nodes = (nodes.filter (!·.isBlank)).flatMap preorder := by
  induction nodes with
  | nil => simp [preorderIn]
  | cons node rest ih => cases blank : node.isBlank <;> simp [preorderIn, blank, ih]

private theorem preorder_eq_flatMap_spread (node : Node) :
    node.preorder = (node.spread.filter (!·.isBlank)).flatMap preorder := by
  cases node <;> simp [preorder, spread, isBlank, preorderIn_eq_flatMap]

theorem preorder_eq_cons (node : Node) (present : node.isBlank = false) :
    node.preorder = node :: node.children.flatMap preorder := by
  cases node <;>
    simp [isBlank] at present <;>
    simp [preorder, children, places, preorderIn_eq_flatMap, preorder_eq_flatMap_spread]

mutual

/-- Whether two trees are equal. Parentheses around a constant make no difference. -/
def sameAs : Node → Node → Bool
  | hole, hole => true
  | stray found, stray found' => found == found'
  | bundle _ parts, bundle _ parts' => sameAll parts parts'
  | otherwise statements, otherwise statements' => sameAll statements statements'
  | constant kind text position _, constant kind' text' position' _ =>
      kind == kind' && text == text' && position == position'
  | stringLiteral value position, stringLiteral value' position' =>
      value == value' && position == position'
  | reference name index position, reference name' index' position' =>
      name == name' && index.sameAs index' && position == position'
  | call name args position, call name' args' position' =>
      name == name' && sameAll args args' && position == position'
  | binary op left right position, binary op' left' right' position' =>
      op == op' && left.sameAs left' && right.sameAs right' && position == position'
  | logical op operands position, logical op' operands' position' =>
      op == op' && sameAll operands operands' && position == position'
  | flag name position, flag name' position' => name == name' && position == position'
  | assign target index value position, assign target' index' value' position' =>
      target == target' && index.sameAs index' && value.sameAs value' && position == position'
  | stream channel position, stream channel' position' =>
      channel == channel' && position == position'
  | conditional condition thenBody elseBody position,
      conditional condition' thenBody' elseBody' position' =>
      condition.sameAs condition' && sameAll thenBody thenBody' &&
        sameAll elseBody elseBody' && position == position'
  | decl name typeName isRecord dims initial position,
      decl name' typeName' isRecord' dims' initial' position' =>
      name == name' && typeName == typeName' && isRecord == isRecord' && dims == dims' &&
        initial.sameAs initial' && position == position'
  | group kind decls position, group kind' decls' position' =>
      kind == kind' && sameAll decls decls' && position == position'
  | moduleBlock name groups position, moduleBlock name' groups' position' =>
      name == name' && sameAll groups groups' && position == position'
  | record name fields position, record name' fields' position' =>
      name == name' && sameAll fields fields' && position == position'
  | event name precondition effects position, event name' precondition' effects' position' =>
      name == name' && precondition.sameAs precondition' && sameAll effects effects' &&
        position == position'
  | program name items position, program name' items' position' =>
      name == name' && sameAll items items' && position == position'
  | _, _ => false

def sameAll : List Node → List Node → Bool
  | [], [] => true
  | node :: rest, node' :: rest' => node.sameAs node' && sameAll rest rest'
  | _, _ => false

end

end Node

end SwarmCheck
