import SwarmCheck.Proofs.Trees
import SwarmCheck.Syntax.ParseTree

/-!
# Parts of trees

The parts of a node are everything it holds directly: nodes, and what else stands in its places.
A bundle and an else branch have parts as well, though no pass looks into them everywhere. So the
parts reach further than the children do, to everything that occurs in a tree at all. For parse
trees there is no such difference: everything in them is a subtree.
-/

namespace SwarmCheck

set_option autoImplicit false

namespace Node

def parts : Node → List Node
  | bundle _ parts => parts
  | otherwise statements => statements
  | reference _ index _ => [index]
  | call _ args _ => args
  | binary _ left right _ => [left, right]
  | logical _ operands _ => operands
  | assign _ index value _ => [index, value]
  | conditional condition thenBody elseBody _ => condition :: (thenBody ++ elseBody)
  | decl _ _ _ _ initial _ => [initial]
  | group _ decls _ => decls
  | moduleBlock _ groups _ => groups
  | record _ fields _ => fields
  | event _ precondition effects _ => precondition :: effects
  | program _ items _ => items
  | hole | stray _ | constant .. | stringLiteral .. | flag .. | stream .. => []

theorem parts_induction {motive : Node → Prop}
    (step : ∀ node : Node, (∀ part ∈ node.parts, motive part) → motive node) (node : Node) :
    motive node := by
  induction node with
  | hole | stray | constant | stringLiteral | flag | stream => exact step _ (by simp [parts])
  | bundle serial parts ih => exact step _ ih
  | otherwise statements ih => exact step _ ih
  | reference name index position ih => exact step _ (by simpa [parts] using ih)
  | call name args position ih => exact step _ ih
  | binary op left right position leftIh rightIh =>
      exact step _ (by simpa [parts] using ⟨leftIh, rightIh⟩)
  | logical op operands position ih => exact step _ ih
  | assign target index value position indexIh valueIh =>
      exact step _ (by simpa [parts] using ⟨indexIh, valueIh⟩)
  | conditional condition thenBody elseBody position conditionIh thenIh elseIh =>
      apply step
      rw [parts, List.forall_mem_cons, List.forall_mem_append]
      exact ⟨conditionIh, thenIh, elseIh⟩
  | decl name typeName isRecord dims initial position ih => exact step _ (by simpa [parts] using ih)
  | group kind decls position ih => exact step _ ih
  | moduleBlock name groups position ih => exact step _ ih
  | record name fields position ih => exact step _ ih
  | event name precondition effects position preconditionIh effectsIh =>
      exact step _ (List.forall_mem_cons.mpr ⟨preconditionIh, effectsIh⟩)
  | program name items position ih => exact step _ ih

section Occurrence

/-- What occurs in a tree: the tree itself, and the parts of whatever occurs in it. -/
inductive Occurs (whole : Node) : Node → Prop
  | whole : Occurs whole whole
  | part {node part : Node} (above : Occurs whole node) (held : part ∈ node.parts) :
      Occurs whole part

theorem Occurs.of_part {whole part inner : Node} (held : part ∈ whole.parts)
    (occurs : part.Occurs inner) : whole.Occurs inner := by
  induction occurs with
  | whole => exact .part .whole held
  | part _ deeper ih => exact .part ih deeper

theorem Occurs.eq_or_below {whole inner : Node} (occurs : whole.Occurs inner) :
    inner = whole ∨ ∃ part ∈ whole.parts, part.Occurs inner := by
  induction occurs with
  | whole => exact .inl rfl
  | part _ held ih =>
      rcases ih with rfl | ⟨part, above, deeper⟩
      · exact .inr ⟨_, held, .whole⟩
      · exact .inr ⟨part, above, .part deeper held⟩

theorem mem_preorder_cases {node inner : Node} (member : inner ∈ node.preorder) :
    inner = node ∧ node.isBlank = false ∨ ∃ part ∈ node.parts, inner ∈ part.preorder := by
  have entry {nodes : List Node} (member : inner ∈ preorderIn nodes) :
      ∃ part ∈ nodes, inner ∈ part.preorder := by
    rw [preorderIn_eq_flatMap, List.mem_flatMap] at member
    obtain ⟨part, kept, reached⟩ := member
    exact ⟨part, (List.mem_filter.mp kept).1, reached⟩
  cases node with
  | hole | stray | otherwise => cases member
  | bundle serial parts => exact .inr (entry member)
  | constant | stringLiteral | flag | stream => exact .inl ⟨List.mem_singleton.mp member, rfl⟩
  | reference | decl =>
      rcases List.mem_cons.mp member with same | below
      · exact .inl ⟨same, rfl⟩
      · exact .inr ⟨_, List.mem_singleton_self _, below⟩
  | call | logical | group | moduleBlock | record | program =>
      rcases List.mem_cons.mp member with same | below
      · exact .inl ⟨same, rfl⟩
      · exact .inr (entry below)
  | binary op left right position =>
      rw [preorder, List.mem_cons, List.mem_append] at member
      rcases member with same | inLeft | inRight
      · exact .inl ⟨same, rfl⟩
      · exact .inr ⟨left, by simp [parts], inLeft⟩
      · exact .inr ⟨right, by simp [parts], inRight⟩
  | assign target index value position =>
      rw [preorder, List.mem_cons, List.mem_append] at member
      rcases member with same | inIndex | inValue
      · exact .inl ⟨same, rfl⟩
      · exact .inr ⟨index, by simp [parts], inIndex⟩
      · exact .inr ⟨value, by simp [parts], inValue⟩
  | conditional condition thenBody elseBody position =>
      rw [preorder, List.mem_cons, List.mem_append, List.mem_append] at member
      rcases member with same | inCondition | inThen | inElse
      · exact .inl ⟨same, rfl⟩
      · exact .inr ⟨condition, by simp [parts], inCondition⟩
      · obtain ⟨part, held, reached⟩ := entry inThen
        exact .inr ⟨part, by simp [parts, held], reached⟩
      · obtain ⟨part, held, reached⟩ := entry inElse
        exact .inr ⟨part, by simp [parts, held], reached⟩
  | event name precondition effects position =>
      rw [preorder, List.mem_cons, List.mem_append] at member
      rcases member with same | inPrecondition | inEffects
      · exact .inl ⟨same, rfl⟩
      · exact .inr ⟨precondition, by simp [parts], inPrecondition⟩
      · obtain ⟨part, held, reached⟩ := entry inEffects
        exact .inr ⟨part, by simp [parts, held], reached⟩

theorem occurs_of_mem_preorder {node inner : Node} (member : inner ∈ node.preorder) :
    node.Occurs inner := by
  induction node using parts_induction with
  | step node ih =>
      rcases mem_preorder_cases member with ⟨rfl, -⟩ | ⟨part, held, reached⟩
      · exact .whole
      · exact .of_part held (ih part held reached)

end Occurrence

end Node

namespace ParseTree

@[induction_eliminator]
theorem tree_induction {motive : ParseTree → Prop}
    (token : ∀ found, motive (.token found))
    (placeholder : motive .placeholder)
    (rule : ∀ name children mark, (∀ child ∈ children, motive child) →
      motive (.rule name children mark))
    (tree : ParseTree) : motive tree :=
  @ParseTree.rec motive (fun trees => ∀ child ∈ trees, motive child)
    token placeholder rule
    (by
      intro child member
      cases member)
    (by
      intro first rest firstHolds restHolds child member
      rcases List.mem_cons.mp member with same | later
      · rw [same]
        exact firstHolds
      · exact restHolds child later)
    tree

mutual

def subtrees : ParseTree → List ParseTree
  | tree@(.token _) => [tree]
  | tree@(.placeholder) => [tree]
  | tree@(.rule _ children _) => tree :: subtreesIn children

def subtreesIn : List ParseTree → List ParseTree
  | [] => []
  | tree :: rest => tree.subtrees ++ subtreesIn rest

end

def token? : ParseTree → Option Token
  | token found => some found
  | _ => none

def tokensAmong (trees : List ParseTree) : List Token := trees.filterMap token?

theorem tokensAmong_append (first second : List ParseTree) :
    tokensAmong (first ++ second) = tokensAmong first ++ tokensAmong second :=
  List.filterMap_append

def tokens (tree : ParseTree) : List Token := tokensAmong tree.subtrees

theorem subtreesIn_eq_flatMap (trees : List ParseTree) :
    subtreesIn trees = trees.flatMap subtrees := by
  induction trees with
  | nil => rfl
  | cons tree rest ih => rw [subtreesIn, ih, List.flatMap_cons]

theorem mem_subtrees_self (tree : ParseTree) : tree ∈ tree.subtrees := by
  cases tree <;> exact List.mem_cons_self

theorem mem_subtrees_of_child {whole child : ParseTree} {name : String}
    {children : List ParseTree} {mark : Mark} (within : .rule name children mark ∈ whole.subtrees)
    (member : child ∈ children) : child ∈ whole.subtrees := by
  induction whole with
  | token found => simp [subtrees] at within
  | placeholder => simp [subtrees] at within
  | rule name' children' mark' ih =>
      rw [subtrees, subtreesIn_eq_flatMap, List.mem_cons, List.mem_flatMap] at within ⊢
      rcases within with same | ⟨deeper, below, reached⟩
      · cases same
        exact .inr ⟨child, member, mem_subtrees_self child⟩
      · exact .inr ⟨deeper, below, ih deeper below reached⟩

theorem mem_tokensAmong {trees : List ParseTree} {found : Token} :
    found ∈ tokensAmong trees ↔ .token found ∈ trees := by
  rw [tokensAmong, List.mem_filterMap]
  constructor
  · rintro ⟨subtree, member, same⟩
    cases subtree with
    | token other =>
        cases same
        exact member
    | _ => cases same
  · intro member
    exact ⟨_, member, rfl⟩

end ParseTree

end SwarmCheck
