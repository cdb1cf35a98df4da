import SwarmCheck.Syntax.Node

/-!
# Induction over syntax trees

A node holds lists of nodes, so the recursor that comes with the type speaks of nodes and lists
at once. The principle here speaks of nodes only: a list of nodes gives one hypothesis for each
of its entries. It is the default for `induction` on nodes.
-/

namespace SwarmCheck

set_option autoImplicit false

namespace Node

@[induction_eliminator]
theorem tree_induction {motive : Node → Prop}
    (hole : motive .hole)
    (stray : ∀ found, motive (.stray found))
    (bundle : ∀ serial parts, (∀ part ∈ parts, motive part) → motive (.bundle serial parts))
    (otherwise : ∀ statements, (∀ statement ∈ statements, motive statement) →
      motive (.otherwise statements))
    (constant : ∀ kind text position parenthesised,
      motive (.constant kind text position parenthesised))
    (stringLiteral : ∀ value position, motive (.stringLiteral value position))
    (reference : ∀ name index position, motive index → motive (.reference name index position))
    (call : ∀ name args position, (∀ arg ∈ args, motive arg) →
      motive (.call name args position))
    (binary : ∀ op left right position, motive left → motive right →
      motive (.binary op left right position))
    (logical : ∀ op operands position, (∀ operand ∈ operands, motive operand) →
      motive (.logical op operands position))
    (flag : ∀ name position, motive (.flag name position))
    (assign : ∀ target index value position, motive index → motive value →
      motive (.assign target index value position))
    (stream : ∀ channel position, motive (.stream channel position))
    (conditional : ∀ condition thenBody elseBody position, motive condition →
      (∀ statement ∈ thenBody, motive statement) →
      (∀ statement ∈ elseBody, motive statement) →
      motive (.conditional condition thenBody elseBody position))
    (decl : ∀ name typeName isRecord dims initial position, motive initial →
      motive (.decl name typeName isRecord dims initial position))
    (group : ∀ kind decls position, (∀ entry ∈ decls, motive entry) →
      motive (.group kind decls position))
    (moduleBlock : ∀ name groups position, (∀ entry ∈ groups, motive entry) →
      motive (.moduleBlock name groups position))
    (record : ∀ name fields position, (∀ field ∈ fields, motive field) →
      motive (.record name fields position))
    (event : ∀ name precondition effects position, motive precondition →
      (∀ effect ∈ effects, motive effect) → motive (.event name precondition effects position))
    (program : ∀ name items position, (∀ item ∈ items, motive item) →
      motive (.program name items position))
    (node : Node) : motive node :=
  @Node.rec motive (fun nodes => ∀ entry ∈ nodes, motive entry)
    hole stray bundle otherwise constant stringLiteral reference call binary logical flag assign
    stream conditional decl group moduleBlock record event program
    (by
      intro entry member
      cases member)
    (by
      intro first rest firstHolds restHolds entry member
      rcases List.mem_cons.mp member with same | later
      · rw [same]
        exact firstHolds
      · exact restHolds entry later)
    node

theorem forall_mem_preorderIn {property : Node → Prop} {nodes : List Node} :
    (∀ inner ∈ preorderIn nodes, property inner) ↔
      ∀ node ∈ nodes, node.isBlank = false → ∀ inner ∈ node.preorder, property inner := by
  rw [preorderIn_eq_flatMap]
  simp only [List.mem_flatMap, List.mem_filter, Bool.not_eq_true']
  constructor
  · intro below node member present inner reached
    exact below inner ⟨node, ⟨member, present⟩, reached⟩
  · rintro each inner ⟨node, ⟨member, present⟩, reached⟩
    exact each node member present inner reached

theorem mem_preorderIn {nodes : List Node} {node : Node} (member : node ∈ nodes)
    (present : node.isBlank = false) : node ∈ preorderIn nodes := by
  rw [preorderIn_eq_flatMap]
  apply List.mem_flatMap.mpr
  refine ⟨node, List.mem_filter.mpr ⟨member, by simp [present]⟩, ?_⟩
  rw [preorder_eq_cons node present]
  exact List.mem_cons_self

theorem not_blank_of_mem_children {node child : Node} (below : child ∈ node.children) :
    node.isBlank = false := by
  cases node with
  | hole => cases below
  | stray found => cases below
  | bundle serial parts => cases below
  | otherwise statements => cases below
  | _ => rfl

theorem length_preorder_lt {node child : Node} (below : child ∈ node.children) :
    child.preorder.length < node.preorder.length := by
  rw [preorder_eq_cons node (not_blank_of_mem_children below), List.length_cons,
    Nat.lt_succ_iff, List.flatMap_def]
  exact (List.sublist_flatten_of_mem (List.mem_map_of_mem below)).length_le

theorem children_induction {motive : Node → Prop}
    (step : ∀ node : Node, (∀ child ∈ node.children, motive child) → motive node) (node : Node) :
    motive node := by
  induction measured : node.preorder.length using Nat.strongRecOn generalizing node with
  | _ size ih =>
      apply step
      intro child below
      have smaller := length_preorder_lt below
      exact ih child.preorder.length (measured ▸ smaller) child rfl

end Node

end SwarmCheck
