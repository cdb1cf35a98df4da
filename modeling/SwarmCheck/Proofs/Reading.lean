import SwarmCheck.Syntax.Lowering

/-!
# Reading parse trees

How the parts of a tree are read one after another, and what a rule sees of the items that come of
it. A token is plain if its kind is neither the name of a rule nor reserved: whatever the reader
goes by, it then stands for itself and leaves the reader as it was.
-/

namespace SwarmCheck

set_option autoImplicit false

/-- A kind of token that is neither the name of a rule nor reserved. -/
def PlainKind (kind : String) : Prop :=
  Rule.ofName? kind = none ∧ Reserved.ofName? kind = none

instance (kind : String) : Decidable (PlainKind kind) :=
  inferInstanceAs (Decidable (Rule.ofName? kind = none ∧ Reserved.ofName? kind = none))

namespace Reader

variable {reader after : Reader}

theorem read_plain_token {kind : String} (plain : PlainKind kind) (text : String) :
    reader.read (.token ⟨kind, text⟩) = .ok (.token ⟨kind, text⟩, reader) := by
  rw [read, readToken]
  cases reader.readsTokens with
  | false => rfl
  | true => simp only [plain.1, plain.2]; rfl

theorem readAll_cons_eq_ok_iff {tree : ParseTree} {rest : List ParseTree} {items : List Item} :
    reader.readAll (tree :: rest) = .ok (items, after) ↔
      ∃ item middle later, reader.read tree = .ok (item, middle) ∧
        middle.readAll rest = .ok (later, after) ∧ items = item :: later := by
  rw [readAll]
  cases first : reader.read tree with
  | error fault => simp
  | ok done =>
      obtain ⟨item, middle⟩ := done
      cases remaining : middle.readAll rest with
      | error fault => simp [remaining]
      | ok finished =>
          obtain ⟨later, final⟩ := finished
          simp only [remaining, Except.ok.injEq, Prod.mk.injEq]
          constructor
          · rintro ⟨rfl, rfl⟩
            exact ⟨item, middle, later, ⟨rfl, rfl⟩, remaining, rfl⟩
          · rintro ⟨_, _, others, ⟨rfl, rfl⟩, same, rfl⟩
            rw [remaining] at same
            cases same
            exact ⟨rfl, rfl⟩

theorem readAll_append {first second : List ParseTree} {items others : List Item}
    {middle : Reader} (firstRead : reader.readAll first = .ok (items, middle))
    (secondRead : middle.readAll second = .ok (others, after)) :
    reader.readAll (first ++ second) = .ok (items ++ others, after) := by
  induction first generalizing reader items with
  | nil =>
      cases firstRead
      exact secondRead
  | cons tree rest ih =>
      obtain ⟨item, next, later, treeRead, restRead, rfl⟩ := readAll_cons_eq_ok_iff.mp firstRead
      exact readAll_cons_eq_ok_iff.mpr ⟨item, next, later ++ others, treeRead, ih restRead, rfl⟩

theorem read_rule_eq_ok_iff {name : String} {children : List ParseTree} {mark : Mark}
    {item : Item} :
    reader.read (.rule name children mark) = .ok (item, after) ↔
      ∃ items middle, reader.readAll children = .ok (items, middle) ∧
        middle.readRule name mark items = .ok (item, after) := by
  rw [read]
  cases inner : reader.readAll children with
  | error fault => simp
  | ok done =>
      obtain ⟨items, middle⟩ := done
      simp only [Except.ok.injEq, Prod.mk.injEq]
      constructor
      · intro made
        exact ⟨items, middle, ⟨rfl, rfl⟩, made⟩
      · rintro ⟨_, _, ⟨rfl, rfl⟩, made⟩
        exact made

theorem readRule_eq_ok_iff {name : String} {mark : Mark} {items : List Item} {item : Item} :
    reader.readRule name mark items = .ok (item, after) ↔
      (∃ rule, Rule.ofName? name = some rule ∧ reader.bars rule = false ∧
        rule.read reader.list mark items = .ok item ∧ after = reader) ∨
      (Rule.ofName? name = none ∧ ∃ reserved, Reserved.ofName? name = some reserved ∧
        reader.answerRule name items reserved.request = .ok (item, after)) := by
  rw [readRule]
  cases known : Rule.ofName? name with
  | some rule =>
      dsimp only
      constructor
      · intro read
        split at read
        · cases read
        · rename_i free
          cases made : rule.read reader.list mark items with
          | error fault =>
              rw [made] at read
              cases read
          | ok item =>
              rw [made] at read
              cases read
              exact .inl ⟨rule, rfl, by simpa using free, made, rfl⟩
      · rintro (⟨_, same, free, made, rfl⟩ | ⟨absent, _⟩)
        · cases same
          rw [free, made]
          rfl
        · cases absent
  | none =>
      dsimp only
      constructor
      · intro read
        split at read
        · rename_i reserved found
          exact .inr ⟨rfl, reserved, found, read⟩
        · cases read
      · rintro (⟨_, absent, _⟩ | ⟨_, reserved, found, answered⟩)
        · cases absent
        · rw [found]
          exact answered

theorem read_of_readRule {name : String} {rule : Rule} {mark : Mark} {items : List Item}
    {item : Item} (known : Rule.ofName? name = some rule)
    (made : reader.readRule name mark items = .ok (item, after)) :
    rule.read reader.list mark items = .ok item := by
  rcases readRule_eq_ok_iff.mp made with ⟨other, same, _, read, _⟩ | ⟨unknown, _⟩
  · rw [known, Option.some.injEq] at same
    rw [same]
    exact read
  · rw [known] at unknown
    cases unknown

theorem node_of_answerRule {name : String} {items : List Item} {request : Request} {item : Item}
    (answered : reader.answerRule name items request = .ok (item, after)) :
    ∃ node, item = .node node ∧ node.isBlank = true := by
  cases request with
  | switch | bar | answer | bundle =>
      cases answered
      exact ⟨_, rfl, rfl⟩
  | refused | clear | inspect | describe => cases answered

end Reader

namespace Item

theorem map_node_eq_ok_iff {made : Except Fault Node} {item : Item} :
    made.map Item.node = .ok item ↔ ∃ node, made = .ok node ∧ item = .node node := by
  cases made <;> simp [Except.map, eq_comm]

section Views

variable (found : Token) (node : Node) (statements : List Node) (rest : List Item)

@[simp] theorem nodes_nil : nodes [] = [] := rfl

@[simp] theorem nodes_token_cons : nodes (.token found :: rest) = nodes rest := rfl

@[simp] theorem nodes_node_cons : nodes (.node node :: rest) = node :: nodes rest := rfl

@[simp] theorem nodes_dimension_cons : nodes (.dimension :: rest) = nodes rest := rfl

@[simp] theorem nodes_otherwise_cons : nodes (.otherwise statements :: rest) = nodes rest := rfl

@[simp] theorem nodes_append (first second : List Item) :
    nodes (first ++ second) = nodes first ++ nodes second :=
  List.filterMap_append

@[simp] theorem nodes_map_node (list : List Node) : nodes (list.map .node) = list := by
  induction list with
  | nil => rfl
  | cons node rest ih => rw [List.map_cons, nodes_node_cons, ih]

@[simp] theorem nodes_replicate_dimension (count : Nat) :
    nodes (List.replicate count .dimension) = [] := by
  induction count with
  | zero => rfl
  | succ count ih => rw [List.replicate_succ, nodes_dimension_cons, ih]

@[simp] theorem tokens_nil : tokens [] = [] := rfl

@[simp] theorem tokens_token_cons : tokens (.token found :: rest) = found :: tokens rest := rfl

@[simp] theorem tokens_node_cons : tokens (.node node :: rest) = tokens rest := rfl

@[simp] theorem tokens_dimension_cons : tokens (.dimension :: rest) = tokens rest := rfl

@[simp] theorem tokens_otherwise_cons : tokens (.otherwise statements :: rest) = tokens rest := rfl

@[simp] theorem tokens_append (first second : List Item) :
    tokens (first ++ second) = tokens first ++ tokens second :=
  List.filterMap_append

@[simp] theorem tokens_map_node (list : List Node) : tokens (list.map .node) = [] := by
  induction list with
  | nil => rfl
  | cons node rest ih => rw [List.map_cons, tokens_node_cons, ih]

@[simp] theorem tokens_replicate_dimension (count : Nat) :
    tokens (List.replicate count .dimension) = [] := by
  induction count with
  | zero => rfl
  | succ count ih => rw [List.replicate_succ, tokens_dimension_cons, ih]

end Views

end Item

namespace Lowering

theorem elseStatements_of_nodes (list : List Node) : elseStatements (list.map .node) = [] := by
  have none : (list.map Item.node).filterMap Item.otherwise? = [] := by
    rw [List.filterMap_eq_nil_iff, List.forall_mem_map]
    intro node _
    rfl
  rw [elseStatements, none]
  rfl

theorem elseStatements_append_otherwise (before : List Item) (statements : List Node) :
    elseStatements (before ++ [.otherwise statements]) = statements := by
  have last : [Item.otherwise statements].filterMap Item.otherwise? = [statements] := rfl
  rw [elseStatements, List.filterMap_append, last, List.getLast?_concat]
  rfl

end Lowering

end SwarmCheck
