import SwarmCheck.Analysis.Declarations
import SwarmCheck.Proofs.Frames
import SwarmCheck.Proofs.Parts
import SwarmCheck.Proofs.Reading

/-!
# What the rules of the grammar make

Everything that occurs in a tree that has been read was made by a rule, was handed on from a part
that was read before, or is something odd that the reader itself had to offer. What a rule makes
is said once here for all rules: where its parts come from, what shape it has, and what its places
hold. Any property that all these share then holds of everything that occurs in what is read.
-/

namespace SwarmCheck

set_option autoImplicit false

namespace Node

/-- What stands for a token, a dimension or an else branch in the place of a node. -/
def isMark : Node → Bool
  | stray (.token _) | stray .dimension | otherwise _ => true
  | _ => false

/-- What a reader can offer of its own: nothing, or something that is in no program. -/
def isOdd : Node → Bool
  | hole | stray (.text _) | stray (.truth _) | stray .empty | stray (.settings _)
  | stray (.object _) => true
  | _ => false

theorem parts_of_isOdd {node : Node} (odd : node.isOdd = true) : node.parts = [] := by
  cases node with
  | hole | stray => rfl
  | _ => cases odd

theorem isMark_of_isOdd {node : Node} (odd : node.isOdd = true) : node.isMark = false := by
  cases node with
  | hole => rfl
  | stray found =>
      cases found with
      | token | dimension => cases odd
      | _ => rfl
  | _ => cases odd

theorem isBlank_of_isOdd {node : Node} (odd : node.isOdd = true) : node.isBlank = true := by
  cases node with
  | hole | stray => rfl
  | _ => cases odd

theorem present_of_isCondition {node : Node} (condition : node.isCondition = true) :
    node.isBlank = false := by
  cases node with
  | logical | flag => rfl
  | _ => cases condition

/-- The shape of every node that is read: groups hold declarations, modules hold groups, a
declaration has a type and no negative number of dimensions, and a leading condition of an event
is its precondition. -/
def Shaped : Node → Prop
  | moduleBlock _ groups _ => ∀ entry ∈ groups, entry.isGroup = true
  | group _ decls _ => ∀ entry ∈ decls, entry.isDecl = true
  | record _ fields _ => ∀ entry ∈ fields, entry.isDecl = true
  | decl _ typeName isRecord dims _ _ =>
      0 ≤ dims ∧ ∃ type, declaredType typeName isRecord dims = .ok type
  | event _ precondition effects _ =>
      precondition.isCondition = true ∨
        precondition = hole ∧ ∀ first, effects.head? = some first → first.isCondition = false
  | _ => True

def Everywhere (property : Node → Prop) (whole : Node) : Prop :=
  ∀ inner, whole.Occurs inner → property inner

variable {property : Node → Prop}

theorem everywhere_iff {node : Node} :
    Everywhere property node ↔ property node ∧ ∀ part ∈ node.parts, Everywhere property part := by
  constructor
  · intro all
    exact ⟨all node .whole, fun part held inner occurs => all inner (.of_part held occurs)⟩
  · rintro ⟨own, below⟩ inner occurs
    rcases occurs.eq_or_below with rfl | ⟨part, held, deeper⟩
    · exact own
    · exact below part held inner deeper

theorem everywhere_of_isOdd (kept : ∀ node : Node, node.isOdd = true → property node) {node : Node}
    (odd : node.isOdd = true) : Everywhere property node := by
  refine everywhere_iff.mpr ⟨kept node odd, ?_⟩
  rw [parts_of_isOdd odd]
  intro part held
  cases held

theorem parts_parenthesise (node : Node) : node.parenthesise.parts = node.parts := by
  cases node <;> rfl

theorem isMark_parenthesise (node : Node) : node.parenthesise.isMark = node.isMark := by
  cases node <;> rfl

end Node

namespace Item

def held : Item → List Node
  | token _ | dimension => []
  | node found => [found]
  | otherwise statements => statements

def heldBy (items : List Item) : List Node := items.flatMap held

theorem mem_heldBy_of_nodes {items : List Item} {found : Node} (member : found ∈ nodes items) :
    found ∈ heldBy items := by
  obtain ⟨item, inItems, same⟩ := List.mem_filterMap.mp member
  cases item with
  | node other =>
      cases same
      exact List.mem_flatMap.mpr ⟨_, inItems, List.mem_singleton_self _⟩
  | _ => cases same

theorem mem_heldBy_of_elseStatements {items : List Item} {found : Node}
    (member : found ∈ Lowering.elseStatements items) : found ∈ heldBy items := by
  rw [Lowering.elseStatements] at member
  cases last : (items.filterMap otherwise?).getLast? with
  | none =>
      rw [last] at member
      cases member
  | some statements =>
      rw [last] at member
      obtain ⟨item, inItems, same⟩ := List.mem_filterMap.mp (List.mem_of_getLast? last)
      cases item with
      | otherwise other =>
          cases same
          exact List.mem_flatMap.mpr ⟨_, inItems, member⟩
      | _ => cases same

end Item

/-- A node that a rule makes of items itself, instead of handing one on. -/
structure Node.Made (rule : Rule) (items : List Item) (node : Node) : Prop where
  present : node.isBlank = false
  parts : ∀ part ∈ node.parts, part = .hole ∨ part ∈ Item.heldBy items
  shaped : node.Shaped
  named : ∀ text, node.referenceText? = some text →
    Item.firstText? ["VARNAME"] items = some text
  filled : (rule = .event ∨ rule = .conditional →
    ∀ part ∈ Item.heldBy items, part.isBlank = false) → node.Filled

theorem Node.Made.unmarked {rule : Rule} {items : List Item} {node : Node}
    (made : node.Made rule items) : node.isMark = false := by
  have present := made.present
  cases node with
  | hole | stray | bundle | otherwise => cases present
  | _ => rfl

namespace Lowering

open Item

variable {items : List Item} {mark : Mark} {node : Node}

theorem made_program : (readProgram mark items).Made .program items where
  present := rfl
  parts _ held := .inr (mem_heldBy_of_nodes held)
  shaped := trivial
  named _ mentioned := by cases mentioned
  filled _ := trivial

theorem made_module (read : readModule mark items = .ok node) : node.Made .moduleBlock items := by
  rw [readModule] at read
  split at read
  · cases read
  · cases read
    exact
      { present := rfl
        parts := fun _ held => .inr (mem_heldBy_of_nodes (List.mem_filter.mp held).1)
        shaped := fun _ member => (List.mem_filter.mp member).2
        named := fun _ mentioned => by cases mentioned
        filled := fun _ => trivial }

theorem made_group (kind : GroupKind) : (readGroup kind mark items).Made (.group kind) items where
  present := rfl
  parts _ held := .inr (mem_heldBy_of_nodes (List.mem_filter.mp held).1)
  shaped _ member := (List.mem_filter.mp member).2
  named _ mentioned := by cases mentioned
  filled _ := trivial

/-- The tokens for primitive types and the names of these types match. -/
theorem declaredType_of_readTypeName {typeName : String} {isRecord : Bool}
    (read : readTypeName items = .ok (typeName, isRecord)) (dims : Int) :
    ∃ type, declaredType typeName isRecord dims = .ok type := by
  have known : ∀ pair ∈ primitiveTokens, pair.2 ∈ Ty.primitiveNames := by decide
  rw [readTypeName] at read
  split at read
  · cases read
    exact ⟨_, rfl⟩
  split at read
  · rename_i found
    cases read
    obtain ⟨token, _, looked⟩ := List.exists_of_findSome?_eq_some found
    obtain ⟨before, rest, split, _⟩ := List.lookup_eq_some_iff.mp looked
    have primitive := known (token.kind, typeName) (by simp [split])
    exact ⟨_, by rw [declaredType, if_neg (by decide), if_pos primitive]⟩
  · cases read

theorem made_decl (read : readDecl mark items = .ok node) : node.Made .decl items := by
  rw [readDecl] at read
  split at read
  · cases read
  split at read
  · cases read
  · rename_i typeName isRecord typed
    cases read
    exact
      { present := rfl
        parts := by
          intro part held
          rw [List.mem_singleton.mp held]
          cases first : (nodes items).head? with
          | none => exact .inl rfl
          | some initial => exact .inr (mem_heldBy_of_nodes (List.mem_of_head? first))
        shaped := ⟨Int.natCast_nonneg _, declaredType_of_readTypeName typed _⟩
        named := fun _ mentioned => by cases mentioned
        filled := fun _ => trivial }

theorem made_record (read : readRecord mark items = .ok node) : node.Made .record items := by
  rw [readRecord] at read
  split at read
  · cases read
  · cases read
    exact
      { present := rfl
        parts := fun _ held => .inr (mem_heldBy_of_nodes (List.mem_filter.mp held).1)
        shaped := fun _ member => (List.mem_filter.mp member).2
        named := fun _ mentioned => by cases mentioned
        filled := fun _ => trivial }

theorem made_event : (readEvent mark items).Made .event items := by
  rw [readEvent]
  split
  · exact
      { present := rfl
        parts := fun _ held => .inl (List.mem_singleton.mp held)
        shaped := .inr ⟨rfl, fun _ absent => by cases absent⟩
        named := fun _ mentioned => by cases mentioned
        filled := fun _ => ⟨fun _ => rfl, fun _ absent => by cases absent⟩ }
  rename_i first rest found
  have brought (part : Node) (member : part ∈ first :: rest) : part ∈ heldBy items :=
    mem_heldBy_of_nodes (found ▸ member)
  split
  · rename_i leads
    exact
      { present := rfl
        parts := fun part held => .inr (brought part held)
        shaped := .inl leads
        named := fun _ mentioned => by cases mentioned
        filled := fun full => ⟨
          fun blank => absurd blank (by simp [Node.present_of_isCondition leads]),
          fun effect member => full (.inl rfl) effect (brought effect (by simp [member]))⟩ }
  · rename_i plain
    exact
      { present := rfl
        parts := fun part held => (List.mem_cons.mp held).imp_right (brought part)
        shaped := .inr ⟨rfl, fun other leads => by
          cases leads
          exact Bool.eq_false_iff.mpr plain⟩
        named := fun _ mentioned => by cases mentioned
        filled := fun full => ⟨fun _ => rfl,
          fun effect member => full (.inl rfl) effect (brought effect member)⟩ }

theorem made_assign (read : readAssign mark items = .ok node) : node.Made .assign items := by
  rw [readAssign] at read
  split at read
  · rename_i target value named found
    cases read
    exact
      { present := rfl
        parts := by
          intro part held
          rcases List.mem_cons.mp held with rfl | last
          · exact .inl rfl
          · exact .inr (mem_heldBy_of_nodes (found ▸ last))
        shaped := trivial
        named := fun _ mentioned => by cases mentioned; exact named
        filled := fun _ => trivial }
  · rename_i target index next rest named found
    cases read
    exact
      { present := rfl
        parts := by
          intro part held
          refine .inr (mem_heldBy_of_nodes (found ▸ ?_))
          rcases List.mem_cons.mp held with rfl | last
          · exact List.mem_cons_self
          · rw [List.mem_singleton.mp last]
            exact List.mem_cons_of_mem _ (List.getLast_mem _)
        shaped := trivial
        named := fun _ mentioned => by cases mentioned; exact named
        filled := fun _ => trivial }
  · cases read

theorem made_stream : (readStream mark items).Made .stream items where
  present := rfl
  parts _ held := by cases held
  shaped := trivial
  named _ mentioned := mentioned
  filled _ := trivial

theorem made_conditional (read : readConditional mark items = .ok node) :
    node.Made .conditional items := by
  rw [readConditional] at read
  split at read
  · cases read
  rename_i condition thenBody found
  cases read
  have brought (part : Node) (member : part ∈ condition :: thenBody) : part ∈ heldBy items :=
    mem_heldBy_of_nodes (found ▸ member)
  exact
    { present := rfl
      parts := by
        intro part held
        rw [Node.parts, List.mem_cons, List.mem_append] at held
        rcases held with rfl | inThen | inElse
        · exact .inr (brought _ List.mem_cons_self)
        · exact .inr (brought part (List.mem_cons_of_mem _ inThen))
        · exact .inr (mem_heldBy_of_elseStatements inElse)
      shaped := trivial
      named := fun _ mentioned => by cases mentioned
      filled := fun full => ⟨full (.inr rfl) condition (brought _ List.mem_cons_self),
        fun statement member =>
          full (.inr rfl) statement (brought statement (List.mem_cons_of_mem _ member)),
        fun statement member =>
          full (.inr rfl) statement (mem_heldBy_of_elseStatements member)⟩ }

theorem made_constant {list : List Item → String} (read : readConstant list mark items = .ok node) :
    node.Made .constant items := by
  rw [readConstant] at read
  split at read
  · cases read
    exact
      { present := rfl
        parts := fun _ held => by cases held
        shaped := trivial
        named := fun _ mentioned => by cases mentioned
        filled := fun _ => trivial }
  · cases read

theorem made_call : (readCall mark items).Made .call items where
  present := rfl
  parts _ held := .inr (mem_heldBy_of_nodes held)
  shaped := trivial
  named _ mentioned := by cases mentioned
  filled _ := trivial

theorem readValue_cases {list : List Item → String} (read : readValue list mark items = .ok node) :
    node.Made .value items ∨
      firstText? ["VARNAME"] items = none ∧ firstText? ["STRING"] items = none ∧
        ∃ inner, nodes items = [inner] ∧
          node = if opensParenthesis items then inner.parenthesise else inner := by
  rw [readValue] at read
  split at read
  · rename_i left right found
    have brought (part : Node) (held : part ∈ [left, right]) : part ∈ heldBy items :=
      mem_heldBy_of_nodes (found ▸ held)
    split at read
    · cases read
      exact .inl
        { present := rfl
          parts := fun part held => .inr (brought part held)
          shaped := trivial
          named := fun _ mentioned => by cases mentioned
          filled := fun _ => trivial }
    · cases read
  · split at read
    · rename_i named
      cases read
      refine .inl
        { present := rfl
          parts := ?_
          shaped := trivial
          named := fun _ mentioned => by cases mentioned; exact named
          filled := fun _ => trivial }
      intro part held
      rw [List.mem_singleton.mp held]
      cases first : (nodes items).head? with
      | none => exact .inl rfl
      | some index => exact .inr (mem_heldBy_of_nodes (List.mem_of_head? first))
    · rename_i unnamed
      split at read
      · cases read
        exact .inl
          { present := rfl
            parts := fun _ held => by cases held
            shaped := trivial
            named := fun _ mentioned => by cases mentioned
            filled := fun _ => trivial }
      · rename_i unquoted
        split at read
        · rename_i inner found
          cases read
          exact .inr ⟨unnamed, unquoted, inner, found, rfl⟩
        · cases read

theorem made_logical (op : String) {operands : List Node}
    (brought : ∀ operand ∈ operands, operand ∈ nodes items) :
    (Node.logical op operands mark.position).Made .condition items where
  present := rfl
  parts part held := .inr (mem_heldBy_of_nodes (brought part held))
  shaped := trivial
  named _ mentioned := by cases mentioned
  filled _ := trivial

theorem readOperation_cases :
    (readOperation mark items).Made .condition items ∨
      nodes items = [readOperation mark items] ∧
        (readOperation mark items).isCondition = true := by
  rw [readOperation]
  split
  · rename_i inner _ found
    split
    · rename_i condition
      exact .inr ⟨found, condition⟩
    · exact .inl (made_logical _ fun _ member => found ▸ member)
  · exact .inl (made_logical _ fun _ member => member)

theorem readCondition_cases :
    (readCondition mark items).Made .condition items ∨
      nodes items = [readCondition mark items] ∧
        (readCondition mark items).isCondition = true := by
  rw [readCondition]
  split
  · split
    · rename_i named
      exact .inl
        { present := rfl
          parts := fun _ held => by cases held
          shaped := trivial
          named := fun _ mentioned => by cases mentioned; exact named
          filled := fun _ => trivial }
    · split
      · exact .inl (made_logical _ fun _ absent => by cases absent)
      · exact readOperation_cases
  · exact readOperation_cases

end Lowering

/-- What a rule gives to the rule above it: a node that it made, or one that was given to it. -/
inductive Rule.Gives (items : List Item) : Rule → Node → Prop
  | made {rule : Rule} {node : Node} (own : node.Made rule items) : Gives items rule node
  | statement {node : Node} (only : Item.nodes items = [node]) : Gives items .statement node
  | value {inner : Node} (unnamed : Item.firstText? ["VARNAME"] items = none)
      (unquoted : Item.firstText? ["STRING"] items = none) (only : Item.nodes items = [inner]) :
      Gives items .value (if Lowering.opensParenthesis items then inner.parenthesise else inner)
  | condition {node : Node} (only : Item.nodes items = [node])
      (condition : node.isCondition = true) : Gives items .condition node
  | alternative {node : Node} (member : node ∈ Item.nodes items) : Gives items .elseBlock node

theorem Rule.gives_of_read {rule : Rule} {list : List Item → String} {mark : Mark}
    {items : List Item} {item : Item} (read : rule.read list mark items = .ok item) :
    item.token? = none ∧ ∀ node ∈ item.held, rule.Gives items node := by
  have single {node : Node} (same : item = .node node) (gives : rule.Gives items node) :
      item.token? = none ∧ ∀ node ∈ item.held, rule.Gives items node := by
    rw [same]
    exact ⟨rfl, fun _ member => List.mem_singleton.mp member ▸ gives⟩
  cases rule with
  | program => exact single (Except.ok.inj read).symm (.made Lowering.made_program)
  | moduleBlock =>
      obtain ⟨node, made, same⟩ := Item.map_node_eq_ok_iff.mp read
      exact single same (.made (Lowering.made_module made))
  | group kind => exact single (Except.ok.inj read).symm (.made (Lowering.made_group kind))
  | dimension =>
      cases read
      exact ⟨rfl, fun _ member => by cases member⟩
  | decl =>
      obtain ⟨node, made, same⟩ := Item.map_node_eq_ok_iff.mp read
      exact single same (.made (Lowering.made_decl made))
  | record =>
      obtain ⟨node, made, same⟩ := Item.map_node_eq_ok_iff.mp read
      exact single same (.made (Lowering.made_record made))
  | event => exact single (Except.ok.inj read).symm (.made Lowering.made_event)
  | statement =>
      obtain ⟨node, made, same⟩ := Item.map_node_eq_ok_iff.mp read
      rw [Lowering.readStatement] at made
      split at made
      · rename_i only
        cases made
        exact single same (.statement only)
      · cases made
  | assign =>
      obtain ⟨node, made, same⟩ := Item.map_node_eq_ok_iff.mp read
      exact single same (.made (Lowering.made_assign made))
  | stream => exact single (Except.ok.inj read).symm (.made Lowering.made_stream)
  | elseBlock =>
      cases read
      exact ⟨rfl, fun node member => .alternative member⟩
  | conditional =>
      obtain ⟨node, made, same⟩ := Item.map_node_eq_ok_iff.mp read
      exact single same (.made (Lowering.made_conditional made))
  | constant =>
      obtain ⟨node, made, same⟩ := Item.map_node_eq_ok_iff.mp read
      exact single same (.made (Lowering.made_constant made))
  | call => exact single (Except.ok.inj read).symm (.made Lowering.made_call)
  | value =>
      obtain ⟨node, made, same⟩ := Item.map_node_eq_ok_iff.mp read
      rcases Lowering.readValue_cases made with own | ⟨unnamed, unquoted, inner, only, rfl⟩
      · exact single same (.made own)
      · exact single same (.value unnamed unquoted only)
  | condition =>
      rcases @Lowering.readCondition_cases items mark with own | ⟨only, condition⟩
      · exact single (Except.ok.inj read).symm (.made own)
      · exact single (Except.ok.inj read).symm (.condition only condition)

theorem Rule.Gives.origin {rule : Rule} {items : List Item} {node : Node}
    (gives : rule.Gives items node) :
    node.Made rule items ∨
      ∃ inner ∈ Item.nodes items, node = inner ∨ node = inner.parenthesise := by
  cases gives with
  | made own => exact .inl own
  | statement only => exact .inr ⟨node, only ▸ List.mem_singleton_self node, .inl rfl⟩
  | @value inner unnamed unquoted only =>
      refine .inr ⟨inner, only ▸ List.mem_singleton_self inner, ?_⟩
      split
      · exact .inr rfl
      · exact .inl rfl
  | condition only condition => exact .inr ⟨node, only ▸ List.mem_singleton_self node, .inl rfl⟩
  | alternative member => exact .inr ⟨node, member, .inl rfl⟩

end SwarmCheck
