import SwarmCheck.Proofs.Parentheses
import SwarmCheck.Proofs.Shape

/-!
# Placeholders and faults

A parse tree of the grammar that cannot be analysed is meant to be reported as such. Two things get
in the way. A token whose kind is the name of a rule, or reserved, is not taken for a token. And a
placeholder can end up among the statements of an event or of a conditional, where a phase visits it
as if it were a node. Otherwise, every fault is one that is reported.
-/

namespace SwarmCheck

set_option autoImplicit false

/-- A fault that is reported as the tree's. -/
def Fault.Internal (fault : Fault) : Prop :=
  ∃ failure, fault.failure? = some failure ∧ failure.isInternal = true

namespace ParseTree

/-- Whether the grammar has a rule for a tree, if it needs one. -/
def isKnown : ParseTree → Bool
  | .rule name _ _ => (Rule.ofName? name).isSome
  | .token _ | .placeholder => true

def Grammatical (tree : ParseTree) : Prop := ∀ subtree ∈ tree.subtrees, subtree.isKnown = true

instance (tree : ParseTree) : Decidable tree.Grammatical :=
  inferInstanceAs (Decidable (∀ subtree ∈ tree.subtrees, subtree.isKnown = true))

def PlainTokens (tree : ParseTree) : Prop := ∀ found ∈ tree.tokens, PlainKind found.kind

instance (tree : ParseTree) : Decidable tree.PlainTokens :=
  inferInstanceAs (Decidable (∀ found ∈ tree.tokens, PlainKind found.kind))

/-- Whether a subtree gives the rule above it a node. -/
def bringsNode : ParseTree → Bool
  | .token _ => false
  | .placeholder => true
  | .rule name _ _ =>
      Rule.ofName? name ≠ some .dimension && Rule.ofName? name ≠ some .elseBlock

/-- A subtree of which nothing is left: a placeholder, or a statement or a value that stands for
nothing else. -/
inductive Vanishes : ParseTree → Prop
  | placeholder : Vanishes .placeholder
  | statement {name : String} {children : List ParseTree} {mark : Mark} {child : ParseTree}
      (rule : Rule.ofName? name = some .statement) (only : children.filter bringsNode = [child])
      (inner : child.Vanishes) : Vanishes (.rule name children mark)
  | value {name : String} {children : List ParseTree} {mark : Mark} {child : ParseTree}
      (rule : Rule.ofName? name = some .value) (only : children.filter bringsNode = [child])
      (nameless : ∀ found ∈ tokensAmong children, found.kind ≠ "VARNAME" ∧ found.kind ≠ "STRING")
      (inner : child.Vanishes) : Vanishes (.rule name children mark)

/-- A rule whose nodes are all visited as statements, with a child of which nothing is left. -/
def HasGap : ParseTree → Prop
  | .rule name children _ =>
      Rule.ofName? name ∈ [some .event, some .conditional, some .elseBlock] ∧
        ∃ child ∈ children, child.Vanishes
  | _ => False

end ParseTree

section Faults

theorem Item.map_node_eq_error_iff {made : Except Fault Node} {fault : Fault} :
    made.map Item.node = .error fault ↔ made = .error fault := by
  cases made <;> simp [Except.map]

variable {fault : Fault}

theorem Rule.internal_of_read {rule : Rule} {list : List Item → String} {mark : Mark}
    {items : List Item} (failed : rule.read list mark items = .error fault) : fault.Internal := by
  cases rule with
  | program | group | dimension | event | stream | elseBlock | call | condition => cases failed
  | moduleBlock =>
      have reason := Item.map_node_eq_error_iff.mp failed
      rw [Lowering.readModule] at reason
      split at reason
      · cases reason
        exact ⟨_, rfl, rfl⟩
      · cases reason
  | decl =>
      have reason := Item.map_node_eq_error_iff.mp failed
      rw [Lowering.readDecl] at reason
      split at reason
      · cases reason
        exact ⟨_, rfl, rfl⟩
      split at reason
      · rename_i unknown
        cases reason
        rw [Lowering.readTypeName] at unknown
        split at unknown
        · cases unknown
        split at unknown
        · cases unknown
        · cases unknown
          exact ⟨_, rfl, rfl⟩
      · cases reason
  | record =>
      have reason := Item.map_node_eq_error_iff.mp failed
      rw [Lowering.readRecord] at reason
      split at reason
      · cases reason
        exact ⟨_, rfl, rfl⟩
      · cases reason
  | statement =>
      have reason := Item.map_node_eq_error_iff.mp failed
      rw [Lowering.readStatement] at reason
      split at reason
      · cases reason
      · cases reason
        exact ⟨_, rfl, rfl⟩
  | assign =>
      have reason := Item.map_node_eq_error_iff.mp failed
      rw [Lowering.readAssign] at reason
      split at reason
      · cases reason
      · cases reason
      · cases reason
        exact ⟨_, rfl, rfl⟩
  | conditional =>
      have reason := Item.map_node_eq_error_iff.mp failed
      rw [Lowering.readConditional] at reason
      split at reason
      · cases reason
        exact ⟨_, rfl, rfl⟩
      · cases reason
  | constant =>
      have reason := Item.map_node_eq_error_iff.mp failed
      rw [Lowering.readConstant] at reason
      split at reason
      · cases reason
      · cases reason
        exact ⟨_, rfl, rfl⟩
  | value =>
      have reason := Item.map_node_eq_error_iff.mp failed
      rw [Lowering.readValue] at reason
      split at reason
      · split at reason
        · cases reason
        · cases reason
          exact ⟨_, rfl, rfl⟩
      · split at reason
        · cases reason
        split at reason
        · cases reason
        split at reason
        · cases reason
        · cases reason
          exact ⟨_, rfl, rfl⟩

/-- A fault that is reported, or that blames a name. -/
def Fault.OfReading (fault : Fault) : Prop := fault.Internal ∨ ∃ name, fault = .reservedName name

theorem Rule.fault_of_readToken {rule : Rule} {found : Token}
    (failed : rule.readToken found = .error fault) : fault.OfReading := by
  cases rule with
  | dimension | elseBlock => cases failed
  | statement =>
      have reason := Item.map_node_eq_error_iff.mp failed
      rw [Lowering.readStatement] at reason
      split at reason
      · cases reason
      · cases reason
        exact .inl ⟨_, rfl, rfl⟩
  | _ =>
      cases failed
      exact .inr ⟨_, rfl⟩

namespace Reader

variable {reader : Reader}

theorem fault_of_answerRule {name : String} {items : List Item} {request : Request}
    (failed : reader.answerRule name items request = .error fault) : fault.OfReading := by
  cases request with
  | refused | clear | inspect | describe =>
      cases failed
      exact .inr ⟨_, rfl⟩
  | _ => cases failed

theorem fault_of_answerToken {found : Token} {request : Request}
    (failed : reader.answerToken found request = .error fault) : fault.OfReading := by
  cases request with
  | switch => cases failed
  | clear =>
      rw [answerToken] at failed
      split at failed
      · cases failed
      · cases failed
        exact .inr ⟨_, rfl⟩
  | inspect =>
      rw [answerToken] at failed
      split at failed
      · cases failed
      · cases failed
        exact .inr ⟨_, rfl⟩
  | describe =>
      rw [answerToken] at failed
      split at failed
      · cases failed
      · cases failed
        exact .inr ⟨_, rfl⟩
  | bundle =>
      rw [answerToken] at failed
      split at failed
      · cases failed
      · cases failed
        exact .inr ⟨_, rfl⟩
  | refused =>
      cases failed
      exact .inr ⟨_, rfl⟩
  | bar | answer => cases failed

theorem fault_of_readToken {found : Token} (failed : reader.readToken found = .error fault) :
    fault.OfReading := by
  rw [readToken] at failed
  split at failed
  · cases failed
  split at failed
  · rename_i rule known
    cases made : rule.readToken found with
    | error other =>
        rw [made] at failed
        cases failed
        exact Rule.fault_of_readToken made
    | ok item =>
        rw [made] at failed
        cases failed
  · split at failed
    · exact fault_of_answerToken failed
    · cases failed

theorem fault_of_readRule {name : String} {mark : Mark} {items : List Item}
    (failed : reader.readRule name mark items = .error fault) : fault.OfReading := by
  rw [readRule] at failed
  split at failed
  · rename_i rule known
    split at failed
    · cases failed
      exact .inr ⟨_, rfl⟩
    · cases made : rule.read reader.list mark items with
      | error other =>
          rw [made] at failed
          cases failed
          exact .inl (Rule.internal_of_read made)
      | ok item =>
          rw [made] at failed
          cases failed
  · split at failed
    · exact fault_of_answerRule failed
    · cases failed
      exact .inl ⟨_, rfl, rfl⟩

theorem readAll_eq_error {invariant : Reader → Prop} {trees : List ParseTree}
    (each : ∀ tree ∈ trees, ∀ {reader item after}, invariant reader →
      reader.read tree = .ok (item, after) → invariant after)
    (start : invariant reader) (failed : reader.readAll trees = .error fault) :
    ∃ tree ∈ trees, ∃ before : Reader, invariant before ∧ before.read tree = .error fault := by
  induction trees generalizing reader with
  | nil => cases failed
  | cons tree rest ih =>
      rw [readAll] at failed
      cases first : reader.read tree with
      | error other =>
          rw [first] at failed
          cases failed
          exact ⟨tree, by simp, reader, start, first⟩
      | ok done =>
          obtain ⟨item, middle⟩ := done
          rw [first] at failed
          cases remaining : middle.readAll rest with
          | error other =>
              simp only [remaining] at failed
              cases failed
              obtain ⟨later, member, found⟩ := ih
                (fun other below => each other (by simp [below])) (each tree (by simp) start first)
                remaining
              exact ⟨later, by simp [member], found⟩
          | ok finished => simp [remaining] at failed

theorem fault_of_read {tree : ParseTree} (failed : reader.read tree = .error fault) :
    fault.OfReading := by
  induction tree generalizing reader with
  | token found => exact fault_of_readToken failed
  | placeholder => cases failed
  | rule name children mark ih =>
      rw [read] at failed
      cases inner : reader.readAll children with
      | error other =>
          rw [inner] at failed
          cases failed
          obtain ⟨child, member, before, _, childFailed⟩ :=
            readAll_eq_error (fun _ _ _ _ _ _ _ => trivial) trivial inner
          exact ih child member childFailed
      | ok done =>
          rw [inner] at failed
          exact fault_of_readRule failed

end Reader

end Faults

/-- A rule that gives no node but a blank one stands for its only part. It is a statement, or a
value that is neither named nor quoted. -/
theorem Rule.blank_of_read {rule : Rule} {list : List Item → String} {mark : Mark}
    {items : List Item} {node : Node} (read : rule.read list mark items = .ok (.node node))
    (blank : node.isBlank = true) :
    Item.nodes items = [node] ∧
      (rule = .statement ∨ rule = .value ∧ Item.firstText? ["VARNAME"] items = none ∧
        Item.firstText? ["STRING"] items = none) := by
  have gives := (Rule.gives_of_read read).2 node (List.mem_singleton_self node)
  cases gives with
  | made own =>
      rw [own.present] at blank
      cases blank
  | statement only => exact ⟨only, .inl rfl⟩
  | @value inner unnamed unquoted only =>
      have same : (if Lowering.opensParenthesis items then inner.parenthesise else inner) =
          inner := by
        cases inner with
        | constant => split at blank <;> cases blank
        | _ => exact ite_self _
      rw [same]
      exact ⟨only, .inr ⟨rfl, unnamed, unquoted⟩⟩
  | condition only condition =>
      rw [Node.present_of_isCondition condition] at blank
      cases blank
  | alternative member => cases read

theorem Item.kind_ne_of_firstText? {kind : String} {items : List Item}
    (absent : firstText? [kind] items = none) {found : Token} (member : found ∈ tokens items) :
    found.kind ≠ kind := by
  rw [firstText?, Option.map_eq_none_iff, firstToken?, List.find?_eq_none] at absent
  simpa using absent found member

namespace ParseTree

theorem exists_source {Result : Type} {related : ParseTree → Result → Prop}
    {trees : List ParseTree} {results : List Result} (each : List.Forall₂ related trees results)
    {result : Result} (member : result ∈ results) : ∃ tree ∈ trees, related tree result := by
  induction each with
  | nil => cases member
  | @cons tree first trees results holds _ ih =>
      rcases List.mem_cons.mp member with rfl | later
      · exact ⟨tree, by simp, holds⟩
      · obtain ⟨source, below, found⟩ := ih later
        exact ⟨source, by simp [below], found⟩

variable {whole tree : ParseTree} {reader after : Reader} {item : Item}

theorem Grammatical.rule (grammatical : whole.Grammatical) {name : String}
    {children : List ParseTree} {mark : Mark} (within : .rule name children mark ∈ whole.subtrees) :
    ∃ rule, Rule.ofName? name = some rule :=
  Option.isSome_iff_exists.mp (grammatical _ within)

theorem PlainTokens.read_token (plain : whole.PlainTokens) {found : Token}
    (within : .token found ∈ whole.subtrees) :
    reader.read (.token found) = .ok (.token found, reader) :=
  Reader.read_plain_token (plain found (mem_tokensAmong.mpr within)) found.text

/-- A tree of the grammar with plain tokens asks nothing of its reader. -/
structure Regular (whole : ParseTree) : Prop where
  grammatical : whole.Grammatical
  plain : whole.PlainTokens

theorem readAll_by_same {children : List ParseTree} {items : List Item}
    (each : ∀ child ∈ children, ∀ {item after}, reader.read child = .ok (item, after) →
      after = reader)
    (read : reader.readAll children = .ok (items, after)) :
    after = reader ∧
      List.Forall₂ (fun child item => reader.read child = .ok (item, reader)) children items := by
  induction children generalizing items with
  | nil =>
      cases read
      exact ⟨rfl, .nil⟩
  | cons child rest ih =>
      obtain ⟨item, middle, later, childRead, restRead, rfl⟩ :=
        Reader.readAll_cons_eq_ok_iff.mp read
      have same := each child (by simp) childRead
      subst same
      obtain ⟨final, others⟩ := ih (fun other member => each other (by simp [member])) restRead
      exact ⟨final, .cons childRead others⟩

variable (regular : whole.Regular)

include regular

theorem Regular.after_eq (within : tree ∈ whole.subtrees)
    (read : reader.read tree = .ok (item, after)) : after = reader := by
  induction tree generalizing item after with
  | token found =>
      rw [regular.plain.read_token within] at read
      cases read
      rfl
  | placeholder =>
      cases read
      rfl
  | rule name children mark ih =>
      obtain ⟨items, middle, childrenRead, made⟩ := Reader.read_rule_eq_ok_iff.mp read
      obtain ⟨rule, known⟩ := regular.grammatical.rule within
      obtain ⟨kept, _⟩ := readAll_by_same (fun child member _ _ childRead =>
        ih child member (mem_subtrees_of_child within member) childRead) childrenRead
      rcases Reader.readRule_eq_ok_iff.mp made with ⟨_, _, _, _, same⟩ | ⟨unknown, _⟩
      · rw [same, kept]
      · rw [known] at unknown
        cases unknown

theorem Regular.read_rule {name : String} {children : List ParseTree} {mark : Mark}
    (within : .rule name children mark ∈ whole.subtrees)
    (read : reader.read (.rule name children mark) = .ok (item, after)) :
    ∃ rule items, Rule.ofName? name = some rule ∧ reader.readAll children = .ok (items, reader) ∧
      List.Forall₂ (fun child item => reader.read child = .ok (item, reader)) children items ∧
      rule.read reader.list mark items = .ok item := by
  obtain ⟨items, middle, childrenRead, made⟩ := Reader.read_rule_eq_ok_iff.mp read
  obtain ⟨rule, known⟩ := regular.grammatical.rule within
  obtain ⟨rfl, each⟩ := readAll_by_same (fun child member _ _ childRead =>
    regular.after_eq (mem_subtrees_of_child within member) childRead) childrenRead
  exact ⟨rule, items, known, childrenRead, each, Reader.read_of_readRule known made⟩

theorem Regular.internal_of_read (within : tree ∈ whole.subtrees) (free : reader.barred = false)
    {fault : Fault} (failed : reader.read tree = .error fault) : fault.Internal := by
  induction tree with
  | token found =>
      rw [regular.plain.read_token within] at failed
      cases failed
  | placeholder => cases failed
  | rule name children mark ih =>
      have same (child : ParseTree) (member : child ∈ children) {item : Item} {after : Reader}
          (childRead : reader.read child = .ok (item, after)) : after = reader :=
        regular.after_eq (mem_subtrees_of_child within member) childRead
      rw [Reader.read] at failed
      cases inner : reader.readAll children with
      | error other =>
          rw [inner] at failed
          cases failed
          obtain ⟨child, member, before, rfl, childFailed⟩ :=
            @Reader.readAll_eq_error _ _ (· = reader) _
              (fun child member _ _ _ kept childRead => by
                subst kept
                exact same child member childRead) rfl inner
          exact ih child member (mem_subtrees_of_child within member) childFailed
      | ok done =>
          obtain ⟨items, middle⟩ := done
          obtain ⟨rfl, _⟩ := readAll_by_same same inner
          obtain ⟨rule, known⟩ := regular.grammatical.rule within
          rw [inner] at failed
          dsimp only at failed
          rw [Reader.readRule, known] at failed
          dsimp only at failed
          rw [Reader.bars, free, Bool.false_and, if_neg (by decide)] at failed
          cases made : rule.read middle.list mark items with
          | error other =>
              rw [made] at failed
              cases failed
              exact Rule.internal_of_read made
          | ok item =>
              rw [made] at failed
              cases failed

theorem Regular.bringsNode_iff (within : tree ∈ whole.subtrees)
    (read : reader.read tree = .ok (item, after)) :
    tree.bringsNode = item.node?.isSome := by
  cases tree with
  | token found =>
      rw [regular.plain.read_token within] at read
      cases read
      rfl
  | placeholder =>
      cases read
      rfl
  | rule name children mark =>
      obtain ⟨rule, items, known, _, _, made⟩ := regular.read_rule within read
      rw [bringsNode, known]
      by_cases isDimension : rule = .dimension
      · subst isDimension
        cases made
        rfl
      by_cases isElse : rule = .elseBlock
      · subst isElse
        cases made
        rfl
      obtain ⟨node, rfl⟩ := Rule.node_of_read made isDimension isElse
      simp [isDimension, isElse, Item.node?]

theorem Regular.parts_of_items {children : List ParseTree} {items : List Item}
    (within : ∀ child ∈ children, child ∈ whole.subtrees)
    (each : List.Forall₂ (fun child item => reader.read child = .ok (item, reader)) children
      items) :
    List.Forall₂ (fun child node => reader.read child = .ok (.node node, reader))
      (children.filter bringsNode) (Item.nodes items) := by
  induction each with
  | nil => exact .nil
  | @cons child item children items read _ ih =>
      have later := ih fun other member => within other (by simp [member])
      have brings := regular.bringsNode_iff (within child (by simp)) read
      cases item with
      | node node =>
          rw [List.filter_cons_of_pos brings]
          exact .cons read later
      | token | dimension | otherwise =>
          rw [List.filter_cons_of_neg (by rw [brings]; exact Bool.false_ne_true)]
          exact later

theorem Regular.mem_tokens {children : List ParseTree} {items : List Item}
    (within : ∀ child ∈ children, child ∈ whole.subtrees)
    (each : List.Forall₂ (fun child item => reader.read child = .ok (item, reader)) children items)
    {found : Token} (member : found ∈ tokensAmong children) : found ∈ Item.tokens items := by
  rw [mem_tokensAmong] at member
  induction each with
  | nil => cases member
  | @cons child item children items read _ ih =>
      rcases List.mem_cons.mp member with rfl | later
      · rw [regular.plain.read_token (within _ (by simp))] at read
        cases read
        exact List.mem_cons_self
      · have found := ih (fun other below => within other (by simp [below])) later
        exact Item.tokens_append [item] items ▸ List.mem_append_right _ found

theorem Regular.vanishes_of_blank (within : tree ∈ whole.subtrees) {node : Node}
    (read : reader.read tree = .ok (.node node, after)) (blank : node.isBlank = true) :
    tree.Vanishes := by
  induction tree generalizing node after with
  | token found =>
      rw [regular.plain.read_token within] at read
      cases read
  | placeholder => exact .placeholder
  | rule name children mark ih =>
      have below (child : ParseTree) (member : child ∈ children) : child ∈ whole.subtrees :=
        mem_subtrees_of_child within member
      obtain ⟨rule, items, known, childrenRead, each, made⟩ := regular.read_rule within read
      obtain ⟨only, origin⟩ := Rule.blank_of_read made blank
      have parts := regular.parts_of_items below each
      rw [only] at parts
      cases kept : children.filter bringsNode with
      | nil =>
          rw [kept] at parts
          cases parts
      | cons child rest =>
          rw [kept] at parts
          cases parts with
          | cons childRead none =>
              cases none
              have member : child ∈ children :=
                (List.mem_filter.mp (kept ▸ List.mem_cons_self)).1
              have inner := ih child member (below child member) childRead blank
              rcases origin with rfl | ⟨rfl, unnamed, unquoted⟩
              · exact .statement known kept inner
              · refine .value known kept (fun found inChildren => ?_) inner
                have inItems := regular.mem_tokens below each inChildren
                exact ⟨Item.kind_ne_of_firstText? unnamed inItems,
                  Item.kind_ne_of_firstText? unquoted inItems⟩

theorem Regular.gap_of_blank {name : String} {children : List ParseTree} {mark : Mark}
    (within : .rule name children mark ∈ whole.subtrees)
    (visits : Rule.ofName? name ∈ [some .event, some .conditional, some .elseBlock])
    {items : List Item} (read : reader.readAll children = .ok (items, after)) {node : Node}
    (held : node ∈ Item.heldBy items) (blank : node.isBlank = true) :
    ∃ subtree ∈ whole.subtrees, subtree.HasGap := by
  have below (child : ParseTree) (member : child ∈ children) : child ∈ whole.subtrees :=
    mem_subtrees_of_child within member
  obtain ⟨_, each⟩ := readAll_by_same (fun child member _ _ childRead =>
    regular.after_eq (below child member) childRead) read
  obtain ⟨item, inItems, brought⟩ := List.mem_flatMap.mp held
  obtain ⟨child, member, childRead⟩ := exists_source each inItems
  cases item with
  | token | dimension => cases brought
  | node found =>
      cases List.mem_singleton.mp brought
      exact ⟨_, within, visits, child, member,
        regular.vanishes_of_blank (below child member) childRead blank⟩
  | otherwise statements =>
      cases child with
      | token found =>
          rw [regular.plain.read_token (below _ member)] at childRead
          cases childRead
      | placeholder => cases childRead
      | rule inner grandchildren innerMark =>
          obtain ⟨rule, innerItems, known, _, innerEach, made⟩ :=
            regular.read_rule (below _ member) childRead
          -- only an else branch brings statements along, and they are the nodes it was given
          have isElse : rule = .elseBlock ∧ statements = Item.nodes innerItems := by
            cases rule with
            | elseBlock =>
                cases made
                exact ⟨rfl, rfl⟩
            | program | group | dimension | event | stream | call | condition => cases made
            | _ =>
                obtain ⟨_, _, same⟩ := Item.map_node_eq_ok_iff.mp made
                cases same
          obtain ⟨rfl, rfl⟩ := isElse
          have parts := regular.parts_of_items
            (fun other inside => mem_subtrees_of_child (below _ member) inside) innerEach
          obtain ⟨source, kept, sourceRead⟩ := exists_source parts brought
          have inside := (List.mem_filter.mp kept).1
          exact ⟨_, below _ member, by simp [known], source, inside,
            regular.vanishes_of_blank (mem_subtrees_of_child (below _ member) inside) sourceRead
              blank⟩

/-- Without gaps, everything that is read from such a tree can be visited. -/
theorem Regular.kept_filled (gapless : ∀ subtree ∈ whole.subtrees, ¬ subtree.HasGap) :
    Kept whole Node.Filled where
  odd node odd := by
    cases node with
    | hole | stray => trivial
    | _ => cases odd
  parenthesised node filled := by
    cases node with
    | constant => trivial
    | _ => exact filled
  made {name} {_} {_} {rule} {_} {_} {items} {_} within known _ read made := by
    apply made.filled
    intro visits node held
    have listed : Rule.ofName? name ∈ [some .event, some .conditional, some .elseBlock] := by
      rw [known]
      rcases visits with rfl | rfl <;> decide
    by_contra blank
    rw [Bool.not_eq_false] at blank
    obtain ⟨subtree, inside, gap⟩ := regular.gap_of_blank within listed read held blank
    exact gapless subtree inside gap
  bundled := .inr fun node blank => by
    cases node with
    | hole | stray | bundle | otherwise => trivial
    | _ => cases blank

end ParseTree

theorem Node.packed_of_shaped {node : Node} (shaped : node.Shaped) : node.Packed := by
  have group (entry : Node) (isGroup : entry.isGroup = true) : entry.isBlank = false := by
    cases entry with
    | group => rfl
    | _ => cases isGroup
  have decl (entry : Node) (isDecl : entry.isDecl = true) : entry.isBlank = false := by
    cases entry with
    | decl => rfl
    | _ => cases isDecl
  cases node with
  | moduleBlock name groups position => exact fun entry member => group entry (shaped entry member)
  | group kind decls position => exact fun entry member => decl entry (shaped entry member)
  | record name fields position => exact fun entry member => decl entry (shaped entry member)
  | _ => trivial

theorem Node.MayFault.internal_or_unfilled {node : Node} {fault : Fault}
    (may : node.MayFault fault) :
    fault.Internal ∨ fault = .emptyPlace ∧ ¬ (node.Filled ∧ node.Packed) := by
  cases may with
  | unknownType unknown =>
      rw [declaredType] at unknown
      split at unknown
      · cases unknown
      split at unknown
      · cases unknown
      · cases unknown
        exact .inl ⟨_, rfl, rfl⟩
  | outsideGroup | unresolvedReference | unresolvedTarget => exact .inl ⟨_, rfl, rfl⟩
  | emptyPlace unfilled => exact .inr ⟨rfl, unfilled⟩

namespace ParseTree

variable {children : List ParseTree} {mark : Mark}

theorem lower_program {item : Item}
    (lowered : (ParseTree.rule "program" children mark).lower = .ok item) :
    ∃ name items position, item = .node (.program name items position) := by
  obtain ⟨after, read⟩ := lower_eq_ok_iff.mp lowered
  obtain ⟨items, middle, _, made⟩ := Reader.read_rule_eq_ok_iff.mp read
  have program : Rule.read middle.list mark items .program = .ok item :=
    Reader.read_of_readRule rfl made
  cases program
  exact ⟨_, _, _, rfl⟩

theorem error_of_analyzeTree {settings : Settings} {filename : Option String} {fault : Fault}
    (failed : (analyzeTree settings filename (.rule "program" children mark)).outcome =
      .error fault) :
    (ParseTree.rule "program" children mark).lower = .error fault ∨
      ∃ program, (ParseTree.rule "program" children mark).lower = .ok (.node program) ∧
        ∃ inner ∈ program.preorder, inner.MayFault fault := by
  rw [outcome_analyzeTree] at failed
  cases lowered : (ParseTree.rule "program" children mark).lower with
  | error other =>
      rw [lowered] at failed
      cases failed
      exact .inl rfl
  | ok item =>
      obtain ⟨name, items, position, rfl⟩ := lower_program lowered
      rw [lowered] at failed
      dsimp only [Item.part] at failed
      rw [Analyzer.outcome_analyze] at failed
      rcases Analyzer.fault_of_runPhases failed with ⟨blank, _⟩ | caused
      · cases blank
      · exact .inr ⟨_, rfl, caused⟩

section Analysis

variable {settings : Settings} {filename : Option String} {fault : Fault}
  (failed : (analyzeTree settings filename (.rule "program" children mark)).outcome = .error fault)

include failed

/-- Whatever stops the analysis of a program is reported, blames a name, or is an empty place. -/
theorem fault_of_analyzeTree : fault.OfReading ∨ fault = .emptyPlace := by
  rcases error_of_analyzeTree failed with unread | ⟨program, _, inner, _, may⟩
  · exact .inl (Reader.fault_of_read (lower_eq_error_iff.mp unread))
  · exact may.internal_or_unfilled.imp .inl And.left

/-- If all its tokens stand for themselves, it is reported, or there is a gap in the tree. -/
theorem Regular.fault_of_analyzeTree (regular : (ParseTree.rule "program" children mark).Regular) :
    fault.Internal ∨ fault = .emptyPlace ∧
      ∃ subtree ∈ (ParseTree.rule "program" children mark).subtrees, subtree.HasGap := by
  rcases error_of_analyzeTree failed with unread | ⟨program, lowered, inner, member, may⟩
  · exact .inl (regular.internal_of_read (mem_subtrees_self _) rfl (lower_eq_error_iff.mp unread))
  refine may.internal_or_unfilled.imp_right fun ⟨empty, unfilled⟩ => ⟨empty, ?_⟩
  by_contra gapless
  have occurs := Node.occurs_of_mem_preorder member
  have filled := (regular.kept_filled fun subtree inside gap =>
    gapless ⟨subtree, inside, gap⟩).lower lowered program (List.mem_singleton_self _) inner occurs
  have shaped := (kept_shaped _).lower lowered program (List.mem_singleton_self _) inner occurs
  exact unfilled ⟨filled, Node.packed_of_shaped shaped.1⟩

end Analysis

end ParseTree

/-- An analysis of a tree of the grammar returns a table or reports a fault, with two exceptions. A
token whose kind is the name of a rule, or reserved, may be refused by that name or leave an empty
place. And an event, a conditional or an else branch may have a child of which nothing is left; then
the analysis may stop at the empty place. -/
theorem analyzeTree_returns_or_reports (settings : Settings) (filename : Option String)
    {children : List ParseTree} {mark : Mark}
    (grammatical : (ParseTree.rule "program" children mark).Grammatical) :
    (∃ table, (analyzeTree settings filename (.rule "program" children mark)).outcome = .ok table) ∨
    ∃ fault,
      (analyzeTree settings filename (.rule "program" children mark)).outcome = .error fault ∧
      (fault.Internal ∨
        (∃ found ∈ (ParseTree.rule "program" children mark).tokens, ¬ PlainKind found.kind) ∧
          ((∃ name, fault = .reservedName name) ∨ fault = .emptyPlace) ∨
        fault = .emptyPlace ∧
          ∃ subtree ∈ (ParseTree.rule "program" children mark).subtrees, subtree.HasGap) := by
  cases ended : (analyzeTree settings filename (.rule "program" children mark)).outcome with
  | ok table => exact .inl ⟨table, rfl⟩
  | error fault =>
      refine .inr ⟨fault, rfl, ?_⟩
      by_cases plain : (ParseTree.rule "program" children mark).PlainTokens
      · rcases ParseTree.Regular.fault_of_analyzeTree ended ⟨grammatical, plain⟩ with
          reported | gap
        · exact .inl reported
        · exact .inr (.inr gap)
      · have odd : ∃ found ∈ (ParseTree.rule "program" children mark).tokens,
            ¬ PlainKind found.kind := by
          simpa [ParseTree.PlainTokens] using plain
        rcases ParseTree.fault_of_analyzeTree ended with (reported | named) | empty
        · exact .inl reported
        · exact .inr (.inl ⟨odd, .inl named⟩)
        · exact .inr (.inl ⟨odd, .inr empty⟩)

/-- An event of which nothing but a placeholder is left. -/
def emptyEvent : ParseTree :=
  .rule "program"
    [.token ⟨"VARNAME", "p"⟩, .rule "event" [.token ⟨"VARNAME", "e"⟩, .placeholder] {}] {}

/-- Its analysis stops at an empty place, since there is a gap in the tree. -/
theorem emptyEvent_has_gap :
    emptyEvent.Grammatical ∧
      (analyzeTree {} none emptyEvent).outcome = .error .emptyPlace ∧
      ∃ subtree ∈ emptyEvent.subtrees, subtree.HasGap := by
  have grammatical : emptyEvent.Grammatical := by decide
  have plain : emptyEvent.PlainTokens := by decide
  have stopped : (analyzeTree {} none emptyEvent).outcome = .error .emptyPlace := by rfl
  refine ⟨grammatical, stopped, ?_⟩
  rcases analyzeTree_returns_or_reports {} none grammatical with
    ⟨table, returned⟩ | ⟨fault, ended, cause⟩
  · cases stopped.symm.trans returned
  · cases stopped.symm.trans ended
    rcases cause with ⟨failure, reported, _⟩ | ⟨⟨found, inside, odd⟩, _⟩ | ⟨_, gap⟩
    · cases reported
    · exact absurd (plain found inside) odd
    · exact gap

/-- What it stops at is not reported as the tree's, though all rules of the tree are known. -/
theorem emptyEvent_is_not_reported :
    emptyEvent.Grammatical ∧
      ∃ fault, (analyzeTree {} none emptyEvent).outcome = .error fault ∧ fault.failure? = none :=
  ⟨by decide, .emptyPlace, rfl, rfl⟩

end SwarmCheck
