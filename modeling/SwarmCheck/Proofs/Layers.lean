import SwarmCheck.Proofs.TwinReading
import SwarmCheck.Proofs.Writes

/-!
# Parse trees with added parentheses

Parentheses can be put around a value or a condition anywhere in a parse tree, any number of times.
A layered tree records where: it is a tree without them and one with them at once. Both are read
alike. A condition in parentheses is read as itself, and so is a value, but for a constant, which
remembers that it is in parentheses. So what can differ between the two trees is whether a constant
is in parentheses, and it does wherever there is a layer around it.
-/

namespace SwarmCheck

set_option autoImplicit false

/-- A pair of parentheses, and the mark of the rule that they belong to. -/
structure Layer where
  opening : String
  closing : String
  mark : Mark
  opens : opening ≠ ""

/-- A tree in parentheses. -/
def Layer.around (layer : Layer) (name : String) (inner : ParseTree) : ParseTree :=
  .rule name [.token ⟨"LPAR", layer.opening⟩, inner, .token ⟨"RPAR", layer.closing⟩] layer.mark

/-- A parse tree with layers of parentheses around some of its values and conditions, the innermost
layer first. -/
inductive LayeredTree where
  | token (found : Token)
  | placeholder
  | rule (name : String) (children : List LayeredTree) (mark : Mark) (layers : List Layer)
      (fits : layers = [] ∨ name = "aexpr" ∨ name = "bexpr")

namespace LayeredTree

@[induction_eliminator]
theorem tree_induction {motive : LayeredTree → Prop}
    (token : ∀ found, motive (.token found))
    (placeholder : motive .placeholder)
    (rule : ∀ name children mark layers fits, (∀ child ∈ children, motive child) →
      motive (.rule name children mark layers fits))
    (tree : LayeredTree) : motive tree :=
  @LayeredTree.rec motive (fun trees => ∀ child ∈ trees, motive child)
    token placeholder rule
    (by
      intro child member
      cases member)
    (by
      intro first rest firstHolds restHolds child member
      rcases List.mem_cons.mp member with same | later
      · rw [same]
        exact firstHolds
      · exact restHolds child later)
    tree

mutual

def bare : LayeredTree → ParseTree
  | token found => .token found
  | placeholder => .placeholder
  | rule name children mark _ _ => .rule name (bareAll children) mark

def bareAll : List LayeredTree → List ParseTree
  | [] => []
  | tree :: rest => tree.bare :: bareAll rest

end

mutual

def full : LayeredTree → ParseTree
  | token found => .token found
  | placeholder => .placeholder
  | rule name children mark layers _ =>
      layers.foldl (fun inner layer => layer.around name inner) (.rule name (fullAll children) mark)

def fullAll : List LayeredTree → List ParseTree
  | [] => []
  | tree :: rest => tree.full :: fullAll rest

end

inductive Contains (whole : LayeredTree) : LayeredTree → Prop
  | whole : Contains whole whole
  | child {name : String} {children : List LayeredTree} {mark : Mark} {layers : List Layer}
      {fits : layers = [] ∨ name = "aexpr" ∨ name = "bexpr"} {part : LayeredTree}
      (parent : Contains whole (.rule name children mark layers fits))
      (member : part ∈ children) : Contains whole part

mutual

/-- Whether a tree that is read as a constant has a layer around the constant: around itself, or
inside around the part that is read as the constant. -/
def enclosed : LayeredTree → Bool
  | token _ | placeholder => false
  | rule name children _ layers _ =>
      match Rule.ofName? name with
      | some .value => !layers.isEmpty || anyEnclosed children
      | some .statement => anyEnclosed children
      | _ => false

def anyEnclosed : List LayeredTree → Bool
  | [] => false
  | tree :: rest => tree.enclosed || anyEnclosed rest

end

/-- Whether a tree that is not a token is read as a node. -/
def isPart : LayeredTree → Bool
  | token _ => false
  | placeholder => true
  | rule name _ _ _ _ =>
      match Rule.ofName? name with
      | some .dimension | some .elseBlock => false
      | _ => true

/-- Whether there is a layer around the constant that an assignment assigns, if it assigns one. The
value of an assignment is the last of its parts. -/
def valueEnclosed : LayeredTree → Bool
  | rule _ children _ _ _ => ((children.filter isPart).getLast?.map enclosed).getD false
  | token _ | placeholder => false

theorem isPart_of_enclosed {tree : LayeredTree} (inside : tree.enclosed = true) :
    tree.isPart = true := by
  cases tree with
  | token found => cases inside
  | placeholder => rfl
  | rule name children mark layers fits =>
      rw [enclosed] at inside
      rw [isPart]
      split at inside <;> simp_all

end LayeredTree

section Layers

open Lowering Item

variable {reader after : Reader} {inner : ParseTree} {node : Node}
  (read : reader.read inner = .ok (.node node, after))

theorem Node.parenthesise_parenthesise (node : Node) :
    node.parenthesise.parenthesise = node.parenthesise := by
  cases node <;> rfl

include read

theorem readAll_around (layer : Layer) :
    reader.readAll [.token ⟨"LPAR", layer.opening⟩, inner, .token ⟨"RPAR", layer.closing⟩] =
      .ok ([.token ⟨"LPAR", layer.opening⟩, .node node, .token ⟨"RPAR", layer.closing⟩],
        after) := by
  have opening := @Reader.read_plain_token reader "LPAR" (by decide) layer.opening
  have closing := @Reader.read_plain_token after "RPAR" (by decide) layer.closing
  simp only [Reader.readAll, opening, read, closing]

theorem read_around_value (layer : Layer) :
    reader.read (layer.around "aexpr" inner) = .ok (.node node.parenthesise, after) := by
  apply Reader.read_rule_eq_ok_iff.mpr
  refine ⟨_, _, readAll_around read layer, ?_⟩
  simp [Reader.readRule, Rule.ofName?, Reader.bars, Rule.isBare, Rule.read, readValue, firstText?,
    firstToken?, opensParenthesis, layer.opens, Except.map]

theorem read_around_condition (condition : node.isCondition = true) (layer : Layer) :
    reader.read (layer.around "bexpr" inner) = .ok (.node node, after) := by
  apply Reader.read_rule_eq_ok_iff.mpr
  refine ⟨_, _, readAll_around read layer, ?_⟩
  simp [Reader.readRule, Rule.ofName?, Reader.bars, Rule.isBare, Rule.read, readCondition,
    readOperation, operator?, structuralKinds, condition, Except.map]

theorem read_layers_value (layers : List Layer) :
    reader.read (layers.foldl (fun inner layer => layer.around "aexpr" inner) inner) =
      .ok (.node (if layers.isEmpty then node else node.parenthesise), after) := by
  induction layers generalizing inner node with
  | nil => exact read
  | cons layer rest ih =>
      rw [List.foldl_cons, ih (read_around_value read layer), node.parenthesise_parenthesise,
        ite_self]
      rfl

theorem read_layers_condition (condition : node.isCondition = true) (layers : List Layer) :
    reader.read (layers.foldl (fun inner layer => layer.around "bexpr" inner) inner) =
      .ok (.node node, after) := by
  induction layers generalizing inner with
  | nil => exact read
  | cons layer rest ih => exact ih (read_around_condition read condition layer)

end Layers

namespace Lowering

open Item

variable {mark : Mark} {items : List Item} {node : Node}

/-- A value is a constant only if it stands for one, which then remembers the parentheses. -/
theorem readValue_eq_constant_iff {list : List Item → String} {kind : ConstantKind} {text : String}
    {position : Option Position} {flag : Bool} :
    readValue list mark items = .ok (.constant kind text position flag) ↔
      firstText? ["VARNAME"] items = none ∧ firstText? ["STRING"] items = none ∧
        ∃ inner, nodes items = [.constant kind text position inner] ∧
          flag = (opensParenthesis items || inner) := by
  unfold readValue
  split
  · rename_i left right same
    rw [same]
    constructor
    · intro read
      split at read <;> cases read
    · rintro ⟨_, _, inner, single, _⟩
      cases single
  · cases firstText? ["VARNAME"] items with
    | some name => simp
    | none =>
        cases firstText? ["STRING"] items with
        | some quoted => simp
        | none =>
            dsimp only
            split
            · rename_i inner same
              rw [same]
              cases opensParenthesis items <;> cases inner <;>
                simp [Node.parenthesise, eq_comm, and_assoc]
            · rename_i other
              constructor
              · intro read
                cases read
              · rintro ⟨_, _, inner, single, _⟩
                exact absurd single (other _)

theorem readStatement_eq_ok_iff : readStatement items = .ok node ↔ nodes items = [node] := by
  unfold readStatement
  split
  · rename_i statement same
    simp [same]
  · rename_i other
    constructor
    · intro read
      cases read
    · intro same
      exact absurd same (other node)

theorem isCondition_readCondition : (readCondition mark items).isCondition = true := by
  have operation : (readOperation mark items).isCondition = true := by
    unfold readOperation
    split
    · split
      · assumption
      · rfl
    · rfl
  unfold readCondition
  split
  · split
    · rfl
    · split
      · rfl
      · exact operation
  · exact operation

end Lowering

theorem Lowering.assigned?_of_readAssign {mark : Mark} {items : List Item} {node : Node}
    (read : readAssign mark items = .ok node) :
    node.assigned? = (Item.nodes items).getLast? := by
  unfold readAssign at read
  split at read
  · rename_i same
    cases read
    rw [same]
    rfl
  · rename_i same
    cases read
    rw [same, Node.assigned?, List.getLast?_cons_cons,
      List.getLast?_eq_some_getLast (List.cons_ne_nil _ _)]
  · cases read

/-- Of the rules only three make constants. One makes them from tokens alone; the others pass a
constant on, which is then the only node they are made from. -/
theorem Rule.constant_of_read {rule : Rule} {list : List Item → String} {mark : Mark}
    {items : List Item} {kind : ConstantKind} {text : String} {position : Option Position}
    {flag : Bool}
    (read : rule.read list mark items = .ok (.node (.constant kind text position flag))) :
    rule = .constant ∧
        Lowering.readConstant list mark items = .ok (.constant kind text position flag) ∨
      rule = .value ∧
        Lowering.readValue list mark items = .ok (.constant kind text position flag) ∨
      rule = .statement ∧ Item.nodes items = [.constant kind text position flag] := by
  have unwrapped {made : Except Fault Node}
      (wrapped : made.map Item.node = .ok (.node (.constant kind text position flag))) :
      made = .ok (.constant kind text position flag) := by
    obtain ⟨node, made, same⟩ := Item.map_node_eq_ok_iff.mp wrapped
    rw [made, ← Item.node.inj same]
  cases rule with
  | constant => exact .inl ⟨rfl, unwrapped read⟩
  | value => exact .inr (.inl ⟨rfl, unwrapped read⟩)
  | statement => exact .inr (.inr ⟨rfl, Lowering.readStatement_eq_ok_iff.mp (unwrapped read)⟩)
  | program | group | dimension | stream | elseBlock | call => cases read
  | event =>
      have same : Lowering.readEvent mark items = .constant kind text position flag :=
        Item.node.inj (Except.ok.inj read)
      unfold Lowering.readEvent at same
      split at same
      · cases same
      · split at same <;> cases same
  | condition =>
      have same : Lowering.readCondition mark items = .constant kind text position flag :=
        Item.node.inj (Except.ok.inj read)
      have condition := @Lowering.isCondition_readCondition mark items
      rw [same] at condition
      cases condition
  | moduleBlock =>
      have made := unwrapped read
      unfold Lowering.readModule at made
      split at made <;> cases made
  | record =>
      have made := unwrapped read
      unfold Lowering.readRecord at made
      split at made <;> cases made
  | decl =>
      have made := unwrapped read
      unfold Lowering.readDecl at made
      split at made
      · cases made
      · split at made <;> cases made
  | assign =>
      have made := unwrapped read
      unfold Lowering.readAssign at made
      split at made <;> cases made
  | conditional =>
      have made := unwrapped read
      unfold Lowering.readConditional at made
      split at made <;> cases made

theorem Rule.node_of_read {rule : Rule} {list : List Item → String} {mark : Mark}
    {items : List Item} {item : Item} (read : rule.read list mark items = .ok item)
    (notDimension : rule ≠ .dimension) (notElse : rule ≠ .elseBlock) :
    ∃ node, item = .node node := by
  cases rule with
  | dimension => exact absurd rfl notDimension
  | elseBlock => exact absurd rfl notElse
  | program | group | event | stream | call | condition =>
      cases read
      exact ⟨_, rfl⟩
  | moduleBlock | decl | record | statement | assign | conditional | constant | value =>
      obtain ⟨node, _, same⟩ := Item.map_node_eq_ok_iff.mp read
      exact ⟨node, same⟩

namespace LayeredTree

/-- What a tree is read as without and with its layers. A constant is in parentheses if it was
before or if it has been enclosed. -/
structure Reads (link : Node → Node → Prop) (tree : LayeredTree) (item item' : Item) : Prop where
  twin : Item.Twin link item item'
  parted : tree.isPart = true → ∃ node, item = .node node
  flagged : ∀ {kind text position flag}, item = .node (.constant kind text position flag) →
    tree.isPart = true ∧ item' = .node (.constant kind text position (flag || tree.enclosed))

theorem Reads.node_or_nothing {link : Node → Node → Prop} {tree : LayeredTree} {item item' : Item}
    (read : tree.Reads link item item') :
    (∃ node, item = .node node) ∨
      ((∀ rest, Item.nodes (item :: rest) = Item.nodes rest) ∧
        (∀ rest, Item.nodes (item' :: rest) = Item.nodes rest) ∧ tree.isPart = false) := by
  have part (absent : ∀ node, item ≠ .node node) : tree.isPart = false := by
    rw [Bool.eq_false_iff]
    intro part
    obtain ⟨node, same⟩ := read.parted part
    exact absent node same
  cases read.twin with
  | node twin => exact .inl ⟨_, rfl⟩
  | token found => exact .inr ⟨fun _ => rfl, fun _ => rfl, part fun _ same => by cases same⟩
  | dimension => exact .inr ⟨fun _ => rfl, fun _ => rfl, part fun _ same => by cases same⟩
  | otherwise inner => exact .inr ⟨fun _ => rfl, fun _ => rfl, part fun _ same => by cases same⟩

inductive ReadsAll (link : Node → Node → Prop) : List LayeredTree → List Item → List Item → Prop
  | nil : ReadsAll link [] [] []
  | cons {tree : LayeredTree} {trees : List LayeredTree} {item item' : Item}
      {items items' : List Item} (first : tree.Reads link item item')
      (rest : ReadsAll link trees items items') :
      ReadsAll link (tree :: trees) (item :: items) (item' :: items')

section Lists

open Item

variable {link : Node → Node → Prop} {trees : List LayeredTree} {items items' : List Item}
  (all : ReadsAll link trees items items')

include all

theorem ReadsAll.twins : List.Forall₂ (Item.Twin link) items items' := by
  induction all with
  | nil => exact .nil
  | cons first _ ih => exact .cons first.twin ih

theorem ReadsAll.no_parts (empty : nodes items = []) : trees.filter isPart = [] := by
  induction all with
  | nil => rfl
  | @cons tree _ item _ _ _ first _ ih =>
      cases part : tree.isPart with
      | true =>
          obtain ⟨node, rfl⟩ := first.parted part
          cases empty
      | false =>
          rw [List.filter_cons_of_neg (by simp [part])]
          apply ih
          cases item with
          | node node => cases empty
          | _ => exact empty

omit all in
theorem anyEnclosed_of_no_parts (empty : trees.filter isPart = []) :
    anyEnclosed trees = false := by
  induction trees with
  | nil => rfl
  | cons tree rest ih =>
      rw [List.filter_eq_nil_iff, List.forall_mem_cons, ← List.filter_eq_nil_iff] at empty
      have outside : tree.enclosed = false := by
        rw [Bool.eq_false_iff]
        exact fun inside => empty.1 (isPart_of_enclosed inside)
      rw [anyEnclosed, outside, ih empty.2, Bool.or_self]

variable {kind : ConstantKind} {text : String} {position : Option Position} {flag : Bool}

theorem ReadsAll.single (only : nodes items = [.constant kind text position flag]) :
    nodes items' = [.constant kind text position (flag || anyEnclosed trees)] := by
  induction all with
  | nil => cases only
  | @cons tree trees item item' items items' first rest ih =>
      rcases first.node_or_nothing with ⟨node, rfl⟩ | ⟨skipped, skipped', outside⟩
      · rw [nodes_node_cons, List.cons.injEq] at only
        obtain ⟨rfl, empty⟩ := only
        have twins := nodes_of_twins rest.twins
        rw [empty, List.forall₂_nil_left_iff] at twins
        rw [(first.flagged rfl).2, nodes_node_cons, twins, anyEnclosed,
          anyEnclosed_of_no_parts (rest.no_parts empty), Bool.or_false]
      · rw [skipped] at only
        have outer : tree.enclosed = false := by
          rw [Bool.eq_false_iff]
          exact fun inside => Bool.eq_false_iff.mp outside (isPart_of_enclosed inside)
        rw [skipped', ih only, anyEnclosed, outer, Bool.false_or]

theorem ReadsAll.last (final : (nodes items).getLast? = some (.constant kind text position flag)) :
    ∃ part, (trees.filter isPart).getLast? = some part ∧
      (nodes items').getLast? = some (.constant kind text position (flag || part.enclosed)) := by
  induction all with
  | nil => cases final
  | @cons tree trees item item' items items' first rest ih =>
      rcases first.node_or_nothing with ⟨node, rfl⟩ | ⟨skipped, skipped', outside⟩
      · cases empty : nodes items with
        | nil =>
            rw [nodes_node_cons, empty, List.getLast?_singleton, Option.some.injEq] at final
            subst final
            obtain ⟨part, same⟩ := first.flagged rfl
            have twins := nodes_of_twins rest.twins
            rw [empty, List.forall₂_nil_left_iff] at twins
            refine ⟨tree, ?_, ?_⟩
            · rw [List.filter_cons_of_pos part, rest.no_parts empty, List.getLast?_singleton]
            · rw [same, nodes_node_cons, twins, List.getLast?_singleton]
        | cons other others =>
            rw [nodes_node_cons, empty, List.getLast?_cons_cons, ← empty] at final
            obtain ⟨part, ended, flagged⟩ := ih final
            refine ⟨part, ?_, ?_⟩
            · rw [List.filter_cons]
              split
              · rw [List.getLast?_cons, ended, Option.getD_some]
              · exact ended
            · cases first.twin with
              | node twin => rw [nodes_node_cons, List.getLast?_cons, flagged, Option.getD_some]
      · rw [skipped] at final
        rw [skipped', List.filter_cons_of_neg (by simp [outside])]
        exact ih final

end Lists

def rule? : LayeredTree → Option Rule
  | rule name _ _ _ _ => Rule.ofName? name
  | token _ | placeholder => none

/-- An assignment inside a tree, and what it is read as without and with the layers of the tree. -/
structure Site (whole : LayeredTree) where
  source : LayeredTree
  inside : whole.Contains source
  assigns : source.rule? = some .assign
  before : Node
  after : Node
  read : ∃ reader later, Reader.read reader source.bare = .ok (.node before, later)
  readFull : ∃ reader later, Reader.read reader source.full = .ok (.node after, later)

/-- A constant that is assigned is in parentheses if it was before or if it has been enclosed. -/
def Site.Flagged {whole : LayeredTree} (site : Site whole) : Prop :=
  ∀ {kind text position flag},
    site.before.assigned? = some (.constant kind text position flag) →
      site.after.assigned? = some (.constant kind text position (flag || site.source.valueEnclosed))

/-- Assignments are joined if they come from one place. -/
def Joined (whole : LayeredTree) (node other : Node) : Prop :=
  ∃ site : Site whole, site.before = node ∧ site.after = other ∧ site.Flagged

/-- Nodes correspond if they say the same, and assignments if they come from one place besides. -/
abbrev Matched (whole : LayeredTree) : Node → Node → Prop := Node.Counterpart whole.Joined

/-- A tree is read with its layers, if it is without, by readers that go by the same settings. -/
def ReadsFull (whole tree : LayeredTree) : Prop :=
  ∀ {reader reader' after : Reader} {item : Item}, reader.Twin whole.Matched reader' →
    reader.read tree.bare = .ok (item, after) →
      ∃ item' after', reader'.read tree.full = .ok (item', after') ∧
        tree.Reads whole.Matched item item' ∧ after.Twin whole.Matched after'

open Item Lowering

theorem readAll_full {whole : LayeredTree} {trees : List LayeredTree}
    (each : ∀ tree ∈ trees, whole.ReadsFull tree) {reader reader' after : Reader}
    {items : List Item} (readers : reader.Twin whole.Matched reader')
    (read : reader.readAll (bareAll trees) = .ok (items, after)) :
    ∃ items' after', reader'.readAll (fullAll trees) = .ok (items', after') ∧
      ReadsAll whole.Matched trees items items' ∧ after.Twin whole.Matched after' := by
  induction trees generalizing reader reader' items with
  | nil =>
      cases read
      exact ⟨[], reader', rfl, .nil, readers⟩
  | cons tree rest ih =>
      obtain ⟨item, middle, later, treeRead, restRead, rfl⟩ :=
        Reader.readAll_cons_eq_ok_iff.mp read
      obtain ⟨item', middle', treeFull, treeReads, between⟩ :=
        each tree (by simp) readers treeRead
      obtain ⟨items', after', restFull, restReads, finally'⟩ :=
        ih (fun other member => each other (by simp [member])) between restRead
      exact ⟨item' :: items', after',
        Reader.readAll_cons_eq_ok_iff.mpr ⟨item', middle', items', treeFull, restFull, rfl⟩,
        .cons treeReads restReads, finally'⟩

theorem constant_of_rule {joined : Node → Node → Prop} {trees : List LayeredTree}
    {items items' : List Item} (all : ReadsAll (Node.Counterpart joined) trees items items')
    {rule : Rule}
    {list list' : List Item → String} {mark : Mark} {kind : ConstantKind} {text : String}
    {position : Option Position} {flag : Bool}
    (read : rule.read list mark items = .ok (.node (.constant kind text position flag))) :
    (rule = .constant ∧
      rule.read list' mark items' = .ok (.node (.constant kind text position flag))) ∨
    ((rule = .value ∨ rule = .statement) ∧ rule.read list' mark items' =
      .ok (.node (.constant kind text position (flag || anyEnclosed trees)))) := by
  rcases Rule.constant_of_read read with ⟨rfl, made⟩ | ⟨rfl, made⟩ | ⟨rfl, only⟩
  · refine .inl ⟨rfl, ?_⟩
    rw [Rule.read, (readConstant_twin all.twins mark made).1]
    rfl
  · obtain ⟨unnamed, unquoted, inner, only, rfl⟩ := readValue_eq_constant_iff.mp made
    have same := firstText?_of_twins all.twins
    have opened : opensParenthesis items = opensParenthesis items' := by
      simp only [opensParenthesis, same]
    have made : readValue list' mark items' = .ok (.constant kind text position
        (opensParenthesis items' || (inner || anyEnclosed trees))) :=
      readValue_eq_constant_iff.mpr
        ⟨same _ ▸ unnamed, same _ ▸ unquoted, inner || anyEnclosed trees, all.single only, rfl⟩
    refine .inr ⟨.inl rfl, ?_⟩
    rw [Rule.read, made, opened, Bool.or_assoc]
    rfl
  · have made := readStatement_eq_ok_iff.mpr (all.single only)
    refine .inr ⟨.inr rfl, ?_⟩
    rw [Rule.read, made]
    rfl

theorem readsFull_token (whole : LayeredTree) (found : Token) : whole.ReadsFull (.token found) := by
  intro reader reader' after item readers read
  obtain ⟨item', after', readToo, twin, later, vacant⟩ := Reader.readToken_twin readers read
  refine ⟨item', after', readToo, ⟨twin, (fun part => by cases part), ?_⟩, later⟩
  intro kind text position flag same
  cases vacant _ same

theorem readsFull_placeholder (whole : LayeredTree) : whole.ReadsFull .placeholder := by
  intro reader reader' after item readers read
  cases read
  refine ⟨_, _, rfl, ⟨.node .hole, fun _ => ⟨_, rfl⟩, ?_⟩, readers⟩
  intro kind text position flag same
  cases same

section Rules

variable {whole tree : LayeredTree} {name : String} {children : List LayeredTree} {mark : Mark}
  {layers : List Layer} {fits : layers = [] ∨ name = "aexpr" ∨ name = "bexpr"}

theorem unlayered_of_rule {rule : Rule} (fits : layers = [] ∨ name = "aexpr" ∨ name = "bexpr")
    (known : Rule.ofName? name = some rule) (notValue : rule ≠ .value)
    (notCondition : rule ≠ .condition) : layers = [] := by
  rcases fits with empty | rfl | rfl
  · exact empty
  · have value : Rule.ofName? "aexpr" = some .value := rfl
    rw [value] at known
    cases known
    exact absurd rfl notValue
  · have condition : Rule.ofName? "bexpr" = some .condition := rfl
    rw [condition] at known
    cases known
    exact absurd rfl notCondition

theorem joined_of_read (inside : whole.Contains (.rule name children mark layers fits))
    (known : Rule.ofName? name = some .assign) {reader reader' middle middle' : Reader}
    {items items' : List Item} (read : reader.readAll (bareAll children) = .ok (items, middle))
    (readFull : reader'.readAll (fullAll children) = .ok (items', middle'))
    (all : ReadsAll whole.Matched children items items') {node node' : Node}
    (made : readAssign mark items = .ok node) (made' : readAssign mark items' = .ok node') :
    whole.Joined node node' := by
  have applied {reader : Reader} {items : List Item} {node : Node}
      (made : readAssign mark items = .ok node) :
      reader.readRule name mark items = .ok (.node node, reader) := by
    refine Reader.readRule_eq_ok_iff.mpr (.inl ⟨.assign, known, Bool.and_false _, ?_, rfl⟩)
    rw [Rule.read, made]
    rfl
  have none : layers = [] := unlayered_of_rule fits known (by decide) (by decide)
  subst none
  refine ⟨⟨_, inside, known, node, node',
    ⟨reader, middle, Reader.read_rule_eq_ok_iff.mpr ⟨items, middle, read, applied made⟩⟩,
    ⟨reader', middle', Reader.read_rule_eq_ok_iff.mpr ⟨items', middle', readFull, applied made'⟩⟩⟩,
    rfl, rfl, ?_⟩
  intro kind text position flag assigned
  rw [assigned?_of_readAssign made] at assigned
  obtain ⟨part, last, flagged⟩ := all.last assigned
  rw [assigned?_of_readAssign made', flagged]
  simp only [valueEnclosed, last, Option.map_some, Option.getD_some]

/-- A rule read with the layers inside, but without those around itself. -/
theorem read_inside (inside : whole.Contains (.rule name children mark layers fits))
    (each : ∀ child ∈ children, whole.ReadsFull child) {reader reader' after : Reader} {item : Item}
    (readers : reader.Twin whole.Matched reader')
    (read : reader.read (.rule name (bareAll children) mark) = .ok (item, after)) :
    ∃ item' after', reader'.read (.rule name (fullAll children) mark) = .ok (item', after') ∧
      (LayeredTree.rule name children mark [] (.inl rfl)).Reads whole.Matched item item' ∧
      after.Twin whole.Matched after' := by
  obtain ⟨items, middle, childrenRead, made⟩ := Reader.read_rule_eq_ok_iff.mp read
  obtain ⟨items', middle', childrenFull, all, between⟩ := readAll_full each readers childrenRead
  obtain ⟨item', after', madeFull, twin, later⟩ := Reader.readRule_twin between all.twins
    (fun known _ _ => joined_of_read inside known childrenRead childrenFull all) made
  refine ⟨item', after', Reader.read_rule_eq_ok_iff.mpr ⟨items', middle', childrenFull, madeFull⟩,
    ⟨twin, ?_, ?_⟩, later⟩
  · intro part
    rw [isPart] at part
    rcases Reader.readRule_eq_ok_iff.mp made with
      ⟨rule, known, _, ruleRead, _⟩ | ⟨_, _, _, answered⟩
    · rw [known] at part
      apply rule.node_of_read ruleRead
      · rintro rfl
        cases part
      · rintro rfl
        cases part
    · obtain ⟨node, same, _⟩ := Reader.node_of_answerRule answered
      exact ⟨node, same⟩
  · intro kind text position flag same
    subst same
    rcases Reader.readRule_eq_ok_iff.mp made with
      ⟨rule, known, _, ruleRead, _⟩ | ⟨_, _, _, answered⟩
    · have ruleFull := Reader.read_of_readRule known madeFull
      rw [isPart, enclosed, known]
      rcases constant_of_rule all ruleRead with ⟨rfl, constant⟩ | ⟨rfl | rfl, constant⟩
      · rw [ruleFull, Except.ok.injEq] at constant
        exact ⟨rfl, by rw [constant, Bool.or_false]⟩
      · rw [ruleFull, Except.ok.injEq] at constant
        exact ⟨rfl, constant⟩
      · rw [ruleFull, Except.ok.injEq] at constant
        exact ⟨rfl, constant⟩
    · obtain ⟨node, same, blank⟩ := Reader.node_of_answerRule answered
      cases same
      cases blank

theorem condition_of_read {reader after : Reader} {trees : List ParseTree} {item : Item}
    (read : reader.read (.rule "bexpr" trees mark) = .ok (item, after)) :
    ∃ node, item = .node node ∧ node.isCondition = true := by
  obtain ⟨items, middle, _, made⟩ := Reader.read_rule_eq_ok_iff.mp read
  have known : Rule.ofName? "bexpr" = some .condition := rfl
  cases Reader.read_of_readRule known made
  exact ⟨_, rfl, isCondition_readCondition⟩

/-- Layers around a rule put the constant it is read as in parentheses and leave anything else. -/
theorem readsFull_rule (inside : whole.Contains (.rule name children mark layers fits))
    (each : ∀ child ∈ children, whole.ReadsFull child) :
    whole.ReadsFull (.rule name children mark layers fits) := by
  intro reader reader' after item readers read
  obtain ⟨item', after', readCore, core, later⟩ := read_inside inside each readers read
  rcases fits with empty | rfl | rfl
  · subst empty
    exact ⟨item', after', readCore, core, later⟩
  · obtain ⟨node, rfl⟩ := core.parted rfl
    cases core.twin with
    | @node _ node' twin =>
        refine ⟨_, after', read_layers_value readCore layers, ⟨.node ?_, fun _ => ⟨node, rfl⟩, ?_⟩,
          later⟩
        · split
          · exact twin
          · exact parenthesised_twin twin
        · intro kind text position flag same
          obtain ⟨_, flagged⟩ := core.flagged same
          refine ⟨rfl, ?_⟩
          cases layers with
          | nil => exact flagged
          | cons layer rest =>
              rw [Item.node.inj flagged]
              exact congrArg (fun flag => Item.node (.constant kind text position flag))
                (Bool.or_true flag).symm
  · obtain ⟨node', rfl, condition⟩ := condition_of_read readCore
    exact ⟨_, after', read_layers_condition readCore condition layers,
      ⟨core.twin, core.parted, core.flagged⟩, later⟩

theorem readsFull (inside : whole.Contains tree) : whole.ReadsFull tree := by
  induction tree with
  | token found => exact readsFull_token whole found
  | placeholder => exact readsFull_placeholder whole
  | rule name children mark layers fits ih =>
      exact readsFull_rule inside fun child member => ih child member (.child inside member)

end Rules

end LayeredTree

end SwarmCheck
