import Mathlib.Data.List.Forall2
import SwarmCheck.Proofs.Reading
import SwarmCheck.Proofs.Twins

/-!
# Reading twins

A rule goes by the tokens among its items, and by how many nodes of which kind there are. From
items that are twins, with the same tokens, every rule makes twins again, and if it can be applied
to the one list of items, it can be applied to the other. Readers are twins if they go by the same
settings.
-/

namespace SwarmCheck

set_option autoImplicit false

/-- Corresponding nodes stand at one position and say the same in words. Assignments are joined
besides. -/
def Node.Counterpart (joined : Node → Node → Prop) (node other : Node) : Prop :=
  node.position = other.position ∧ node.wording = other.wording ∧
    (node.isAssign = true → joined node other)

inductive Item.Twin (link : Node → Node → Prop) : Item → Item → Prop
  | token (found : Token) : Twin link (.token found) (.token found)
  | node {node node' : Node} (twin : Node.Twin link node node') :
      Twin link (.node node) (.node node')
  | dimension : Twin link .dimension .dimension
  | otherwise {statements statements' : List Node}
      (inner : List.Forall₂ (Node.Twin link) statements statements') :
      Twin link (.otherwise statements) (.otherwise statements')

/-- No node of a program: a token, a mark, or something blank. -/
def Item.Vacant (item : Item) : Prop := ∀ node, item = .node node → node.isBlank = true

theorem Item.vacant_node {node : Node} (blank : node.isBlank = true) : (Item.node node).Vacant := by
  intro other same
  cases same
  exact blank

inductive Setting.Twin (link : Node → Node → Prop) : Setting → Setting → Prop
  | initial : Twin link .initial .initial
  | token (found : Token) : Twin link (.token found) (.token found)
  | bundle (serial : Nat) {parts parts' : List Node}
      (inner : List.Forall₂ (Node.Twin link) parts parts') :
      Twin link (.bundle serial parts) (.bundle serial parts')

/-- Readers that go by the same settings. What earlier tables of settings held only shows in
faults. -/
structure Reader.Twin (link : Node → Node → Prop) (reader reader' : Reader) : Prop where
  switch : Option.Rel (Setting.Twin link) reader.switch reader'.switch
  tables : reader.formerSwitches.length = reader'.formerSwitches.length
  barred : reader.barred = reader'.barred
  bundles : reader.bundleCount = reader'.bundleCount

variable {link : Node → Node → Prop}

theorem getLast?_rel {α : Type} {related : α → α → Prop} {list other : List α}
    (each : List.Forall₂ related list other) :
    Option.Rel related list.getLast? other.getLast? := by
  have reversed := List.forall₂_reverse_iff.mpr each
  rw [← List.head?_reverse, ← List.head?_reverse]
  generalize list.reverse = list, other.reverse = other at reversed ⊢
  cases reversed with
  | nil => exact .none
  | cons first _ => exact .some first

namespace Item

section Views

variable {items items' : List Item} (twins : List.Forall₂ (Twin link) items items')

include twins

theorem tokens_of_twins : tokens items = tokens items' := by
  induction twins with
  | nil => rfl
  | cons twin _ ih => cases twin <;> simp [ih]

theorem nodes_of_twins : List.Forall₂ (Node.Twin link) (nodes items) (nodes items') := by
  apply List.rel_filterMap _ twins
  intro item item' twin
  cases twin with
  | node twin => exact .some twin
  | _ => exact .none

theorem parts_of_twins :
    List.Forall₂ (Node.Twin link) (items.map part) (items'.map part) := by
  rw [List.forall₂_map_left_iff, List.forall₂_map_right_iff]
  apply twins.imp
  intro item item' twin
  cases twin with
  | token found => exact .stray _
  | node twin => exact twin
  | dimension => exact .stray _
  | otherwise inner => exact .otherwise inner

theorem dimensions_of_twins : items.countP isDimension = items'.countP isDimension := by
  induction twins with
  | nil => rfl
  | cons twin _ ih =>
      rw [List.countP_cons, List.countP_cons, ih]
      cases twin <;> rfl

theorem elseStatements_of_twins :
    List.Forall₂ (Node.Twin link) (Lowering.elseStatements items)
      (Lowering.elseStatements items') := by
  have branches : List.Forall₂ (List.Forall₂ (Node.Twin link)) (items.filterMap otherwise?)
      (items'.filterMap otherwise?) := by
    apply List.rel_filterMap _ twins
    intro item item' twin
    cases twin with
    | otherwise inner => exact .some inner
    | _ => exact .none
  have last := getLast?_rel branches
  rw [Lowering.elseStatements, Lowering.elseStatements]
  generalize (items.filterMap otherwise?).getLast? = branch,
    (items'.filterMap otherwise?).getLast? = branch' at last ⊢
  cases last with
  | none => exact .nil
  | some inner => exact inner

theorem firstText?_of_twins (kinds : List String) :
    firstText? kinds items = firstText? kinds items' := by
  simp only [firstText?, firstToken?, tokens_of_twins twins]

theorem operator?_of_twins : operator? items = operator? items' := by
  simp only [operator?, tokens_of_twins twins]

end Views

end Item

namespace Lowering

open Item

variable {joined : Node → Node → Prop} {items items' : List Item}
  (twins : List.Forall₂ (Item.Twin (Node.Counterpart joined)) items items') (mark : Mark)

theorem counterpart_of_plain {node other : Node} (position : node.position = other.position)
    (wording : node.wording = other.wording) (plain : node.isAssign = false) :
    node.Counterpart joined other :=
  ⟨position, wording, fun assigns => by rw [plain] at assigns; cases assigns⟩

section Parentheses

variable {node other : Node} (twin : Node.Twin (Node.Counterpart joined) node other)

include twin

theorem parenthesise_twin :
    Node.Twin (Node.Counterpart joined) node.parenthesise other.parenthesise := by
  have pair := twin
  cases twin with
  | constant linked => exact .constant (counterpart_of_plain linked.1 linked.2.1 rfl)
  | _ => exact pair

theorem parenthesised_twin : Node.Twin (Node.Counterpart joined) node other.parenthesise := by
  have pair := twin
  cases twin with
  | constant linked => exact .constant (counterpart_of_plain linked.1 linked.2.1 rfl)
  | _ => exact pair

end Parentheses

section Total

include twins

theorem readProgram_twin :
    Node.Twin (Node.Counterpart joined) (readProgram mark items) (readProgram mark items') := by
  rw [readProgram, readProgram, nameOrBlank, nameOrBlank, firstText?_of_twins twins]
  exact .program (counterpart_of_plain rfl rfl rfl) (nodes_of_twins twins)

theorem readGroup_twin (kind : GroupKind) :
    Node.Twin (Node.Counterpart joined) (readGroup kind mark items)
      (readGroup kind mark items') :=
  .group (counterpart_of_plain rfl rfl rfl)
    (Node.Twin.filter (nodes_of_twins twins) Node.Twin.isDecl_eq)

theorem readEvent_twin :
    Node.Twin (Node.Counterpart joined) (readEvent mark items) (readEvent mark items') := by
  have inner := nodes_of_twins twins
  rw [readEvent, readEvent, nameOrBlank, nameOrBlank, firstText?_of_twins twins]
  generalize nodes items = found, nodes items' = found' at inner ⊢
  cases inner with
  | nil => exact .event (counterpart_of_plain rfl rfl rfl) .hole .nil
  | @cons first first' rest rest' twin others =>
      dsimp only
      rw [← twin.isCondition_eq]
      split
      · exact .event (counterpart_of_plain rfl rfl rfl) twin others
      · exact .event (counterpart_of_plain rfl rfl rfl) .hole (.cons twin others)

theorem readStream_twin :
    Node.Twin (Node.Counterpart joined) (readStream mark items) (readStream mark items') := by
  rw [readStream, readStream, firstText?_of_twins twins]
  exact .stream (counterpart_of_plain rfl rfl rfl)

theorem readCall_twin :
    Node.Twin (Node.Counterpart joined) (readCall mark items) (readCall mark items') := by
  rw [readCall, readCall, nameOrBlank, nameOrBlank, firstText?_of_twins twins]
  exact .call (counterpart_of_plain rfl rfl rfl) (nodes_of_twins twins)

theorem readOperation_twin :
    Node.Twin (Node.Counterpart joined) (readOperation mark items)
      (readOperation mark items') := by
  have inner := nodes_of_twins twins
  rw [readOperation, readOperation, operator?_of_twins twins]
  generalize nodes items = found, nodes items' = found' at inner ⊢
  cases operator? items' with
  | some op => exact .logical (counterpart_of_plain rfl rfl rfl) inner
  | none =>
      cases inner with
      | nil => exact .logical (counterpart_of_plain rfl rfl rfl) .nil
      | @cons first first' rest rest' twin others =>
          cases others with
          | nil =>
              dsimp only
              rw [← twin.isCondition_eq]
              split
              · exact twin
              · exact .logical (counterpart_of_plain rfl rfl rfl) (.cons twin .nil)
          | cons next others =>
              exact .logical (counterpart_of_plain rfl rfl rfl) (.cons twin (.cons next others))

theorem readCondition_twin :
    Node.Twin (Node.Counterpart joined) (readCondition mark items)
      (readCondition mark items') := by
  have operation := readOperation_twin twins mark
  have inner := nodes_of_twins twins
  rw [readCondition, readCondition, firstText?_of_twins twins, firstText?_of_twins twins]
  generalize nodes items = found, nodes items' = found' at inner ⊢
  cases inner with
  | nil =>
      dsimp only
      cases firstText? ["VARNAME"] items' with
      | some name => exact .flag (counterpart_of_plain rfl rfl rfl)
      | none =>
          dsimp only
          cases firstText? ["TRUE", "FALSE"] items' with
          | some text => exact .logical (counterpart_of_plain rfl rfl rfl) .nil
          | none => exact operation
  | cons twin others => exact operation

end Total

section Partial

variable {node : Node}

include twins

theorem readModule_twin (read : readModule mark items = .ok node) :
    ∃ node', readModule mark items' = .ok node' ∧
      Node.Twin (Node.Counterpart joined) node node' := by
  rw [readModule, firstText?_of_twins twins] at read
  rw [readModule]
  cases named : firstText? ["UPPER", "VARNAME"] items' with
  | none =>
      rw [named] at read
      cases read
  | some name =>
      rw [named] at read
      cases read
      exact ⟨_, rfl, .moduleBlock (counterpart_of_plain rfl rfl rfl)
        (Node.Twin.filter (nodes_of_twins twins) Node.Twin.isGroup_eq)⟩

theorem readRecord_twin (read : readRecord mark items = .ok node) :
    ∃ node', readRecord mark items' = .ok node' ∧
      Node.Twin (Node.Counterpart joined) node node' := by
  rw [readRecord, firstText?_of_twins twins] at read
  rw [readRecord]
  cases named : firstText? ["UPPER"] items' with
  | none =>
      rw [named] at read
      cases read
  | some name =>
      rw [named] at read
      cases read
      exact ⟨_, rfl, .record (counterpart_of_plain rfl rfl rfl)
        (Node.Twin.filter (nodes_of_twins twins) Node.Twin.isDecl_eq)⟩

theorem first_of_twins :
    Node.Twin (Node.Counterpart joined) ((nodes items).head?.getD .hole)
      ((nodes items').head?.getD .hole) := by
  have inner := nodes_of_twins twins
  generalize nodes items = found, nodes items' = found' at inner ⊢
  cases inner with
  | nil => exact .hole
  | cons twin others => exact twin

theorem readDecl_twin (read : readDecl mark items = .ok node) :
    ∃ node', readDecl mark items' = .ok node' ∧
      Node.Twin (Node.Counterpart joined) node node' := by
  have typed : readTypeName items = readTypeName items' := by
    simp only [readTypeName, firstText?_of_twins twins, tokens_of_twins twins]
  rw [readDecl, firstText?_of_twins twins, typed, dimensions_of_twins twins] at read
  rw [readDecl]
  cases named : firstText? ["VARNAME"] items' with
  | none =>
      rw [named] at read
      cases read
  | some name =>
      rw [named] at read
      dsimp only at read ⊢
      cases known : readTypeName items' with
      | error fault =>
          rw [known] at read
          cases read
      | ok type =>
          rw [known] at read
          cases read
          exact ⟨_, rfl, .decl (counterpart_of_plain rfl rfl rfl) (first_of_twins twins)⟩

theorem readStatement_twin (read : readStatement items = .ok node) :
    ∃ node', readStatement items' = .ok node' ∧
      Node.Twin (Node.Counterpart joined) node node' := by
  have inner := nodes_of_twins twins
  rw [readStatement] at read
  rw [readStatement]
  generalize nodes items = found, nodes items' = found' at inner read ⊢
  cases inner with
  | nil => cases read
  | cons twin others =>
      cases others with
      | nil =>
          cases read
          exact ⟨_, rfl, twin⟩
      | cons next others => cases read

theorem readAssign_twin
    (join : ∀ {made made'}, readAssign mark items = .ok made → readAssign mark items' = .ok made' →
      joined made made')
    (read : readAssign mark items = .ok node) :
    ∃ node', readAssign mark items' = .ok node' ∧
      Node.Twin (Node.Counterpart joined) node node' := by
  have inner := nodes_of_twins twins
  simp only [readAssign, firstText?_of_twins twins] at read join ⊢
  generalize nodes items = found, nodes items' = found' at inner read join ⊢
  cases named : firstText? ["VARNAME"] items' with
  | none =>
      rw [named] at read
      cases read
  | some target =>
      rw [named] at read join
      cases inner with
      | nil => cases read
      | cons twin others =>
          cases others with
          | nil =>
              cases read
              exact ⟨_, rfl, .assign ⟨rfl, rfl, fun _ => join rfl rfl⟩ .hole twin⟩
          | cons next others =>
              cases read
              refine ⟨_, rfl, .assign ⟨rfl, rfl, fun _ => join rfl rfl⟩ twin ?_⟩
              have last := getLast?_rel (List.Forall₂.cons next others)
              rw [List.getLast?_eq_some_getLast (List.cons_ne_nil _ _),
                List.getLast?_eq_some_getLast (List.cons_ne_nil _ _)] at last
              cases last with
              | some twin => exact twin

theorem readConditional_twin (read : readConditional mark items = .ok node) :
    ∃ node', readConditional mark items' = .ok node' ∧
      Node.Twin (Node.Counterpart joined) node node' := by
  have inner := nodes_of_twins twins
  rw [readConditional] at read
  rw [readConditional]
  generalize nodes items = found, nodes items' = found' at inner read ⊢
  cases inner with
  | nil => cases read
  | cons twin others =>
      cases read
      exact ⟨_, rfl, .conditional (counterpart_of_plain rfl rfl rfl) twin others
        (elseStatements_of_twins twins)⟩

theorem readConstant_twin {list list' : List Item → String}
    (read : readConstant list mark items = .ok node) :
    readConstant list' mark items' = .ok node ∧
      Node.Twin (Node.Counterpart joined) node node := by
  rw [readConstant, tokens_of_twins twins] at read
  rw [readConstant]
  generalize (tokens items').findSome? (fun token =>
    (constantTokens.lookup token.kind).map fun kind => (kind, token.text)) = found at read ⊢
  cases found with
  | none => cases read
  | some literal =>
      cases read
      exact ⟨rfl, .constant (counterpart_of_plain rfl rfl rfl)⟩

/-- Two values make an operation. Otherwise the tokens decide, and only then a value in
parentheses stands for itself. -/
theorem readValue_twin {list list' : List Item → String}
    (read : readValue list mark items = .ok node) :
    ∃ node', readValue list' mark items' = .ok node' ∧
      Node.Twin (Node.Counterpart joined) node node' := by
  have inner := nodes_of_twins twins
  have first := first_of_twins twins
  have opened : opensParenthesis items = opensParenthesis items' := by
    simp only [opensParenthesis, firstText?_of_twins twins]
  simp only [readValue, firstText?_of_twins twins, operator?_of_twins twins, opened] at read ⊢
  have standing : Node.Twin (Node.Counterpart joined)
      (if opensParenthesis items' then ((nodes items).head?.getD .hole).parenthesise
        else (nodes items).head?.getD .hole)
      (if opensParenthesis items' then ((nodes items').head?.getD .hole).parenthesise
        else (nodes items').head?.getD .hole) := by
    split
    · exact parenthesise_twin first
    · exact first
  generalize nodes items = found, nodes items' = found' at inner first standing read ⊢
  rcases inner with _ | ⟨twin, _ | ⟨next, _ | ⟨third, others⟩⟩⟩
  case cons.cons.nil =>
    cases operator : operator? items' with
    | none =>
        rw [operator] at read
        cases read
    | some op =>
        rw [operator] at read
        cases read
        exact ⟨_, rfl, .binary (counterpart_of_plain rfl rfl rfl) twin next⟩
  all_goals
    cases named : firstText? ["VARNAME"] items' with
    | some name =>
        rw [named] at read
        cases read
        exact ⟨_, rfl, .reference (counterpart_of_plain rfl rfl rfl) first⟩
    | none =>
        rw [named] at read
        cases quoted : firstText? ["STRING"] items' with
        | some text =>
            rw [quoted] at read
            cases read
            exact ⟨_, rfl, .stringLiteral (counterpart_of_plain rfl rfl rfl)⟩
        | none =>
            rw [quoted] at read
            cases read <;> exact ⟨_, rfl, standing⟩

end Partial

theorem map_node_twin {made made' : Except Fault Node} {item : Item}
    (each : ∀ node, made = .ok node → ∃ node', made' = .ok node' ∧ Node.Twin link node node')
    (wrapped : made.map Item.node = .ok item) :
    ∃ item', made'.map Item.node = .ok item' ∧ Item.Twin link item item' := by
  obtain ⟨node, made, rfl⟩ := Item.map_node_eq_ok_iff.mp wrapped
  obtain ⟨node', made', twin⟩ := each node made
  exact ⟨.node node', Item.map_node_eq_ok_iff.mpr ⟨node', made', rfl⟩, .node twin⟩

end Lowering

section Rules

open Lowering Item

variable {joined : Node → Node → Prop} {items items' : List Item}
  (twins : List.Forall₂ (Item.Twin (Node.Counterpart joined)) items items') {mark : Mark}

include twins

theorem Rule.read_twin {rule : Rule} {list list' : List Item → String} {item : Item}
    (join : rule = .assign → ∀ {made made'}, readAssign mark items = .ok made →
      readAssign mark items' = .ok made' → joined made made')
    (read : rule.read list mark items = .ok item) :
    ∃ item', rule.read list' mark items' = .ok item' ∧
      Item.Twin (Node.Counterpart joined) item item' := by
  cases rule with
  | program =>
      cases read
      exact ⟨_, rfl, .node (readProgram_twin twins mark)⟩
  | moduleBlock => exact map_node_twin (fun _ => readModule_twin twins mark) read
  | group kind =>
      cases read
      exact ⟨_, rfl, .node (readGroup_twin twins mark kind)⟩
  | dimension =>
      cases read
      exact ⟨_, rfl, .dimension⟩
  | decl => exact map_node_twin (fun _ => readDecl_twin twins mark) read
  | record => exact map_node_twin (fun _ => readRecord_twin twins mark) read
  | event =>
      cases read
      exact ⟨_, rfl, .node (readEvent_twin twins mark)⟩
  | statement => exact map_node_twin (fun _ => readStatement_twin twins) read
  | assign => exact map_node_twin (fun _ => readAssign_twin twins mark (join rfl)) read
  | stream =>
      cases read
      exact ⟨_, rfl, .node (readStream_twin twins mark)⟩
  | elseBlock =>
      cases read
      exact ⟨_, rfl, .otherwise (nodes_of_twins twins)⟩
  | conditional => exact map_node_twin (fun _ => readConditional_twin twins mark) read
  | constant =>
      exact map_node_twin (fun node read => ⟨node, readConstant_twin twins mark read⟩) read
  | call =>
      cases read
      exact ⟨_, rfl, .node (readCall_twin twins mark)⟩
  | value => exact map_node_twin (fun _ => readValue_twin twins mark) read
  | condition =>
      cases read
      exact ⟨_, rfl, .node (readCondition_twin twins mark)⟩

end Rules

theorem Reserved.always_vacant {name : String} {reserved : Reserved} {found : Node}
    (named : ofName? name = some reserved) (always : reserved.sight = .always found) :
    Node.Twin link found found ∧ found.isBlank = true := by
  have vacant : (Reserved.all.all fun reserved =>
      match reserved.sight with
      | .always .hole | .always (.stray _) | .switch | .settings => true
      | .always _ => false) = true := by
    decide
  have mine := List.all_eq_true.mp vacant reserved (List.mem_of_find?_eq_some named)
  rw [always] at mine
  cases found with
  | hole => exact ⟨.hole, rfl⟩
  | stray thing => exact ⟨.stray thing, rfl⟩
  | _ => cases mine

namespace Reader

open Item

variable {reader reader' after : Reader} (readers : reader.Twin link reader')

theorem twin_fresh : Twin link {} {} := ⟨.some .initial, rfl, rfl, rfl⟩

section Requests

variable {item : Item} {items items' : List Item}

include readers

theorem Twin.readsTokens_eq : reader.readsTokens = reader'.readsTokens := by
  obtain ⟨switch, formerSwitches, barred, bundleCount⟩ := reader
  obtain ⟨switch', formerSwitches', barred', bundleCount'⟩ := reader'
  cases readers.switch with
  | none => rfl
  | some twin =>
      cases twin with
      | initial => rfl
      | token found => rfl
      | bundle serial inner =>
          cases inner with
          | nil => rfl
          | cons twin others => rfl

theorem Twin.switchItem_twin : Item.Twin link reader.switchItem reader'.switchItem := by
  obtain ⟨switch, formerSwitches, barred, bundleCount⟩ := reader
  obtain ⟨switch', formerSwitches', barred', bundleCount'⟩ := reader'
  cases readers.switch with
  | none => exact .node (.stray _)
  | some twin =>
      cases twin with
      | initial => exact .node (.stray _)
      | token found => exact .token found
      | bundle serial inner => exact .node (.bundle serial inner)

omit readers in
theorem switchItem_blank {node : Node} (same : reader.switchItem = .node node) :
    node.isBlank = true := by
  rw [switchItem] at same
  cases setting : reader.switch.getD .initial with
  | initial =>
      rw [setting] at same
      cases same
      rfl
  | token found =>
      rw [setting] at same
      cases same
  | bundle serial parts =>
      rw [setting] at same
      cases same
      rfl

theorem answerRule_twin (twins : List.Forall₂ (Item.Twin link) items items') {name : String}
    {request : Request} (answered : reader.answerRule name items request = .ok (item, after)) :
    ∃ item' after', reader'.answerRule name items' request = .ok (item', after') ∧
      Item.Twin link item item' ∧ after.Twin link after' := by
  obtain ⟨switch, formerSwitches, barred, bundleCount⟩ := reader
  obtain ⟨switch', formerSwitches', barred', bundleCount'⟩ := reader'
  obtain ⟨switches, tables, rfl, rfl⟩ :
      Option.Rel (Setting.Twin link) switch switch' ∧
        formerSwitches.length = formerSwitches'.length ∧ barred = barred' ∧
          bundleCount = bundleCount' :=
    ⟨readers.switch, readers.tables, readers.barred, readers.bundles⟩
  have parts := Item.parts_of_twins twins
  cases request with
  | switch =>
      cases answered
      exact ⟨_, _, rfl, .node .hole, ⟨.some (.bundle _ parts), tables, rfl, rfl⟩⟩
  | bar =>
      cases answered
      exact ⟨_, _, rfl, .node (.stray _), ⟨switches, tables, rfl, rfl⟩⟩
  | answer found =>
      cases answered
      exact ⟨_, _, rfl, .node (.stray _), ⟨switches, tables, rfl, rfl⟩⟩
  | bundle =>
      cases answered
      exact ⟨_, _, rfl, .node (.bundle _ parts), ⟨switches, tables, rfl, rfl⟩⟩
  | refused | clear | inspect | describe => cases answered

theorem clear?_twin {name : String} (cleared : reader.clear? name = some after) :
    ∃ after', reader'.clear? name = some after' ∧ after.Twin link after' := by
  have tables : (reader.formerSwitches ++ [reader.switch]).length =
      (reader'.formerSwitches ++ [reader'.switch]).length := by
    simp [readers.tables]
  have known : reader.switch.isSome = reader'.switch.isSome := by
    have switches := readers.switch
    generalize reader.switch = switch, reader'.switch = switch' at switches
    cases switches <;> rfl
  unfold clear? at cleared ⊢
  rw [← known]
  split at cleared
  · rename_i all
    cases cleared
    rw [if_pos all]
    exact ⟨_, rfl, .none, tables, readers.barred, readers.bundles⟩
  · rename_i one
    rw [if_neg one]
    split at cleared
    · rename_i set
      cases cleared
      rw [if_pos set]
      exact ⟨_, rfl, .none, readers.tables, readers.barred, readers.bundles⟩
    · cases cleared

theorem look_twin {name : String} {reserved : Reserved}
    (named : Reserved.ofName? name = some reserved) :
    Item.Twin link (reader.look reserved.sight) (reader'.look reserved.sight) ∧
      (reader.look reserved.sight).Vacant := by
  cases seen : reserved.sight with
  | always found =>
      obtain ⟨twin, blank⟩ := @Reserved.always_vacant link _ _ _ named seen
      exact ⟨.node twin, vacant_node blank⟩
  | switch => exact ⟨readers.switchItem_twin, fun _ => switchItem_blank⟩
  | settings =>
      rw [look, look, tableNumber, tableNumber, readers.tables]
      exact ⟨.node (.stray _), vacant_node rfl⟩

theorem inspect?_twin {name : String} (seen : reader.inspect? name = some item) :
    ∃ item', reader'.inspect? name = some item' ∧ Item.Twin link item item' ∧
      item.Vacant := by
  unfold inspect? at seen ⊢
  cases known : Rule.ofName? name with
  | some rule =>
      rw [known] at seen
      cases seen
      refine ⟨_, rfl, ?_⟩
      rw [lookAtRule, lookAtRule, ← readers.barred]
      split
      · exact ⟨.node (.stray _), vacant_node rfl⟩
      · exact ⟨.node (.stray _), vacant_node rfl⟩
  | none =>
      rw [known] at seen
      cases reserved : Reserved.ofName? name with
      | none =>
          rw [reserved] at seen
          cases seen
      | some found =>
          rw [reserved] at seen
          cases seen
          exact ⟨_, rfl, look_twin readers reserved⟩

theorem answerToken_twin {found : Token} {request : Request}
    (answered : reader.answerToken found request = .ok (item, after)) :
    ∃ item' after', reader'.answerToken found request = .ok (item', after') ∧
      Item.Twin link item item' ∧ after.Twin link after' ∧
      item.Vacant := by
  cases request with
  | switch =>
      cases answered
      exact ⟨_, _, rfl, .node .hole,
        ⟨.some (.token found), readers.tables, readers.barred, readers.bundles⟩,
        vacant_node rfl⟩
  | clear =>
      rw [answerToken] at answered ⊢
      cases cleared : reader.clear? found.text with
      | none =>
          rw [cleared] at answered
          cases answered
      | some next =>
          rw [cleared] at answered
          cases answered
          obtain ⟨after', clearedToo, twin⟩ := clear?_twin readers cleared
          rw [clearedToo]
          exact ⟨_, _, rfl, .node .hole, twin, vacant_node rfl⟩
  | inspect =>
      rw [answerToken] at answered ⊢
      cases seen : reader.inspect? found.text with
      | none =>
          rw [seen] at answered
          cases answered
      | some sight =>
          rw [seen] at answered
          cases answered
          obtain ⟨item', seenToo, twin, blank⟩ := inspect?_twin readers seen
          rw [seenToo]
          exact ⟨_, _, rfl, twin, readers, blank⟩
  | describe =>
      rw [answerToken] at answered ⊢
      split at answered
      · rename_i empty
        cases answered
        rw [if_pos empty]
        exact ⟨_, _, rfl, .node (.stray _), readers, vacant_node rfl⟩
      · cases answered
  | bundle =>
      rw [answerToken] at answered ⊢
      split at answered
      · rename_i plain
        cases answered
        rw [if_pos plain]
        exact ⟨_, _, rfl, .token found, readers, fun node same => by cases same⟩
      · cases answered
  | refused => cases answered
  | bar =>
      cases answered
      exact ⟨_, _, rfl, .node (.stray _),
        ⟨readers.switch, readers.tables, rfl, readers.bundles⟩, vacant_node rfl⟩
  | answer object =>
      cases answered
      exact ⟨_, _, rfl, .node (.stray _), readers, vacant_node rfl⟩

end Requests

section Parts

variable {item : Item} {items items' : List Item}

theorem readToken_of_rule {rule : Rule} {found : Token} (read : rule.readToken found = .ok item) :
    Item.Twin link item item ∧ item.Vacant := by
  have strays (node : Node) (member : node ∈ found.strays) :
      Node.Twin link node node ∧ node.isBlank = true := by
    obtain ⟨character, _, rfl⟩ := List.mem_map.mp member
    exact ⟨.stray _, rfl⟩
  cases rule with
  | dimension =>
      cases read
      exact ⟨.dimension, fun _ same => by cases same⟩
  | elseBlock =>
      cases read
      exact ⟨.otherwise (List.forall₂_same.mpr fun node member => (strays node member).1),
        fun _ same => by cases same⟩
  | statement =>
      rw [Rule.readToken, Lowering.readStatement, nodes_map_node] at read
      split at read
      · rename_i statement same
        cases read
        obtain ⟨twin, blank⟩ := strays statement (by rw [same]; exact List.mem_singleton_self _)
        exact ⟨.node twin, vacant_node blank⟩
      · cases read
  | _ => cases read

include readers

theorem readToken_twin {found : Token} (read : reader.readToken found = .ok (item, after)) :
    ∃ item' after', reader'.readToken found = .ok (item', after') ∧
      Item.Twin link item item' ∧ after.Twin link after' ∧ item.Vacant := by
  unfold readToken at read ⊢
  rw [← readers.readsTokens_eq]
  cases switched : reader.readsTokens with
  | false =>
      rw [switched] at read
      cases read
      exact ⟨_, _, rfl, .token found, readers, fun _ same => by cases same⟩
  | true =>
      rw [switched] at read
      simp only [Bool.not_true, Bool.false_eq_true, if_false] at read ⊢
      cases known : Rule.ofName? found.kind with
      | some rule =>
          rw [known] at read
          dsimp only at read ⊢
          cases made : rule.readToken found with
          | error fault =>
              rw [made] at read
              cases read
          | ok item =>
              rw [made] at read
              cases read
              obtain ⟨twin, vacant⟩ := @readToken_of_rule link _ _ _ made
              exact ⟨_, _, rfl, twin, readers, vacant⟩
      | none =>
          rw [known] at read
          dsimp only at read ⊢
          cases reserved : Reserved.ofName? found.kind with
          | some answer =>
              rw [reserved] at read
              exact answerToken_twin readers read
          | none =>
              rw [reserved] at read
              cases read
              exact ⟨_, _, rfl, .token found, readers, fun _ same => by cases same⟩

end Parts

theorem readRule_twin {joined : Node → Node → Prop} {item : Item} {items items' : List Item}
    (readers : reader.Twin (Node.Counterpart joined) reader')
    (twins : List.Forall₂ (Item.Twin (Node.Counterpart joined)) items items') {name : String}
    {mark : Mark}
    (join : Rule.ofName? name = some .assign → ∀ {made made'},
      Lowering.readAssign mark items = .ok made → Lowering.readAssign mark items' = .ok made' →
      joined made made')
    (read : reader.readRule name mark items = .ok (item, after)) :
    ∃ item' after', reader'.readRule name mark items' = .ok (item', after') ∧
      Item.Twin (Node.Counterpart joined) item item' ∧
      after.Twin (Node.Counterpart joined) after' := by
  rcases readRule_eq_ok_iff.mp read with
    ⟨rule, known, barred, made, rfl⟩ | ⟨unknown, reserved, known, answered⟩
  · obtain ⟨item', madeToo, twin⟩ := Rule.read_twin twins
      (fun assigns => join (by rw [known, assigns])) made
    have barredToo : reader'.bars rule = false := by
      rw [← barred, Reader.bars, Reader.bars, readers.barred]
    exact ⟨item', reader', readRule_eq_ok_iff.mpr (.inl ⟨rule, known, barredToo, madeToo, rfl⟩),
      twin, readers⟩
  · obtain ⟨item', after', answeredToo, twin, later⟩ := answerRule_twin readers twins answered
    exact ⟨item', after', readRule_eq_ok_iff.mpr (.inr ⟨unknown, reserved, known, answeredToo⟩),
      twin, later⟩

end Reader

end SwarmCheck
