import SwarmCheck.Proofs.ReadingInvariants
import SwarmCheck.Proofs.FaultSources

/-!
# The shape of trees that have been read

Whatever a parse tree looks like, what it is read as is in shape: each list of declarations holds
what it should, every declaration names a type that there is, a leading condition of an event is its
precondition, and every name that refers to a variable was a name in the source. Tokens and marks
do not get into the result either, as long as nothing in the tree is bundled. So no phase ever
stops at an unknown type.
-/

namespace SwarmCheck

set_option autoImplicit false

/-- Every variable that a node refers to is named by a token of a tree. -/
def Node.NamedIn (tree : ParseTree) (node : Node) : Prop :=
  ∀ text, node.referenceText? = some text → ⟨"VARNAME", text⟩ ∈ tree.tokens

theorem Node.shaped_of_blank {node : Node} (tree : ParseTree) (blank : node.isBlank = true) :
    node.Shaped ∧ node.NamedIn tree := by
  cases node with
  | hole | stray | bundle | otherwise => exact ⟨trivial, fun _ mentioned => by cases mentioned⟩
  | _ => cases blank

theorem Reader.Sound.name_of_readAll {reader after : Reader} {children : List ParseTree}
    {items : List Item} (sound : reader.Sound)
    (read : reader.readAll children = .ok (items, after)) {text : String}
    (named : Item.firstText? ["VARNAME"] items = some text) :
    .token ⟨"VARNAME", text⟩ ∈ children := by
  rw [Item.firstText?, sound.firstToken? read (by decide)] at named
  obtain ⟨⟨kind, _⟩, first, rfl⟩ := Option.map_eq_some_iff.mp named
  have isName : kind = "VARNAME" := by simpa using List.find?_some first
  rw [← isName]
  exact ParseTree.mem_tokensAmong.mp (List.mem_of_find?_eq_some first)

theorem kept_shaped (tree : ParseTree) :
    Kept tree fun node => node.Shaped ∧ node.NamedIn tree where
  odd node odd := Node.shaped_of_blank tree (Node.isBlank_of_isOdd odd)
  parenthesised node holds := by
    cases node with
    | constant => exact ⟨trivial, fun _ mentioned => by cases mentioned⟩
    | _ => exact holds
  made within _ sound read made := by
    refine ⟨made.shaped, fun text mentioned => ?_⟩
    have child := sound.name_of_readAll read (made.named text mentioned)
    exact ParseTree.mem_tokensAmong.mpr (ParseTree.mem_subtrees_of_child within child)
  bundled := .inr fun _ blank => Node.shaped_of_blank tree blank

theorem Reader.unmarked_of_read {reader after : Reader} {tree : ParseTree} {item : Item}
    (read : reader.read tree = .ok (item, after)) : ∀ node ∈ item.held, node.isMark = false := by
  have odd {item : Item} (odd : item.Odd) : ∀ node ∈ item.held, node.isMark = false :=
    fun node member => Node.isMark_of_isOdd (odd.held node member)
  induction tree generalizing reader item after with
  | token found =>
      rcases readToken_cases read with ⟨rfl, _⟩ | ⟨_, ⟨isOdd, _⟩ | ⟨_, rfl, _⟩⟩
      · intro node member
        cases member
      · exact odd isOdd
      · rcases reader.switchItem_cases with isOdd | ⟨_, _, shown⟩ | ⟨_, _, _, shown⟩
        · exact odd isOdd
        · rw [shown]
          exact fun _ member => by cases member
        · rw [shown]
          exact fun node member => List.mem_singleton.mp member ▸ rfl
  | placeholder =>
      cases read
      exact odd (Item.odd_node rfl)
  | rule name children mark ih =>
      obtain ⟨items, middle, childrenRead, made⟩ := read_rule_eq_ok_iff.mp read
      have handed := (readAll_keeps (fun child member _ _ _ _ childRead =>
        ⟨ih child member childRead, trivial⟩) trivial childrenRead).1
      rcases readRule_eq_ok_iff.mp made with
        ⟨rule, _, _, ruleRead, _⟩ | ⟨_, reserved, _, answered⟩
      · intro node member
        rcases ((Rule.gives_of_read ruleRead).2 node member).origin with own | ⟨inner, given, same⟩
        · exact own.unmarked
        · obtain ⟨source, inItems, held⟩ := List.mem_flatMap.mp (Item.mem_heldBy_of_nodes given)
          have unmarked := handed source inItems inner held
          rcases same with rfl | rfl
          · exact unmarked
          · exact Node.isMark_parenthesise inner ▸ unmarked
      · rcases answerRule_cases answered with ⟨isOdd, _⟩ | ⟨_, _, serial, rfl⟩
        · exact odd isOdd
        · intro node member
          rw [List.mem_singleton.mp member]
          rfl

theorem kept_unmarked {tree : ParseTree} (unbundled : tree.Unbundled) :
    Kept tree fun node => node.isMark = false where
  odd _ odd := Node.isMark_of_isOdd odd
  parenthesised node unmarked := Node.isMark_parenthesise node ▸ unmarked
  made _ _ _ _ made := made.unmarked
  bundled := .inl unbundled

def Node.HoldsNoMarks (node : Node) : Prop :=
  node.isBlank = false → ∀ part ∈ node.parts, part.isMark = false

theorem kept_holdsNoMarks (tree : ParseTree) : Kept tree Node.HoldsNoMarks where
  odd node odd present := by
    rw [Node.isBlank_of_isOdd odd] at present
    cases present
  parenthesised node holds := by
    cases node with
    | constant => exact fun _ _ member => by cases member
    | _ => exact holds
  made _ _ _ read made := by
    intro _ part member
    rcases made.parts part member with rfl | brought
    · rfl
    · obtain ⟨item, inItems, held⟩ := List.mem_flatMap.mp brought
      have each := (Reader.readAll_keeps (fun _ _ _ _ _ _ childRead =>
        ⟨Reader.unmarked_of_read childRead, trivial⟩) trivial read).1
      exact each item inItems part held
  bundled := .inr fun node blank present => by
    rw [blank] at present
    cases present

theorem Item.everywhere_below {property : Node → Prop} {item : Item}
    (held : ∀ node ∈ item.held, node.Everywhere property) :
    ∀ part ∈ item.part.parts, part.Everywhere property := by
  intro part member
  cases item with
  | token | dimension => cases member
  | node found =>
      exact (Node.everywhere_iff.mp (held found (List.mem_singleton_self found))).2 part member
  | otherwise statements => exact held part member

/-- The shape of every tree that is read. Of whatever occurs in it, modules hold groups, groups and
records hold declarations, declarations have types and no negative number of dimensions, a leading
condition of an event is its precondition, and the variables referred to are named by tokens of the
tree. No node holds a token or a mark, so where nothing in the tree is bundled none of these occurs
below the root. And no phase stops at an unknown type, whatever table it works on. -/
theorem lowered_tree_is_shaped {tree : ParseTree} {item : Item}
    (lowered : tree.lower = .ok item) :
    (∀ inner, item.part.Occurs inner → inner.Shaped ∧ inner.NamedIn tree ∧ inner.HoldsNoMarks) ∧
    (tree.Unbundled →
      ∀ part ∈ item.part.parts, ∀ inner, part.Occurs inner → inner.isMark = false) ∧
    ∀ (phase : Phase) (policy : RedefinitionPolicy) (table : SymbolTable) (typeName : String),
      (phase.work policy item.part table).outcome ≠ .error (.unknownType typeName) := by
  have shaped : item.part.Everywhere fun node => node.Shaped ∧ node.NamedIn tree :=
    Item.everywhere_part (fun _ => Node.shaped_of_blank tree) ((kept_shaped tree).lower lowered)
  have unmarked : item.part.Everywhere Node.HoldsNoMarks :=
    Item.everywhere_part (fun _ blank present => by rw [blank] at present; cases present)
      ((kept_holdsNoMarks tree).lower lowered)
  refine ⟨fun inner occurs =>
    ⟨(shaped inner occurs).1, (shaped inner occurs).2, unmarked inner occurs⟩,
    fun unbundled => ?_, fun phase policy table typeName failed => ?_⟩
  · exact Item.everywhere_below ((kept_unmarked unbundled).lower lowered)
  · rcases Phase.fault_of_work failed with ⟨_, other⟩ | ⟨inner, member, may⟩
    · cases other
    · have inShape := (shaped inner (Node.occurs_of_mem_preorder member)).1
      cases may with
      | unknownType unknown =>
          obtain ⟨type, known⟩ := inShape.2
          rw [unknown] at known
          cases known

/-- A module with an array of counters, and an event that resets one of them. -/
def resetCounter : ParseTree :=
  let rule (name : String) (children : List ParseTree) : ParseTree := .rule name children {}
  let token (kind text : String) : ParseTree := .token ⟨kind, text⟩
  let zero := rule "aexpr" [rule "constant" [token "INUM" "0"]]
  rule "program"
    [token "VARNAME" "reset",
      rule "module"
        [token "UPPER" "Motor",
          rule "actuatordecls"
            [rule "decl" [token "INT" "int", token "VARNAME" "steps", rule "arraydec" []]]],
      rule "event"
        [token "VARNAME" "stop",
          rule "bexpr" [token "VARNAME" "Motor.done"],
          rule "stmt"
            [rule "assign" [token "VARNAME" "Motor.steps", zero, token "ASGN" "=", zero]]]]

/-- The assignment that is read there is named by the source, and nothing in the tree is bundled. -/
theorem resetCounter_shaped :
    ∃ program, resetCounter.lower = .ok (.node program) ∧ resetCounter.Unbundled ∧
      (∀ inner, program.Occurs inner →
        inner.Shaped ∧ inner.NamedIn resetCounter ∧ inner.HoldsNoMarks) ∧
      (∀ part ∈ program.parts, ∀ inner, part.Occurs inner → inner.isMark = false) ∧
      (Phase.build.work .reject program .empty).outcome ≠ .error (.unknownType "int") := by
  cases lowered : resetCounter.lower with
  | error fault =>
      have returned : resetCounter.lower.isOk = true := rfl
      rw [lowered] at returned
      cases returned
  | ok item =>
      have isNode : resetCounter.lower.map (·.node?.isSome) = .ok true := rfl
      rw [lowered] at isNode
      cases item with
      | node program =>
          have unbundled : resetCounter.Unbundled := by decide
          obtain ⟨shaped, unmarked, known⟩ := lowered_tree_is_shaped lowered
          exact ⟨program, rfl, unbundled, shaped, unmarked unbundled, known _ _ _ _⟩
      | _ => cases isNode

/-- A declaration whose initial value is a bundle with a token in it. -/
def bundledInitial : ParseTree :=
  .rule "program"
    [.rule "localvars"
      [.rule "decl"
        [.token ⟨"INT", "int"⟩, .token ⟨"VARNAME", "x"⟩,
          .rule "transform" [.token ⟨"ASGN", "="⟩] {}] {}] {}] {}

/-- A rule with a reserved name is not refused there, and the token it bundles is in the result. -/
theorem token_occurs_in_bundledInitial :
    ∃ program, bundledInitial.lower = .ok (.node program) ∧
      ∃ part ∈ program.parts, ∃ inner, part.Occurs inner ∧ inner = .stray (.token ⟨"ASGN", "="⟩) ∧
        inner.isMark = true := by
  let bundle : Node := .bundle 0 [.stray (.token ⟨"ASGN", "="⟩)]
  let declared : Node := .decl "x" "int" false 0 bundle none
  refine ⟨.program "" [.group .locals [declared] none] none, rfl,
    .group .locals [declared] none, List.mem_singleton_self _, _, ?_, rfl, rfl⟩
  have inGroup : (Node.group .locals [declared] none).Occurs declared :=
    .part .whole (List.mem_singleton_self _)
  have inDecl : (Node.group .locals [declared] none).Occurs bundle :=
    .part inGroup (List.mem_singleton_self _)
  exact .part inDecl (List.mem_singleton_self _)

end SwarmCheck
