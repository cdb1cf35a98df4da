import SwarmCheck.Proofs.Acceptance
import SwarmCheck.Proofs.ReadingInvariants
import SwarmCheck.Proofs.Parentheses

/-!
# Where identities come from

A variable that all agents read takes nothing but the writing agent's own identity. That is checked
on the program, so it says as much about the source as reading leaves of it. A tree that is read as
an identity has a token for it, at the end of a chain of layers that leave nothing of their own. But
the other tokens of such a tree are dropped, whatever they say. So the source has nothing but the
identity exactly where no tokens are dropped.
-/

namespace SwarmCheck

set_option autoImplicit false

namespace ParseTree

def tokensIn (trees : List ParseTree) : List Token := tokensAmong (subtreesIn trees)

theorem tokensIn_append_cons (earlier later : List ParseTree) (tree : ParseTree) :
    tokensIn (earlier ++ tree :: later) = tokensIn earlier ++ (tree.tokens ++ tokensIn later) := by
  simp only [tokensIn, tokens, subtreesIn_eq_flatMap, List.flatMap_append, List.flatMap_cons,
    tokensAmong_append]

def firstAmong? (kinds : List String) (trees : List ParseTree) : Option Token :=
  (tokensAmong trees).find? (kinds.contains ·.kind)

/-- Whether a number can be made of a token. -/
def isLiteral (found : Token) : Bool := (Lowering.constantTokens.lookup found.kind).isSome

theorem plain_of_isLiteral {found : Token} (literal : isLiteral found = true) :
    PlainKind found.kind := by
  have plain : ∀ pair ∈ Lowering.constantTokens, PlainKind pair.1 := by decide
  obtain ⟨kind, looked⟩ := Option.isSome_iff_exists.mp literal
  obtain ⟨before, rest, split, _⟩ := List.lookup_eq_some_iff.mp looked
  exact plain (found.kind, kind) (by simp [split])

theorem kind_of_lookup {kind : String} (looked : Lowering.constantTokens.lookup kind = some .pid) :
    kind = "PID" := by
  have single : ∀ pair ∈ Lowering.constantTokens, pair.2 = .pid → pair.1 = "PID" := by decide
  obtain ⟨before, rest, split, _⟩ := List.lookup_eq_some_iff.mp looked
  exact single (kind, .pid) (by simp [split]) rfl

/-- A tree with the token of an identity in it, and the tokens before and after that one. The token
is the first literal of a number. Around the number there may be statements, and values that are
neither named nor quoted and do not begin with a parenthesis. -/
inductive Carries : ParseTree → List Token → Token → List Token → Prop
  | literal {name : String} {earlier later : List ParseTree} {mark : Mark} {pid : Token}
      (rule : Rule.ofName? name = some .constant) (identity : pid.kind = "PID")
      (first : ∀ found ∈ tokensAmong earlier, isLiteral found = false) :
      Carries (.rule name (earlier ++ .token pid :: later) mark) (tokensIn earlier) pid
        (tokensIn later)
  | statement {name : String} {earlier later : List ParseTree} {mark : Mark} {inner : ParseTree}
      {before after : List Token} {pid : Token} (rule : Rule.ofName? name = some .statement)
      (carries : Carries inner before pid after) :
      Carries (.rule name (earlier ++ inner :: later) mark) (tokensIn earlier ++ before) pid
        (after ++ tokensIn later)
  | value {name : String} {earlier later : List ParseTree} {mark : Mark} {inner : ParseTree}
      {before after : List Token} {pid : Token} (rule : Rule.ofName? name = some .value)
      (unnamed : firstAmong? ["VARNAME"] (earlier ++ inner :: later) = none)
      (unquoted : firstAmong? ["STRING"] (earlier ++ inner :: later) = none)
      (unopened : ∀ found, firstAmong? ["LPAR"] (earlier ++ inner :: later) = some found →
        found.text = "")
      (carries : Carries inner before pid after) :
      Carries (.rule name (earlier ++ inner :: later) mark) (tokensIn earlier ++ before) pid
        (after ++ tokensIn later)

variable {tree : ParseTree} {before after : List Token} {pid : Token}

theorem Carries.tokens_eq (carries : tree.Carries before pid after) :
    tree.tokens = before ++ pid :: after := by
  induction carries with
  | literal => exact tokensIn_append_cons ..
  | statement rule carries ih | value rule unnamed unquoted unopened carries ih =>
      refine (tokensIn_append_cons ..).trans ?_
      rw [ih]
      simp only [List.append_assoc, List.cons_append]

theorem Carries.kind_eq (carries : tree.Carries before pid after) : pid.kind = "PID" := by
  induction carries with
  | literal rule identity first => exact identity
  | statement rule carries ih | value rule unnamed unquoted unopened carries ih => exact ih

/-- The token of the identity is the only one exactly if none are dropped. -/
theorem Carries.single_iff (carries : tree.Carries before pid after) :
    (∃ only, tree.tokens = [only] ∧ only.kind = "PID") ↔ before = [] ∧ after = [] := by
  rw [carries.tokens_eq]
  constructor
  · rintro ⟨only, same, _⟩
    have size := congrArg List.length same
    rw [List.length_append, List.length_cons, List.length_singleton] at size
    exact ⟨List.length_eq_zero_iff.mp (by omega), List.length_eq_zero_iff.mp (by omega)⟩
  · rintro ⟨rfl, rfl⟩
    exact ⟨pid, rfl, carries.kind_eq⟩

theorem exists_split {keep : Token → Bool} {trees : List ParseTree} {found : Token}
    {rest : List Token} (first : (tokensAmong trees).filter keep = found :: rest) :
    ∃ earlier later, trees = earlier ++ .token found :: later ∧
      ∀ other ∈ tokensAmong earlier, keep other = false := by
  obtain ⟨others, _, same, dropped, _, _⟩ := List.filter_eq_cons_iff.mp first
  obtain ⟨front, back, rfl, inFront, inBack⟩ := List.filterMap_eq_append_iff.mp same
  obtain ⟨between, tree, later, rfl, silent, own, _⟩ := List.filterMap_eq_cons_iff.mp inBack
  have isToken : tree = .token found := by
    cases tree with
    | token other =>
        cases own
        rfl
    | _ => cases own
  refine ⟨front ++ between, later, by rw [isToken, List.append_assoc], fun other member => ?_⟩
  have nothing : tokensAmong between = [] := List.filterMap_eq_nil_iff.mpr silent
  have earlier : tokensAmong front = others := inFront
  rw [tokensAmong_append, nothing, earlier, List.append_nil] at member
  exact Bool.eq_false_iff.mpr (dropped other member)

end ParseTree

namespace Reader

variable {reader after : Reader}

/-- The tree among others that the last node is read from, and the reader that comes to it. -/
inductive ReadsLast (place : Reader) (tree : ParseTree) (node : Node) :
    Reader → List ParseTree → Prop
  | here {next after : Reader} {rest : List ParseTree} {items : List Item}
      (read : place.read tree = .ok (.node node, next))
      (finish : next.readAll rest = .ok (items, after)) (last : Item.nodes items = []) :
      ReadsLast place tree node place (tree :: rest)
  | further {reader next : Reader} {first : ParseTree} {rest : List ParseTree} {item : Item}
      (read : reader.read first = .ok (item, next)) (later : ReadsLast place tree node next rest) :
      ReadsLast place tree node reader (first :: rest)

theorem readsLast_of_readAll {trees : List ParseTree} {items : List Item} {node : Node}
    (read : reader.readAll trees = .ok (items, after))
    (last : (Item.nodes items).getLast? = some node) :
    ∃ place tree, ReadsLast place tree node reader trees := by
  induction trees generalizing reader items with
  | nil =>
      cases read
      cases last
  | cons tree rest ih =>
      obtain ⟨item, middle, later, treeRead, restRead, rfl⟩ := readAll_cons_eq_ok_iff.mp read
      by_cases none : Item.nodes later = []
      · cases item with
        | node found =>
            rw [Item.nodes_node_cons, none] at last
            cases last
            exact ⟨reader, tree, .here treeRead restRead none⟩
        | token | dimension | otherwise =>
            have empty : (Item.nodes later).getLast? = some node := last
            rw [none] at empty
            cases empty
      · have same : (Item.nodes later).getLast? = some node := by
          cases item with
          | node found =>
              rw [Item.nodes_node_cons, List.getLast?_cons_of_ne_nil none] at last
              exact last
          | token | dimension | otherwise => exact last
        obtain ⟨place, source, found⟩ := ih restRead same
        exact ⟨place, source, .further treeRead found⟩

variable {place : Reader} {tree : ParseTree} {node : Node} {trees : List ParseTree}

theorem ReadsLast.read (last : ReadsLast place tree node reader trees) :
    ∃ next, place.read tree = .ok (.node node, next) := by
  induction last with
  | here read finish last => exact ⟨_, read⟩
  | further read later ih => exact ih

theorem ReadsLast.sound (last : ReadsLast place tree node reader trees) (sound : reader.Sound) :
    place.Sound := by
  induction last with
  | here => exact sound
  | further read later ih => exact ih (sound.read read).1

theorem ReadsLast.split (last : ReadsLast place tree node reader trees) :
    ∃ earlier later, trees = earlier ++ tree :: later := by
  induction last with
  | @here _ _ rest => exact ⟨[], rest, rfl⟩
  | @further _ _ first _ _ _ _ ih =>
      obtain ⟨earlier, later, rfl⟩ := ih
      exact ⟨first :: earlier, later, rfl⟩

theorem Sound.literal_of_readConstant {items : List Item} (sound : reader.Sound)
    (read : reader.readAll trees = .ok (items, after)) {list : List Item → String} {mark : Mark}
    {kind : ConstantKind} {text : String} {position : Option Position} {flag : Bool}
    (made : Lowering.readConstant list mark items = .ok (.constant kind text position flag)) :
    ∃ earlier found later, trees = earlier ++ .token found :: later ∧
      Lowering.constantTokens.lookup found.kind = some kind ∧
      ∀ other ∈ ParseTree.tokensAmong earlier, ParseTree.isLiteral other = false := by
  rw [Lowering.readConstant] at made
  split at made
  · rename_i first
    cases made
    obtain ⟨skipped, found, rest, same, taken, others⟩ := List.findSome?_eq_some_iff.mp first
    obtain ⟨looked, lookup, pair⟩ := Option.map_eq_some_iff.mp taken
    cases pair
    have literal : ParseTree.isLiteral found = true := by rw [ParseTree.isLiteral, lookup]; rfl
    have none : skipped.filter ParseTree.isLiteral = [] := by
      rw [List.filter_eq_nil_iff]
      intro other member
      have missing := Option.map_eq_none_iff.mp (others other member)
      rw [ParseTree.isLiteral, missing]
      exact Bool.false_ne_true
    have leads : (ParseTree.tokensAmong trees).filter ParseTree.isLiteral =
        found :: rest.filter ParseTree.isLiteral := by
      rw [← (sound.readAll read).2 _ fun _ => ParseTree.plain_of_isLiteral, same,
        List.filter_append, none, List.nil_append, List.filter_cons_of_pos literal]
    obtain ⟨earlier, later, split, before⟩ := ParseTree.exists_split leads
    exact ⟨earlier, found, later, split, lookup, before⟩
  · cases made

theorem Sound.text_of_unopened {items : List Item} (sound : reader.Sound)
    (read : reader.readAll trees = .ok (items, after))
    (unopened : Lowering.opensParenthesis items = false) {found : Token}
    (first : ParseTree.firstAmong? ["LPAR"] trees = some found) : found.text = "" := by
  rw [Lowering.opensParenthesis, Item.firstText?, sound.firstToken? read (by decide)] at unopened
  rw [ParseTree.firstAmong?] at first
  rw [first] at unopened
  simpa using unopened

theorem Sound.firstAmong?_eq_none {items : List Item} (sound : reader.Sound)
    (read : reader.readAll trees = .ok (items, after)) {kinds : List String}
    (plain : ∀ kind ∈ kinds, PlainKind kind) (absent : Item.firstText? kinds items = none) :
    ParseTree.firstAmong? kinds trees = none := by
  rw [Item.firstText?, Option.map_eq_none_iff, sound.firstToken? read plain] at absent
  exact absent

end Reader

theorem Reader.Sound.carries_of_read {reader after : Reader} {tree : ParseTree} {node : Node}
    (sound : reader.Sound) (read : reader.read tree = .ok (.node node, after))
    (own : node.isOwnIdentity = true) : ∃ before pid rest, tree.Carries before pid rest := by
  obtain ⟨text, position, rfl⟩ := WriteAccess.isOwnIdentity_iff.mp own
  induction tree generalizing reader after with
  | token found =>
      rcases readToken_cases read with ⟨same, _⟩ | ⟨_, ⟨odd, _⟩ | ⟨_, same, _⟩⟩
      · cases same
      · cases odd.held _ (List.mem_singleton_self _)
      · rcases reader.switchItem_cases with odd | ⟨_, _, shown⟩ | ⟨_, _, _, shown⟩
        · rw [← same] at odd
          cases odd.held _ (List.mem_singleton_self _)
        · cases same.trans shown
        · cases same.trans shown
  | placeholder => cases read
  | rule name children mark ih =>
      obtain ⟨items, middle, childrenRead, made⟩ := read_rule_eq_ok_iff.mp read
      -- a layer has one node, and the tree that this one is read from carries the identity
      have below (only : Item.nodes items = [.constant .pid text position false]) :
          ∃ earlier inner later before pid rest, children = earlier ++ inner :: later ∧
            inner.Carries before pid rest := by
        obtain ⟨place, inner, last⟩ := readsLast_of_readAll childrenRead (by rw [only]; rfl)
        obtain ⟨next, innerRead⟩ := last.read
        obtain ⟨earlier, later, split⟩ := last.split
        obtain ⟨before, pid, rest, carries⟩ :=
          ih inner (by simp [split]) (last.sound sound) innerRead
        exact ⟨earlier, inner, later, before, pid, rest, split, carries⟩
      rcases readRule_eq_ok_iff.mp made with
        ⟨rule, known, _, ruleRead, _⟩ | ⟨_, reserved, _, answered⟩
      · rcases Rule.constant_of_read ruleRead with ⟨rfl, number⟩ | ⟨rfl, value⟩ | ⟨rfl, only⟩
        · obtain ⟨earlier, found, later, rfl, looked, first⟩ :=
            sound.literal_of_readConstant childrenRead number
          exact ⟨_, found, _, .literal known (ParseTree.kind_of_lookup looked) first⟩
        · obtain ⟨unnamed, unquoted, inner, only, unopened⟩ :=
            Lowering.readValue_eq_constant_iff.mp value
          obtain ⟨closed, rfl⟩ := Bool.or_eq_false_iff.mp unopened.symm
          obtain ⟨earlier, inner, later, before, pid, rest, rfl, carries⟩ := below only
          exact ⟨_, pid, _, .value known
            (sound.firstAmong?_eq_none childrenRead (by decide) unnamed)
            (sound.firstAmong?_eq_none childrenRead (by decide) unquoted)
            (fun _ => sound.text_of_unopened childrenRead closed) carries⟩
        · obtain ⟨earlier, inner, later, before, pid, rest, rfl, carries⟩ := below only
          exact ⟨_, pid, _, .statement known carries⟩
      · rcases answerRule_cases answered with ⟨odd, _⟩ | ⟨_, _, serial, same⟩
        · cases odd.held _ (List.mem_singleton_self _)
        · cases same

section LastPhase

variable {policy : RedefinitionPolicy} {program : Node} {final : SymbolTable}

theorem Analyzer.last_phase_of_silent {phases : List Phase} {last : Phase} {table : SymbolTable}
    (clean : table.Clean)
    (returned : (runPhases policy program (phases ++ [last]) table).outcome = .ok final)
    (silent : final.Clean) :
    ∃ before : SymbolTable, before.Clean ∧
      (last.work policy program before).outcome = .ok () ∧
      final = (last.work policy program before).table := by
  induction phases generalizing table with
  | nil =>
      have worked := work_returned returned
      rw [List.nil_append, outcome_runPhases_singleton, worked] at returned
      cases returned
      exact ⟨table, clean, worked, rfl⟩
  | cons phase rest ih =>
      have worked := work_returned returned
      by_cases quiet : (phase.work policy program table).table.Clean
      · rw [List.cons_append, outcome_runPhases_silent clean worked quiet] at returned
        exact ih quiet returned
      · rw [List.cons_append, outcome_runPhases_blocked clean worked quiet] at returned
        cases returned
        exact absurd silent quiet

/-- In a valid program, all that is written to what all agents read are identities. -/
theorem WriteAccess.assignsIdentity_of_valid {settings : Settings}
    (returned : (analyze settings program).outcome = .ok final) (valid : final.isValid = true)
    {node : Node} (member : node ∈ program.preorder)
    (allRead : writesAllRead final.env node = true) : node.assignsIdentity = true := by
  obtain ⟨phase, only⟩ := (Analyzer.gated_of_analyze returned).single
  have silent := only.isValid_iff.mp valid
  have ran := (Analyzer.analyze_eq_ok_iff.mp returned).2
  obtain ⟨before, clean, worked, rfl⟩ :=
    @Analyzer.last_phase_of_silent _ _ _ [.build, .resolve, .types] .access .empty
      SymbolTable.clean_empty ran silent
  have listed :
      (Phase.access.work settings.recordRedefinition program before).table.readOnlyWrites =
        targets (writesReadOnly before.env) program.preorder :=
    LayeredTree.access_list rfl clean worked readOnlyWrites_list
  rw [silent] at listed
  by_contra other
  have refused : writesReadOnly before.env node = true := by
    rw [writesReadOnly, Bool.and_eq_true, Bool.not_eq_true']
    exact ⟨allRead, Bool.eq_false_iff.mpr other⟩
  have written : ∃ target, node.target? = some target := by
    rw [writesAllRead, decide_eq_true_eq] at allRead
    obtain ⟨target, same, _⟩ := Option.bind_eq_some_iff.mp allRead
    exact ⟨target, same⟩
  obtain ⟨target, same⟩ := written
  have present : target ∈ targets (writesReadOnly before.env) program.preorder :=
    List.mem_filterMap.mpr ⟨node, List.mem_filter.mpr ⟨member, refused⟩, same⟩
  rw [← listed] at present
  cases present

end LastPhase

/-- A subtree that is come to when a tree is read, and the reader that comes to it. -/
inductive Reader.Reaches (start : Reader) (whole : ParseTree) : Reader → ParseTree → Prop
  | whole : Reaches start whole start whole
  | child {before place : Reader} {name : String} {earlier later : List ParseTree}
      {child : ParseTree} {mark : Mark} {items : List Item}
      (above : Reaches start whole before (.rule name (earlier ++ child :: later) mark))
      (read : before.readAll earlier = .ok (items, place)) : Reaches start whole place child

theorem Reader.Reaches.sound {start place : Reader} {whole tree : ParseTree}
    (reached : Reaches start whole place tree) (sound : start.Sound) : place.Sound := by
  induction reached with
  | whole => exact sound
  | child above read ih => exact (ih.readAll read).1

/-- In a valid program, whatever is written to a variable that all agents read is the own identity,
and the tree of the assignment carries a token for it. It is the only token of the value exactly if
none of them are dropped around it. -/
theorem allRead_write_carries_identity {settings : Settings} {filename : Option String}
    {tree : ParseTree} {table : SymbolTable} {program : Node}
    (returned : (analyzeTree settings filename tree).outcome = .ok table)
    (valid : table.isValid = true) (lowered : tree.lower = .ok (.node program))
    {reader after : Reader} {name : String} {children : List ParseTree} {mark : Mark} {node : Node}
    (reached : Reader.Reaches {} tree reader (.rule name children mark))
    (assigns : Rule.ofName? name = some .assign)
    (read : reader.read (.rule name children mark) = .ok (.node node, after))
    (appears : node ∈ program.preorder)
    (allRead : WriteAccess.writesAllRead table.env node = true) :
    ∃ place value assigned before pid rest,
      node.assigned? = some assigned ∧ Reader.ReadsLast place value assigned reader children ∧
      value.Carries before pid rest ∧ value.tokens = before ++ pid :: rest ∧ pid.kind = "PID" ∧
      ((∃ only, value.tokens = [only] ∧ only.kind = "PID") ↔ before = [] ∧ rest = []) := by
  obtain ⟨other, loweredToo, analyzed⟩ := analyzeTree_eq_ok_iff.mp returned
  rw [lowered] at loweredToo
  cases loweredToo
  have identity := WriteAccess.assignsIdentity_of_valid analyzed valid appears allRead
  obtain ⟨items, middle, childrenRead, made⟩ := Reader.read_rule_eq_ok_iff.mp read
  have ruleRead : Rule.read middle.list mark items .assign = .ok (.node node) :=
    Reader.read_of_readRule assigns made
  obtain ⟨_, assignment, same⟩ := Item.map_node_eq_ok_iff.mp ruleRead
  cases same
  rw [Node.assignsIdentity] at identity
  cases found : node.assigned? with
  | none =>
      rw [found] at identity
      cases identity
  | some assigned =>
      rw [found] at identity
      have last := found ▸ Lowering.assigned?_of_readAssign assignment
      obtain ⟨place, value, readsLast⟩ := Reader.readsLast_of_readAll childrenRead last.symm
      obtain ⟨next, valueRead⟩ := readsLast.read
      have sound := readsLast.sound (reached.sound Reader.sound_fresh)
      obtain ⟨before, pid, rest, carries⟩ := sound.carries_of_read valueRead identity
      exact ⟨place, value, assigned, before, pid, rest, rfl, readsLast, carries, carries.tokens_eq,
        carries.kind_eq, carries.single_iff⟩

def negatedIdentity : ParseTree :=
  .rule "aexpr" [.token ⟨"MINUS", "-"⟩, .rule "constant" [.token ⟨"PID", "pid"⟩] {}] {}

def negatedLeaderParts : List ParseTree :=
  [.token ⟨"VARNAME", "leader"⟩, .token ⟨"ASGN", "="⟩, negatedIdentity]

def plainLeaderWrite : Node := .assign "leader" .hole (.constant .pid "pid" none false) none

def negatedStatement : ParseTree := .rule "stmt" [.rule "assign" negatedLeaderParts {}] {}

def negatedEvent : ParseTree := .rule "event" [.token ⟨"VARNAME", "claim"⟩, negatedStatement] {}

def leaderDeclared : ParseTree :=
  .rule "allreadvars" [.rule "decl" [.token ⟨"INT", "int"⟩, .token ⟨"VARNAME", "leader"⟩] {}] {}

def negatedLeader : ParseTree :=
  .rule "program" [.token ⟨"VARNAME", "election"⟩, leaderDeclared, negatedEvent] {}

theorem negatedLeader_accepted :
    ∃ table program, (analyzeTree {} none negatedLeader).outcome = .ok table ∧
      table.isValid = true ∧ negatedLeader.lower = .ok (.node program) ∧
      Reader.Reaches {} negatedLeader {} (.rule "assign" negatedLeaderParts {}) ∧
      ({} : Reader).read (.rule "assign" negatedLeaderParts {}) = .ok (.node plainLeaderWrite, {}) ∧
      plainLeaderWrite ∈ program.preorder ∧
      WriteAccess.writesAllRead table.env plainLeaderWrite = true := by
  have inProgram : Reader.Reaches {} negatedLeader {} negatedEvent :=
    @Reader.Reaches.child _ _ {} _ _ [.token ⟨"VARNAME", "election"⟩, leaderDeclared] [] _ _ _
      .whole rfl
  have inEvent : Reader.Reaches {} negatedLeader {} negatedStatement :=
    @Reader.Reaches.child _ _ {} _ _ [.token ⟨"VARNAME", "claim"⟩] [] _ _ _ inProgram rfl
  have reached : Reader.Reaches {} negatedLeader {} (.rule "assign" negatedLeaderParts {}) :=
    @Reader.Reaches.child _ _ {} _ _ [] [] _ _ _ inEvent rfl
  have accepted : (analyzeTree {} none negatedLeader).outcome.map (fun table =>
      (table.isValid, WriteAccess.writesAllRead table.env plainLeaderWrite)) =
        .ok (true, true) := rfl
  cases returned : (analyzeTree {} none negatedLeader).outcome with
  | error fault =>
      rw [returned] at accepted
      cases accepted
  | ok table =>
      rw [returned] at accepted
      have both := Prod.mk.inj (Except.ok.inj accepted)
      refine ⟨table, .program "election"
        [.group .allRead [.decl "leader" "int" false 0 .hole none] none,
          .event "claim" .hole [plainLeaderWrite] none] none,
        rfl, both.1, rfl, reached, rfl, ?_, both.2⟩
      simp [Node.preorder, Node.preorderIn, Node.isBlank, plainLeaderWrite]

/-- The value that is assigned there carries the identity, and drops the sign before it. -/
theorem negatedLeader_carries :
    ∃ place value before pid rest,
      Reader.ReadsLast place value (.constant .pid "pid" none false) {} negatedLeaderParts ∧
      value.Carries before pid rest ∧ value.tokens = before ++ pid :: rest ∧ pid.kind = "PID" ∧
      ((∃ only, value.tokens = [only] ∧ only.kind = "PID") ↔ before = [] ∧ rest = []) := by
  obtain ⟨table, program, returned, valid, lowered, reached, read, appears, allRead⟩ :=
    negatedLeader_accepted
  obtain ⟨place, value, _, before, pid, rest, same, last, carries⟩ :=
    allRead_write_carries_identity returned valid lowered reached rfl read appears allRead
  cases same
  exact ⟨place, value, before, pid, rest, last, carries⟩

/-- The program is valid, though the value assigned to the leader has another token besides the
identity. -/
theorem negated_identity_is_accepted :
    ∃ table program, (analyzeTree {} none negatedLeader).outcome = .ok table ∧
      table.isValid = true ∧ negatedLeader.lower = .ok (.node program) ∧
      Reader.Reaches {} negatedLeader {} (.rule "assign" negatedLeaderParts {}) ∧
      plainLeaderWrite ∈ program.preorder ∧
      WriteAccess.writesAllRead table.env plainLeaderWrite = true ∧
      Reader.ReadsLast {} negatedIdentity (.constant .pid "pid" none false) {} negatedLeaderParts ∧
      negatedIdentity.tokens = [⟨"MINUS", "-"⟩, ⟨"PID", "pid"⟩] := by
  obtain ⟨table, program, returned, valid, lowered, reached, _, appears, allRead⟩ :=
    negatedLeader_accepted
  have last : Reader.ReadsLast {} negatedIdentity (.constant .pid "pid" none false) {}
      negatedLeaderParts :=
    .further rfl (.further rfl (.here rfl rfl rfl))
  exact ⟨table, program, returned, valid, lowered, reached, appears, allRead, last, rfl⟩

end SwarmCheck
