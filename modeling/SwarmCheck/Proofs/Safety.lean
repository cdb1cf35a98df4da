import SwarmCheck.Proofs.Gating

/-!
# No fault after a successful build

The later phases look up every reference again and would stop if one did not resolve, or if a
declaration named an unknown type. Neither can happen once the table was built: the walk that
collects declarations has met every declaration that does not stand below another, and the type
phase only runs when every reference of the tree has been resolved against the same table.
-/

namespace SwarmCheck

set_option autoImplicit false

namespace Node

/-- No declaration stands below this one, if it is one. -/
def Flat : Node → Prop
  | decl _ _ _ _ initial _ => ∀ inner ∈ initial.preorder, inner.isDecl = false
  | _ => True

/-- The node names no type, or one that there is. -/
def TypeKnown : Node → Prop
  | decl _ typeName isRecord dims _ _ => ∃ type, declaredType typeName isRecord dims = .ok type
  | _ => True

theorem typeKnown_of_not_decl {node : Node} (other : node.isDecl = false) : node.TypeKnown := by
  cases node with
  | decl => cases other
  | _ => trivial

end Node

namespace Declarations

open Trail

section Lists

variable {context : Context} {nodes : List Node}

theorem collectAll_each {fields result : Fields}
    (collected : (collectAll context fields nodes).outcome = .ok result) :
    ∀ node ∈ nodes, node.isBlank = false →
      ∃ before after, (collect context before node).outcome = .ok after := by
  induction nodes generalizing fields with
  | nil => simp
  | cons node rest ih =>
      rw [collectAll] at collected
      split at collected
      · cases collected
      · rw [outcome_bind_eq_ok_iff] at collected
        obtain ⟨after, first, later⟩ := collected
        intro other member present
        rcases List.mem_cons.mp member with same | inRest
        · rw [same]
          exact ⟨fields, after, first⟩
        · exact ih later other inRest present

theorem collectIn_each {fields result : Fields}
    (collected : (collectIn context fields nodes).outcome = .ok result) :
    ∀ node ∈ nodes, node.isBlank = false →
      ∃ before after, (collect context before node).outcome = .ok after := by
  induction nodes generalizing fields with
  | nil => simp
  | cons node rest ih =>
      rw [collectIn] at collected
      split at collected
      · rename_i blank
        intro other member present
        rcases List.mem_cons.mp member with same | inRest
        · rw [same, blank] at present
          cases present
        · exact ih collected other inRest present
      · rw [outcome_bind_eq_ok_iff] at collected
        obtain ⟨after, first, later⟩ := collected
        intro other member present
        rcases List.mem_cons.mp member with same | inRest
        · rw [same]
          exact ⟨fields, after, first⟩
        · exact ih later other inRest present

end Lists

/-- What a walk over the declarations below a node establishes if it comes to its end. -/
def KnowsTypes (node : Node) : Prop :=
  (∀ inner ∈ node.preorder, inner.Flat) → ∀ context fields result,
    (collect context fields node).outcome = .ok result →
      ∀ inner ∈ node.preorder, inner.TypeKnown

theorem typeKnown_of_entries {nodes : List Node} {context : Context}
    (knows : ∀ node ∈ nodes, KnowsTypes node)
    (flat : ∀ inner ∈ Node.preorderIn nodes, inner.Flat)
    (met : ∀ node ∈ nodes, node.isBlank = false →
      ∃ before after, (collect context before node).outcome = .ok after) :
    ∀ inner ∈ Node.preorderIn nodes, inner.TypeKnown := by
  rw [Node.forall_mem_preorderIn] at flat ⊢
  intro node member present
  obtain ⟨before, after, collected⟩ := met node member present
  exact knows node member (flat node member present) context before after collected

theorem declaredType_of_collectDecl {context : Context} {fields result : Fields} {site : Node}
    {name typeName : String} {isRecord : Bool} {dims : Int}
    (collected : (collectDecl context fields site name typeName isRecord dims).outcome =
      .ok result) :
    ∃ type, declaredType typeName isRecord dims = .ok type := by
  unfold collectDecl at collected
  split at collected
  · cases collected
  · rename_i type known
    exact ⟨type, known⟩

/-- The walk meets every declaration that does not stand below another, so if it comes to its
end, all types are known. -/
theorem collect_knowsTypes (node : Node) : KnowsTypes node := by
  induction node with
  | hole => simp [KnowsTypes, Node.preorder]
  | stray found => simp [KnowsTypes, Node.preorder]
  | bundle serial parts ih =>
      intro flat context fields result collected
      simp only [Node.preorder] at flat ⊢
      rw [collect] at collected
      exact typeKnown_of_entries ih flat (collectIn_each collected)
  | otherwise statements ih => simp [KnowsTypes, Node.preorder]
  | constant kind text position parenthesised =>
      simp [KnowsTypes, Node.preorder, Node.TypeKnown]
  | stringLiteral value position => simp [KnowsTypes, Node.preorder, Node.TypeKnown]
  | reference name index position ih =>
      intro flat context fields result collected
      simp only [Node.preorder, List.forall_mem_cons] at flat ⊢
      rw [collect] at collected
      exact ⟨trivial, ih flat.2 _ _ _ collected⟩
  | call name args position ih =>
      intro flat context fields result collected
      simp only [Node.preorder, List.forall_mem_cons] at flat ⊢
      rw [collect] at collected
      exact ⟨trivial, typeKnown_of_entries ih flat.2 (collectIn_each collected)⟩
  | binary op left right position leftIh rightIh =>
      intro flat context fields result collected
      simp only [Node.preorder, List.forall_mem_cons, List.forall_mem_append] at flat ⊢
      rw [collect, outcome_bind_eq_ok_iff] at collected
      obtain ⟨between, first, second⟩ := collected
      exact ⟨trivial, leftIh flat.2.1 _ _ _ first, rightIh flat.2.2 _ _ _ second⟩
  | logical op operands position ih =>
      intro flat context fields result collected
      simp only [Node.preorder, List.forall_mem_cons] at flat ⊢
      rw [collect] at collected
      exact ⟨trivial, typeKnown_of_entries ih flat.2 (collectIn_each collected)⟩
  | flag name position => simp [KnowsTypes, Node.preorder, Node.TypeKnown]
  | assign target index value position indexIh valueIh =>
      intro flat context fields result collected
      simp only [Node.preorder, List.forall_mem_cons, List.forall_mem_append] at flat ⊢
      rw [collect, outcome_bind_eq_ok_iff] at collected
      obtain ⟨between, first, second⟩ := collected
      exact ⟨trivial, indexIh flat.2.1 _ _ _ first, valueIh flat.2.2 _ _ _ second⟩
  | stream channel position => simp [KnowsTypes, Node.preorder, Node.TypeKnown]
  | conditional condition thenBody elseBody position conditionIh thenIh elseIh =>
      intro flat context fields result collected
      simp only [Node.preorder, List.forall_mem_cons, List.forall_mem_append] at flat ⊢
      rw [collect, outcome_bind_eq_ok_iff] at collected
      obtain ⟨afterCondition, first, rest⟩ := collected
      rw [outcome_bind_eq_ok_iff] at rest
      obtain ⟨afterThen, second, third⟩ := rest
      exact ⟨trivial, conditionIh flat.2.1 _ _ _ first,
        typeKnown_of_entries thenIh flat.2.2.1 (collectIn_each second),
        typeKnown_of_entries elseIh flat.2.2.2 (collectIn_each third)⟩
  | decl name typeName isRecord dims initial position ih =>
      intro flat context fields result collected
      simp only [Node.preorder, List.forall_mem_cons] at flat ⊢
      rw [collect] at collected
      -- The walk does not go below a declaration, but there is no other one to be met there.
      exact ⟨declaredType_of_collectDecl collected,
        fun inner below => Node.typeKnown_of_not_decl (flat.1 inner below)⟩
  | group kind decls position ih =>
      intro flat context fields result collected
      simp only [Node.preorder, List.forall_mem_cons] at flat ⊢
      rw [collect] at collected
      exact ⟨trivial, typeKnown_of_entries ih flat.2 (collectAll_each collected)⟩
  | moduleBlock name groups position ih =>
      intro flat context fields result collected
      simp only [Node.preorder, List.forall_mem_cons] at flat ⊢
      rw [collect] at collected
      exact ⟨trivial, typeKnown_of_entries ih flat.2 (collectAll_each collected)⟩
  | record name fields position ih =>
      intro flat context before result collected
      simp only [Node.preorder, List.forall_mem_cons] at flat ⊢
      rw [collect, outcome_bind_eq_ok_iff] at collected
      obtain ⟨own, first, _⟩ := collected
      exact ⟨trivial, typeKnown_of_entries ih flat.2 (collectAll_each first)⟩
  | event name precondition effects position preconditionIh effectsIh =>
      intro flat context fields result collected
      simp only [Node.preorder, List.forall_mem_cons, List.forall_mem_append] at flat ⊢
      rw [collect, outcome_bind_eq_ok_iff] at collected
      obtain ⟨between, first, second⟩ := collected
      exact ⟨trivial, preconditionIh flat.2.1 _ _ _ first,
        typeKnown_of_entries effectsIh flat.2.2 (collectIn_each second)⟩
  | program name items position ih =>
      intro flat context fields result collected
      simp only [Node.preorder, List.forall_mem_cons] at flat ⊢
      rw [collect] at collected
      exact ⟨trivial, typeKnown_of_entries ih flat.2 (collectIn_each collected)⟩

end Declarations

namespace References

theorem findings_entriesAt_eq_nil_iff (env : Environment) (node : Node) :
    Entry.findings (entriesAt env node) = [] ↔
      ∀ text, node.referenceText? = some text →
        ∃ resolution, env.resolve text = .ok resolution := by
  unfold entriesAt
  cases mentioned : node.referenceText? with
  | none => simp
  | some text =>
      cases found : env.resolve text with
      | ok resolution => simp [found]
      | error cause => simp [found]

theorem findings_check_eq_nil_iff {program : Node} (present : program.isBlank = false)
    (env : Environment) :
    Entry.findings (check env program).emitted = [] ↔
      ∀ node ∈ program.preorder, ∀ text, node.referenceText? = some text →
        ∃ resolution, env.resolve text = .ok resolution := by
  simp only [check, present, Bool.false_eq_true, if_false, Trail.emitted_emit,
    Entry.findings_flatMap, List.flatMap_eq_nil_iff, findings_entriesAt_eq_nil_iff]

end References

namespace Typing

/-- A tree whose references resolve, whose types are known and whose places are filled is checked
to its end. -/
theorem check_returns {env : Environment} {program : Node} (present : program.isBlank = false)
    (resolved : ∀ node ∈ program.preorder, ∀ text, node.referenceText? = some text →
      ∃ resolution, env.resolve text = .ok resolution)
    (known : ∀ node ∈ program.preorder, node.TypeKnown)
    (filled : ∀ node ∈ program.preorder, node.Filled) :
    (check env program).outcome = .ok () := by
  have within : (check env program).Within (Entry.OfPhase .types) fun _ => False := by
    apply check_within
    · intro blank
      rw [present] at blank
      cases blank
    · intro inner below fault mayFault
      cases mayFault with
      | reference mentioned missing =>
          obtain ⟨resolution, found⟩ := resolved inner below _ mentioned
          rw [missing] at found
          cases found
      | unknownType unknown =>
          obtain ⟨type, declared⟩ := known _ below
          rw [unknown] at declared
          cases declared
      | emptyPlace unfilled => exact unfilled (filled inner below)
  obtain ⟨_, returned⟩ := within.returns
  exact returned

end Typing

namespace WriteAccess

theorem check_returns {env : Environment} {program : Node} (present : program.isBlank = false)
    (resolved : ∀ node ∈ program.preorder, ∀ text, node.referenceText? = some text →
      ∃ resolution, env.resolve text = .ok resolution) :
    (check env program).outcome = .ok () := by
  have within : (check env program).Within (Entry.OfPhase .access) fun _ => False := by
    apply check_within
    · intro blank
      rw [present] at blank
      cases blank
    · rintro inner below fault ⟨text, cause, mentioned, missing, _⟩
      obtain ⟨resolution, found⟩ := resolved inner below text mentioned
      rw [missing] at found
      cases found
  obtain ⟨_, returned⟩ := within.returns
  exact returned

end WriteAccess

namespace Phase

section Inspect

variable {pass : Environment → Node → Pass Unit} {program : Node} {table : SymbolTable}

theorem inspect_clean_iff (clean : table.Clean) :
    (inspect pass program table).table.Clean ↔
      Entry.findings (pass table.env program).emitted = [] := by
  rw [inspect_journal_of_clean clean, Journal.clean_ofFindings_iff]

theorem inspect_table_of_silent (silent : Entry.findings (pass table.env program).emitted = []) :
    (inspect pass program table).table = table := by
  rw [inspect, silent]
  rfl

end Inspect

theorem typesKnown_of_build {policy : RedefinitionPolicy} {program : Node} {table : SymbolTable}
    (present : program.isBlank = false) (flat : ∀ node ∈ program.preorder, node.Flat)
    (worked : (build.work policy program table).outcome = .ok ()) :
    ∀ node ∈ program.preorder, node.TypeKnown := by
  cases ended : (Declarations.collect {} .empty program).outcome with
  | ok fields => exact Declarations.collect_knowsTypes program flat _ _ _ ended
  | error fault =>
      simp [work, declare, Declarations.ofProgram, present, ended, Except.map] at worked

theorem work_of_run {policy : RedefinitionPolicy} {program : Node} {table : SymbolTable}
    {phase : Phase} {result : Result}
    (ran : (phase.run policy program table).outcome = .ok result) :
    (phase.work policy program table).outcome = .ok () := by
  unfold run at ran
  cases worked : (phase.work policy program table).outcome with
  | error fault => simp [worked] at ran
  | ok done => rfl

end Phase

namespace Analyzer

variable {policy : RedefinitionPolicy} {program : Node} {table : SymbolTable} {phase : Phase}
  {rest : List Phase} {others : Prop}

/-- A run of phases returns a table, which is valid exactly under a condition. -/
def Decides (policy : RedefinitionPolicy) (program : Node) (phases : List Phase)
    (table : SymbolTable) (accepted : Prop) : Prop :=
  ∃ final, (runPhases policy program phases table).outcome = .ok final ∧
    (final.isValid = true ↔ accepted)

theorem Decides.of_iff {phases : List Phase} {accepted other : Prop}
    (decides : Decides policy program phases table accepted) (same : accepted ↔ other) :
    Decides policy program phases table other := by
  obtain ⟨final, returned, quiet⟩ := decides
  exact ⟨final, returned, quiet.trans same⟩

theorem decides_nil (clean : table.Clean) : Decides policy program [] table True :=
  ⟨table, rfl, iff_true_intro clean.isValid⟩

theorem decides_cons (clean : table.Clean)
    (worked : (phase.work policy program table).outcome = .ok ())
    (later : (phase.work policy program table).table.Clean →
      Decides policy program rest (phase.work policy program table).table others) :
    Decides policy program (phase :: rest) table
      ((phase.work policy program table).table.Clean ∧ others) := by
  by_cases silent : (phase.work policy program table).table.Clean
  · obtain ⟨final, returned, accepted⟩ := later silent
    rw [← outcome_runPhases_silent clean worked silent] at returned
    exact ⟨final, returned, by simp [silent, accepted]⟩
  · refine ⟨_, outcome_runPhases_blocked clean worked silent rest, ?_⟩
    rw [(work_onlyFrom clean phase).isValid_iff]
    exact iff_of_false silent fun accepted => silent accepted.1

theorem decides_inspect {pass : Environment → Node → Pass Unit}
    (inspects : phase.work policy program table = Phase.inspect pass program table)
    (clean : table.Clean) (returned : (pass table.env program).outcome = .ok ())
    (later : Entry.findings (pass table.env program).emitted = [] →
      Decides policy program rest table others) :
    Decides policy program (phase :: rest) table
      (Entry.findings (pass table.env program).emitted = [] ∧ others) := by
  rw [← Phase.inspect_clean_iff clean, ← inspects]
  apply decides_cons clean
  · rw [inspects]
    exact returned
  · rw [inspects, Phase.inspect_clean_iff clean]
    intro silent
    rw [Phase.inspect_table_of_silent silent]
    exact later silent

/-- The phases after the build return on every table without findings, and add none exactly when
no pass over the program does. -/
theorem later_phases_decide (present : program.isBlank = false)
    (known : ∀ node ∈ program.preorder, node.TypeKnown)
    (filled : ∀ node ∈ program.preorder, node.Filled) (clean : table.Clean) :
    Decides policy program [.resolve, .types, .access] table
      (Entry.findings (References.check table.env program).emitted = [] ∧
        Entry.findings (Typing.check table.env program).emitted = [] ∧
        Entry.findings (WriteAccess.check table.env program).emitted = []) := by
  apply decides_inspect rfl clean
  · simp [References.check, present]
  intro resolveSilent
  have resolved := (References.findings_check_eq_nil_iff present table.env).mp resolveSilent
  apply decides_inspect rfl clean (Typing.check_returns present resolved known filled)
  intro _
  rw [← and_true (Entry.findings (WriteAccess.check table.env program).emitted = [])]
  apply decides_inspect rfl clean (WriteAccess.check_returns present resolved)
  intro _
  exact decides_nil clean

end Analyzer

/-- If the build phase of a program returns, the whole analysis returns: no later phase meets an
unresolved reference or target, an unknown type or an empty place. Nodes of any kind may stand in
any place, as long as the places that are visited directly are filled and no declaration stands
below another. -/
theorem analysis_returns_after_build (settings : Settings) (name : String) (items : List Node)
    (position : Option Position)
    (filled : ∀ node ∈ (Node.program name items position).preorder, node.Filled)
    (flat : ∀ node ∈ (Node.program name items position).preorder, node.Flat)
    (built : ∃ result, (Phase.build.run settings.recordRedefinition
      (.program name items position) .empty).outcome = .ok result) :
    ∃ table, (analyze settings (.program name items position)).outcome = .ok table := by
  obtain ⟨result, ran⟩ := built
  have worked := Phase.work_of_run ran
  have known := Phase.typesKnown_of_build rfl flat worked
  obtain ⟨table, returned, _⟩ := Analyzer.decides_cons SymbolTable.clean_empty worked
    fun silent => Analyzer.later_phases_decide rfl known filled silent
  rw [Analyzer.outcome_analyze]
  exact ⟨table, returned⟩

/-- Items with nodes in places that are not theirs: a group of declarations among the effects of
an event, an assignment as an argument of a call, and an operand that is missing. -/
def misplacedItems : List Node :=
  [.event "Step" .hole
    [.group .locals [.decl "count" "int" false 0 .hole none] none,
      .call "move"
        [.hole, .assign "count" .hole (.binary "+" .hole (.reference "count" .hole none) none) none]
        none] none]

theorem analysis_of_misplaced_items :
    (∀ node ∈ (Node.program "Swarm" misplacedItems none).preorder, node.Filled) ∧
      (∀ node ∈ (Node.program "Swarm" misplacedItems none).preorder, node.Flat) ∧
      (Phase.build.run .replace (.program "Swarm" misplacedItems none) .empty).outcome =
        .ok .passed ∧
      ∃ table, (analyze { recordRedefinition := .replace }
        (.program "Swarm" misplacedItems none)).outcome = .ok table := by
  have filled : ∀ node ∈ (Node.program "Swarm" misplacedItems none).preorder, node.Filled := by
    simp [misplacedItems, Node.preorder, Node.preorderIn, Node.isBlank, Node.Filled]
  have flat : ∀ node ∈ (Node.program "Swarm" misplacedItems none).preorder, node.Flat := by
    simp [misplacedItems, Node.preorder, Node.preorderIn, Node.isBlank, Node.Flat]
  have built : (Phase.build.run .replace (.program "Swarm" misplacedItems none) .empty).outcome =
      .ok .passed := rfl
  exact ⟨filled, flat, built, analysis_returns_after_build
    { recordRedefinition := .replace } "Swarm" misplacedItems none filled flat ⟨_, built⟩⟩

end SwarmCheck
