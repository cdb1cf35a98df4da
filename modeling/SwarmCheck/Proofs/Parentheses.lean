import SwarmCheck.Proofs.EntryPoints
import SwarmCheck.Proofs.Layers
import SwarmCheck.Proofs.TwinAnalysis

/-!
# What parentheses change

Parentheses that are added to a parse tree change nothing but one list of one phase. Everything
else that is read, declared and found stays the same, up to the parentheses themselves. The list
gains the assignments of an agent's own identity to what all agents read, where the identity has
been put in parentheses.
-/

namespace SwarmCheck

set_option autoImplicit false

namespace WriteAccess

variable {link : Node → Node → Prop} {env : Environment}

section Twins

theorem target?_eq {node other : Node} (twin : Node.Twin link node other) :
    node.target? = other.target? := by
  cases twin <;> rfl

theorem scopeWritten?_eq {node other : Node} (twin : Node.Twin link node other) :
    scopeWritten? env node = scopeWritten? env other := by
  rw [scopeWritten?, scopeWritten?, target?_eq twin]

theorem typeWritten?_eq {node other : Node} (twin : Node.Twin link node other) :
    typeWritten? env node = typeWritten? env other := by
  cases twin with
  | assign linked innerIndex innerValue => rw [typeWritten?, typeWritten?, innerIndex.isHole_eq]
  | _ => rfl

theorem targets_of_twins {nodes others : List Node}
    (twins : List.Forall₂ (Node.Twin link) nodes others) {broken : Node → Bool}
    (same : ∀ {node other}, Node.Twin link node other → broken node = broken other) :
    targets broken nodes = targets broken others := by
  induction twins with
  | nil => rfl
  | @cons node other _ _ twin _ ih =>
      rw [targets_cons broken node, targets_cons broken other, targets_singleton,
        targets_singleton, same twin, target?_eq twin, ih]

theorem outcome_checkNode_eq {node other : Node} (twin : Node.Twin link node other) :
    (checkNode env node).outcome = (checkNode env other).outcome := by
  cases twin with
  | @assign target =>
      rw [checkNode, checkNode]
      cases env.resolve target <;> rfl
  | _ => rfl

theorem outcome_checkNodes_eq {nodes others : List Node}
    (twins : List.Forall₂ (Node.Twin link) nodes others) :
    (checkNodes env nodes).outcome = (checkNodes env others).outcome := by
  induction twins with
  | nil => rfl
  | @cons node other _ _ twin _ ih =>
      have same := @outcome_checkNode_eq link env _ _ twin
      rw [checkNodes, checkNodes]
      cases ended : (checkNode env node).outcome with
      | error fault =>
          rw [ended] at same
          rw [Trail.outcome_bind_of_error ended, Trail.outcome_bind_of_error same.symm]
      | ok done =>
          rw [ended] at same
          rw [Trail.outcome_bind_of_ok ended, Trail.outcome_bind_of_ok same.symm, ih]

theorem outcome_check_eq {program program' : Node} (twin : Node.Twin link program program') :
    (check env program).outcome = (check env program').outcome := by
  rw [check, check, ← twin.isBlank_eq]
  split
  · rfl
  · exact outcome_checkNodes_eq twin.preorder

end Twins

theorem targets_assigns (broken : Node → Bool) (nodes : List Node) :
    targets broken nodes = targets broken (nodes.filter Node.isAssign) := by
  induction nodes with
  | nil => rfl
  | cons node rest ih =>
      rw [targets_cons, ih, List.filter_cons]
      split
      · exact (targets_cons broken _ _).symm
      · rename_i other
        have none : node.target? = none := by
          cases node <;> first | rfl | exact absurd rfl other
        rw [targets_singleton, none, Option.toList_none, ite_self, List.nil_append]

theorem targets_map {α : Type} (broken : Node → Bool) (places : List α) (shown : α → Node) :
    targets broken (places.map shown) =
      (places.filter fun place => broken (shown place)).filterMap fun place =>
        (shown place).target? := by
  rw [targets, List.filter_map, List.filterMap_map]
  rfl

end WriteAccess

namespace LayeredTree

variable {whole : LayeredTree}

/-- An assignment of the own identity to something that all agents read, where a layer has been put
around the identity. -/
def Site.exposed (env : Environment) (site : Site whole) : Bool :=
  WriteAccess.writesAllRead env site.before && site.before.assignsIdentity &&
    site.source.valueEnclosed

theorem exists_sites {nodes others : List Node}
    (twins : List.Forall₂ (Node.Twin whole.Matched) nodes others)
    (assigns : ∀ node ∈ nodes, node.isAssign = true) :
    ∃ sites : List (Site whole), nodes = sites.map (·.before) ∧ others = sites.map (·.after) ∧
      ∀ site ∈ sites, Node.Twin whole.Matched site.before site.after ∧ site.Flagged := by
  induction twins with
  | nil => exact ⟨[], rfl, rfl, List.forall_mem_nil _⟩
  | @cons node other _ _ twin _ ih =>
      rw [List.forall_mem_cons] at assigns
      have present : node.isBlank = false := by
        cases node <;> first | rfl | cases assigns.1
      obtain ⟨site, rfl, rfl, flagged⟩ := (twin.linked present).2.2 assigns.1
      obtain ⟨sites, rfl, rfl, each⟩ := ih assigns.2
      exact ⟨site :: sites, rfl, rfl, List.forall_mem_cons.mpr ⟨⟨twin, flagged⟩, each⟩⟩

theorem lower_full {tree : LayeredTree} {item : Item} (read : tree.bare.lower = .ok item) :
    ∃ item', tree.full.lower = .ok item' ∧ Item.Twin tree.Matched item item' := by
  rw [ParseTree.lower, ParseTree.readFresh] at read
  cases fresh : ({} : Reader).read tree.bare with
  | error fault =>
      rw [fresh] at read
      cases read
  | ok done =>
      rw [fresh] at read
      cases read
      obtain ⟨item', after', readFull, reads, _⟩ :=
        readsFull Contains.whole Reader.twin_fresh fresh
      refine ⟨item', ?_, reads.twin⟩
      rw [ParseTree.lower, ParseTree.readFresh, readFull]
      rfl

theorem Site.assignsIdentity_after {site : Site whole}
    (twin : Node.Twin whole.Matched site.before site.after) (flagged : site.Flagged) :
    site.after.assignsIdentity =
      (site.before.assignsIdentity && !site.source.valueEnclosed) := by
  unfold Flagged at flagged
  generalize site.before = before, site.after = after at twin flagged
  cases twin with
  | @assign target index index' value value' position position' linked innerIndex innerValue =>
      cases innerValue with
      | @constant kind text _ _ _ flag _ linked =>
          have value := Option.some.inj (flagged rfl)
          rw [Node.assignsIdentity, Node.assignsIdentity, Node.assigned?, Node.assigned?, value]
          cases kind <;> simp [Node.isOwnIdentity]
      | _ => rfl
  | _ => rfl

end LayeredTree

theorem Analyzer.outcome_runPhases_singleton (policy : RedefinitionPolicy) (program : Node)
    (phase : Phase) (table : SymbolTable) :
    (runPhases policy program [phase] table).outcome =
      (phase.work policy program table).outcome.map fun _ =>
        (phase.work policy program table).table := by
  rw [outcome_runPhases_cons]
  cases (phase.work policy program table).outcome with
  | error fault => rfl
  | ok done => exact ite_self _

namespace LayeredTree

open WriteAccess

variable {tree : LayeredTree} {program program' : Node} {policy : RedefinitionPolicy}

theorem worded (node other : Node) (matched : tree.Matched node other) :
    node.position = other.position ∧ node.wording = other.wording :=
  ⟨matched.1, matched.2.1⟩

/-- The read-only writes of a tree without and with its layers. Those that have been added are of
identities that a layer has been put around. -/
def Exposes (tree : LayeredTree) (env : Environment) (program program' : Node)
    (writes writes' : List String) : Prop :=
  ∃ sites : List (Site tree),
    program.preorder.filter Node.isAssign = sites.map (·.before) ∧
    program'.preorder.filter Node.isAssign = sites.map (·.after) ∧
    writes =
      (sites.filter fun site => writesReadOnly env site.before).filterMap (·.before.target?) ∧
    writes' =
      (sites.filter fun site => writesReadOnly env site.before || site.exposed env).filterMap
        (·.before.target?)

theorem exposes_of_twins (twin : Node.Twin tree.Matched program program') (env : Environment) :
    tree.Exposes env program program'
      (targets (writesReadOnly env) program.preorder)
      (targets (writesReadOnly env) program'.preorder) := by
  have assigns := Node.Twin.filter twin.preorder Node.Twin.isAssign_eq
  obtain ⟨sites, before, after, each⟩ := exists_sites assigns (by simp)
  refine ⟨sites, before, after, ?_, ?_⟩
  · rw [targets_assigns, before, targets_map]
  · rw [targets_assigns, after, targets_map]
    have refused (site : Site tree) (member : site ∈ sites) :
        writesReadOnly env site.after =
          (writesReadOnly env site.before || site.exposed env) := by
      obtain ⟨pair, flagged⟩ := each site member
      have scope : writesAllRead env site.after =
          writesAllRead env site.before := by
        rw [writesAllRead, writesAllRead, scopeWritten?_eq pair]
      simp only [writesReadOnly, scope, Site.assignsIdentity_after pair flagged,
        Site.exposed]
      cases writesAllRead env site.before <;>
        cases site.before.assignsIdentity <;> simp
    have target (site : Site tree) (member : site ∈ sites) :
        site.after.target? = site.before.target? :=
      (target?_eq (each site member).1).symm
    rw [List.filter_congr refused]
    apply List.filterMap_congr
    intro site kept
    exact target site (List.mem_of_mem_filter kept)

theorem access_list {table : SymbolTable} {env : Environment}
    (shared : WriteAccess.check table.env program = WriteAccess.check env program)
    (clean : table.Clean) (checked : (WriteAccess.check env program).outcome = .ok ())
    {list : Journal → List String} {view : Finding → Option String}
    {broken : Environment → Node → Bool} (lists : Lists list view broken) :
    list (Phase.access.work policy program table).table.toJournal =
      targets (broken env) program.preorder := by
  rw [← shown_check lists checked, ← shared, Phase.work, Phase.inspect_journal, clean,
    lists.append, lists.empty, List.nil_append]

theorem access_of_twins (twin : Node.Twin tree.Matched program program')
    {middle middle' table : SymbolTable} (twins : middle.Twin tree.Matched middle')
    (clean : middle.Clean)
    (returned : (Analyzer.runPhases policy program [.access] middle).outcome = .ok table) :
    ∃ table', (Analyzer.runPhases policy program' [.access] middle').outcome = .ok table' ∧
      table.env = middle.env ∧ table'.env = middle'.env ∧
      table.OnlyFrom .access ∧ table'.OnlyFrom .access ∧
      table.sensorWrites = table'.sensorWrites ∧ table.streamWrites = table'.streamWrites ∧
      tree.Exposes table.env program program' table.readOnlyWrites table'.readOnlyWrites := by
  have cleanToo : middle'.Clean := twins.journal.clean clean
  rw [Analyzer.outcome_runPhases_singleton] at returned ⊢
  cases worked : (Phase.access.work policy program middle).outcome with
  | error fault =>
      rw [worked] at returned
      cases returned
  | ok done =>
      rw [worked] at returned
      cases returned
      have checked : (WriteAccess.check middle.env program).outcome = .ok () := worked
      have checkedToo : (WriteAccess.check middle.env program').outcome = .ok () := by
        rw [← outcome_check_eq twin]
        exact checked
      have workedToo : (Phase.access.work policy program' middle').outcome = .ok () := by
        rw [twins.alike.writeAccess_check] at checkedToo
        exact checkedToo
      rw [workedToo]
      have shared := (twins.alike.writeAccess_check program').symm
      refine ⟨_, rfl, rfl, rfl, Analyzer.work_onlyFrom clean .access,
        Analyzer.work_onlyFrom cleanToo .access, ?_, ?_, ?_⟩
      · refine (access_list rfl clean checked sensorWrites_list).trans (.trans ?_
          (access_list shared cleanToo checkedToo sensorWrites_list).symm)
        apply targets_of_twins twin.preorder
        intro node other pair
        rw [writesSensor, writesSensor, scopeWritten?_eq pair]
      · refine (access_list rfl clean checked streamWrites_list).trans (.trans ?_
          (access_list shared cleanToo checkedToo streamWrites_list).symm)
        apply targets_of_twins twin.preorder
        intro node other pair
        rw [writesStream, writesStream, typeWritten?_eq pair]
      · have writes : (Phase.access.work policy program middle).table.readOnlyWrites = _ :=
          access_list rfl clean checked readOnlyWrites_list
        have writesToo : (Phase.access.work policy program' middle').table.readOnlyWrites = _ :=
          access_list shared cleanToo checkedToo readOnlyWrites_list
        rw [writes, writesToo]
        exact exposes_of_twins twin middle.env

end LayeredTree

namespace SymbolTable

def SameEntry (entry entry' : String × Symbol) : Prop :=
  entry.1 = entry'.1 ∧ entry.2.sameAs entry'.2 = true ∧
    entry.2.definedAt.sameAs entry'.2.definedAt = true

/-- Tables that differ in nothing but their read-only writes, and parentheses. -/
structure SameButReadOnly (table table' : SymbolTable) : Prop where
  symbols : List.Forall₂ SameEntry table.env.symbols.entries table'.env.symbols.entries
  registry : table.env.registry = table'.env.registry
  redeclared : table.redeclared = table'.redeclared
  unresolved : table.unresolved = table'.unresolved
  mismatches : Node.sameAll table.mismatches table'.mismatches = true
  sensorWrites : table.sensorWrites = table'.sensorWrites
  streamWrites : table.streamWrites = table'.streamWrites

variable {tree : LayeredTree} {table table' : SymbolTable} (twins : table.Twin tree.Matched table')

include twins

theorem Twin.entries :
    List.Forall₂ SameEntry table.env.symbols.entries table'.env.symbols.entries := by
  apply twins.symbols.imp
  rintro ⟨name, symbol⟩ ⟨name', symbol'⟩ ⟨named, twin⟩
  refine ⟨named, ?_, twin.sites.twin.sameAs tree.worded⟩
  have same := twin.same
  simp only [Symbol.unplaced, Symbol.mk.injEq, and_true] at same
  simp [Symbol.sameAs, same]

theorem Twin.sameButReadOnly : table.SameButReadOnly table' := by
  obtain ⟨redeclared, unresolved, sensorWrites, streamWrites, _⟩ := twins.journal.lists_eq
  exact ⟨twins.entries, twins.registry, redeclared, unresolved,
    Node.Twin.sameAll tree.worded (twins.journal.mismatches.imp fun _ _ sites => sites.twin),
    sensorWrites, streamWrites⟩

end SymbolTable

namespace LayeredTree

variable {tree : LayeredTree} {program program' : Node} {policy : RedefinitionPolicy}

theorem runPhases_of_twins (twin : Node.Twin tree.Matched program program') {table : SymbolTable}
    (returned : (Analyzer.runPhases policy program Phase.all .empty).outcome = .ok table) :
    ∃ table', (Analyzer.runPhases policy program' Phase.all .empty).outcome = .ok table' ∧
      table.SameButReadOnly table' ∧
      (.access ∈ (Analyzer.stages policy program Phase.all .empty).map (·.phase) →
        tree.Exposes table.env program program' table.readOnlyWrites table'.readOnlyWrites) := by
  have blind : ∀ phase ∈ [Phase.build, .resolve, .types], phase ≠ .access := by decide
  have together := Analyzer.runPhases_together twin policy blind [.access]
    SymbolTable.twin_empty SymbolTable.clean_empty
  have front : [Phase.build, .resolve, .types] ++ [.access] = Phase.all := rfl
  cases together with
  | failed fault ended ended' =>
      rw [front, returned] at ended
      cases ended
  | @stopped final final' twins ended ended' early =>
      rw [front, returned] at ended
      cases ended
      refine ⟨final', ended', twins.sameButReadOnly, fun reached => ?_⟩
      obtain ⟨stage, member, isAccess⟩ := List.mem_map.mp reached
      exact absurd isAccess (blind _ (early stage member))
  | passed twins clean ended ended' =>
      rw [front, returned] at ended
      obtain ⟨table', returned', env, env', only, only', sensorWrites, streamWrites, exposes⟩ :=
        access_of_twins twin twins clean ended.symm
      have foreign := only.foreign_lists_empty
      have foreign' := only'.foreign_lists_empty
      refine ⟨table', ended'.trans returned', ⟨?_, ?_, ?_, ?_, ?_, sensorWrites, streamWrites⟩,
        fun _ => exposes⟩
      · rw [env, env']
        exact twins.entries
      · rw [env, env']
        exact twins.registry
      · rw [foreign.1 (by decide), foreign'.1 (by decide)]
      · rw [foreign.2.1 (by decide), foreign'.2.1 (by decide)]
      · rw [foreign.2.2.1 (by decide), foreign'.2.2.1 (by decide)]
        rfl

end LayeredTree

/-- Parentheses change nothing but the rule on identities. Whatever layers are put around the values
and conditions of a parse tree that is analysed to a table: the tree is read as the same program up
to parentheses, and analysed to a table with the same symbols, records and findings. Only the list
of read-only writes gains something, if the last phase is reached: the targets of the assignments of
an own identity to what all agents read, where a layer has been put around the identity. -/
theorem parentheses_only_expose_identities (settings : Settings) (filename : Option String)
    (tree : LayeredTree) {table : SymbolTable}
    (returned : (analyzeTree settings filename tree.bare).outcome = .ok table) :
    ∃ program program' table',
      tree.bare.lower = .ok (.node program) ∧ tree.full.lower = .ok (.node program') ∧
      program.sameAs program' = true ∧
      (analyzeTree settings filename tree.full).outcome = .ok table' ∧
      table.SameButReadOnly table' ∧
      (.access ∈ (Analyzer.stages settings.recordRedefinition program Phase.all .empty).map
          (·.phase) →
        tree.Exposes table.env program program' table.readOnlyWrites table'.readOnlyWrites) := by
  obtain ⟨program, read, analyzed⟩ := analyzeTree_eq_ok_iff.mp returned
  obtain ⟨named, ran⟩ := Analyzer.analyze_eq_ok_iff.mp analyzed
  obtain ⟨item', readFull, twins⟩ := LayeredTree.lower_full read
  cases twins with
  | @node _ program' twin =>
      obtain ⟨table', ran', same, exposes⟩ := LayeredTree.runPhases_of_twins twin ran
      rw [twin.name?_isSome_eq] at named
      have analyzed' := Analyzer.analyze_eq_ok_iff.mpr ⟨named, ran'⟩
      exact ⟨program, program', table', read, readFull, twin.sameAs tree.worded,
        analyzeTree_eq_ok_iff.mpr ⟨program', readFull, analyzed'⟩, same, exposes⟩

/-- An event that declares its own agent the leader that all agents read, with parentheses around
the identity. -/
def claimLeadership : LayeredTree :=
  let rule (name : String) (children : List LayeredTree) : LayeredTree :=
    .rule name children {} [] (.inl rfl)
  let token (kind text : String) : LayeredTree := .token ⟨kind, text⟩
  let identity : LayeredTree :=
    .rule "aexpr" [rule "constant" [token "PID" "pid"]] {} [⟨"(", ")", {}, by decide⟩]
      (.inr (.inl rfl))
  rule "program"
    [token "VARNAME" "election",
      rule "allreadvars" [rule "decl" [token "INT" "int", token "VARNAME" "leader"]],
      rule "event"
        [token "VARNAME" "claim",
          rule "stmt" [rule "assign" [token "VARNAME" "leader", token "ASGN" "=", identity]]]]

theorem claimLeadership_exposed :
    ∃ program program' table table',
      (analyzeTree {} none claimLeadership.bare).outcome = .ok table ∧
      (analyzeTree {} none claimLeadership.full).outcome = .ok table' ∧
      table.SameButReadOnly table' ∧
      claimLeadership.Exposes table.env program program' [] ["leader"] := by
  have allowed : (analyzeTree {} none claimLeadership.bare).outcome.map (·.readOnlyWrites) =
      .ok [] := rfl
  have refused : (analyzeTree {} none claimLeadership.full).outcome.map (·.readOnlyWrites) =
      .ok ["leader"] := rfl
  have reached : claimLeadership.bare.lower.map (fun item =>
      (Analyzer.stages .reject item.part Phase.all .empty).map (·.phase)) = .ok Phase.all := rfl
  cases returned : (analyzeTree {} none claimLeadership.bare).outcome with
  | error fault =>
      rw [returned] at allowed
      cases allowed
  | ok table =>
      obtain ⟨program, program', table', read, _, _, returned', same, exposes⟩ :=
        parentheses_only_expose_identities {} none claimLeadership returned
      rw [returned] at allowed
      rw [returned'] at refused
      rw [read] at reached
      have writes : table.readOnlyWrites = [] := Except.ok.inj allowed
      have writes' : table'.readOnlyWrites = ["leader"] := Except.ok.inj refused
      have stages : (Analyzer.stages .reject program Phase.all .empty).map (·.phase) = Phase.all :=
        Except.ok.inj reached
      have exposed := exposes (stages.symm ▸ by decide)
      rw [writes, writes'] at exposed
      exact ⟨program, program', table, table', rfl, returned', same, exposed⟩

end SwarmCheck
