import SwarmCheck.Failure
import SwarmCheck.Proofs.Acceptance
import SwarmCheck.Proofs.History
import SwarmCheck.Proofs.Preorder
import SwarmCheck.Proofs.Writes

/-!
# What the last phase records before it stops

Three rules say what an assignment may not write to, each on its own: the scope in question is that
of the variable at the root of the target, the type is the one at its end. The last phase takes the
assignments of a tree in pre-order and records for each the rules that it breaks. An assignment
whose target does not resolve ends the phase, and what was recorded before it stays.
-/

namespace SwarmCheck

set_option autoImplicit false

namespace WriteAccess

/-- An assignment to a target breaks a rule. A rule is about the index, the value and what the
target resolves to. -/
inductive Breaks (env : Environment) (rule : Node → Node → Resolution → Prop) :
    Node → String → Prop
  | intro {target : String} {index value : Node} {position : Option Position}
      {resolution : Resolution} (found : env.resolve? target = some resolution)
      (broken : rule index value resolution) :
      Breaks env rule (.assign target index value position) target

def SensorWritten (_index _value : Node) (resolution : Resolution) : Prop :=
  resolution.symbol.scope = .sensor

/-- A stream is written as a whole, or as an element of an array of streams. -/
def StreamWritten (index _value : Node) (resolution : Resolution) : Prop :=
  resolution.type = .stream ∨ index ≠ .hole ∧ resolution.type = .array .stream

/-- Something else than the own identity, not in parentheses, is written to what all agents read. -/
def ReadOnlyWritten (_index value : Node) (resolution : Resolution) : Prop :=
  resolution.symbol.scope = .allRead ∧
    ∀ text position, value ≠ .constant .pid text position false

def Violates (env : Environment) (node : Node) (target : String) : Prop :=
  Breaks env SensorWritten node target ∨ Breaks env StreamWritten node target ∨
    Breaks env ReadOnlyWritten node target

/-- An assignment is to a target that does not resolve. -/
inductive Stuck (env : Environment) : Node → String → Prop
  | intro {target : String} {index value : Node} {position : Option Position}
      (missing : env.resolve? target = none) :
      Stuck env (.assign target index value position) target

/-- All assignments of a tree are to targets that resolve. -/
def TargetsResolve (env : Environment) (program : Node) : Prop :=
  ∀ address node target, program.at? address = some node → ¬ Stuck env node target

/-- The first assignment of a tree, in pre-order, to a target that does not resolve. -/
structure FirstStuck (env : Environment) (program : Node) (address : List Nat) (target : String) :
    Prop where
  stuck : ∃ node, program.at? address = some node ∧ Stuck env node target
  first : ∀ earlier node other, Node.Earlier earlier address → program.at? earlier = some node →
    ¬ Stuck env node other

/-- In a part of a tree, each list has gained the targets of the assignments that break its rule, in
pre-order. -/
structure Recorded (env : Environment) (program : Node) (within : List Nat → Prop)
    (before after : SymbolTable) : Prop where
  sensorWrites : ∃ targets,
    program.Collects (fun address node target =>
      within address ∧ Breaks env SensorWritten node target) targets ∧
    after.sensorWrites = before.sensorWrites ++ targets
  streamWrites : ∃ targets,
    program.Collects (fun address node target =>
      within address ∧ Breaks env StreamWritten node target) targets ∧
    after.streamWrites = before.streamWrites ++ targets
  readOnlyWrites : ∃ targets,
    program.Collects (fun address node target =>
      within address ∧ Breaks env ReadOnlyWritten node target) targets ∧
    after.readOnlyWrites = before.readOnlyWrites ++ targets

section Rules

variable {env : Environment}

def targetIf (broken : Node → Bool) (node : Node) : Option String :=
  if broken node then node.target? else none

theorem targets_eq_filterMap (broken : Node → Bool) (nodes : List Node) :
    targets broken nodes = nodes.filterMap (targetIf broken) := by
  rw [targets, List.filterMap_filter]
  rfl

/-- A test of nodes decides a rule. -/
def Tests (test : Environment → Node → Bool) (rule : Node → Node → Resolution → Prop) : Prop :=
  ∀ {env : Environment} {target : String} {index value : Node} {position : Option Position},
    test env (.assign target index value position) = true ↔
      ∃ resolution, env.resolve? target = some resolution ∧ rule index value resolution

theorem sensorWritten_test : Tests writesSensor SensorWritten := by
  intro env target index value position
  simp only [writesSensor, scopeWritten?, Node.target?, Option.bind_some, decide_eq_true_iff,
    Option.map_eq_some_iff, SensorWritten]

theorem writtenType_eq_stream_iff {index : Node} {type : Ty} :
    writtenType (!index.isHole) type = .stream ↔
      type = .stream ∨ index ≠ .hole ∧ type = .array .stream := by
  constructor
  · intro written
    by_cases whole : type = .stream
    · exact .inl whole
    · refine .inr (Classical.byContradiction fun other => ?_)
      refine writtenType_ne_stream_iff.mpr ⟨whole, ?_⟩ written
      intro indexed element
      exact other ⟨Node.not_isHole_iff.mp indexed, element⟩
  · rintro (rfl | ⟨indexed, rfl⟩)
    · rfl
    · rw [Node.not_isHole_iff.mpr indexed]
      rfl

theorem streamWritten_test : Tests writesStream StreamWritten := by
  intro env target index value position
  rw [writesStream, decide_eq_true_iff]
  simp only [typeWritten?, Option.map_eq_some_iff, writtenType_eq_stream_iff, StreamWritten]

theorem readOnlyWritten_test : Tests writesReadOnly ReadOnlyWritten := by
  intro env target index value position
  have other : value.isOwnIdentity = false ↔
      ∀ text position, value ≠ .constant .pid text position false := by
    rw [← Bool.not_eq_true, isOwnIdentity_iff]
    simp only [not_exists, ne_eq]
  simp only [writesReadOnly, writesAllRead, scopeWritten?, Node.target?, Option.bind_some,
    Bool.and_eq_true, decide_eq_true_iff, Option.map_eq_some_iff, Node.assignsIdentity,
    Node.assigned?, Option.map_some, Option.getD_some, Bool.not_eq_true', other, ReadOnlyWritten]
  constructor
  · rintro ⟨⟨resolution, found, scope⟩, differs⟩
    exact ⟨resolution, found, scope, differs⟩
  · rintro ⟨resolution, found, scope, differs⟩
    exact ⟨⟨resolution, found, scope⟩, differs⟩

theorem targetIf_eq_some_iff {test : Environment → Node → Bool}
    {rule : Node → Node → Resolution → Prop} (tests : Tests test rule) (node : Node)
    (target : String) :
    targetIf (test env) node = some target ↔ Breaks env rule node target := by
  rw [targetIf, Option.ite_none_right_eq_some]
  constructor
  · rintro ⟨broken, written⟩
    cases node with
    | assign other index value position =>
        cases written
        obtain ⟨resolution, found, holds⟩ := tests.mp broken
        exact .intro found holds
    | _ => cases written
  · rintro ⟨found, broken⟩
    exact ⟨tests.mpr ⟨_, found, broken⟩, rfl⟩

end Rules

section Checking

open Trail

variable {env : Environment}

theorem checkNodes_append (env : Environment) (front back : List Node) :
    checkNodes env (front ++ back) = (do checkNodes env front; checkNodes env back) := by
  induction front with
  | nil => exact (pure_bind () fun _ => checkNodes env back).symm
  | cons node rest ih => rw [List.cons_append, checkNodes, checkNodes, ih, bind_assoc]

def isStuck (env : Environment) (node : Node) : Bool :=
  node.target?.any fun target => (env.resolve? target).isNone

theorem isStuck_iff {node : Node} : isStuck env node = true ↔ ∃ target, Stuck env node target := by
  constructor
  · intro stuck
    cases node with
    | assign target index value position =>
        exact ⟨target, .intro (Option.isNone_iff_eq_none.mp stuck)⟩
    | _ => cases stuck
  · rintro ⟨target, ⟨missing⟩⟩
    exact Option.isNone_iff_eq_none.mpr missing

theorem checkNode_returns {node : Node} (free : ∀ target, ¬ Stuck env node target) :
    (checkNode env node).outcome = .ok () := by
  cases node with
  | assign target index value position =>
      rw [checkNode]
      cases found : env.resolve target with
      | ok resolution => rfl
      | error cause =>
          have missing := Environment.resolve?_eq_none_iff.mpr ⟨cause, found⟩
          exact absurd (.intro missing) (free target)
  | _ => rfl

theorem checkNodes_returns {nodes : List Node}
    (free : ∀ node ∈ nodes, ∀ target, ¬ Stuck env node target) :
    (checkNodes env nodes).outcome = .ok () := by
  induction nodes with
  | nil => rfl
  | cons node rest ih =>
      rw [List.forall_mem_cons] at free
      rw [checkNodes, outcome_bind_of_ok (checkNode_returns free.1)]
      exact ih free.2

theorem checkNodes_of_stuck {node : Node} {target : String} (stuck : Stuck env node target)
    (back : List Node) :
    (checkNodes env (node :: back)).outcome = .error (.unresolvedTarget target) ∧
      Entry.findings (checkNodes env (node :: back)).emitted = [] := by
  obtain ⟨missing⟩ := stuck
  obtain ⟨cause, failed⟩ := Environment.resolve?_eq_none_iff.mp missing
  rw [checkNodes, checkNode, failed]
  refine ⟨rfl, ?_⟩
  exact (Entry.findings_append _ _).trans (by simp)

end Checking

section Recording

variable {env : Environment} {program : Node} {within : List Nat → Prop}
  {sites : List (List Nat × Node)}

section Gains

variable (covers : program.Covers within sites)
  (returned : (checkNodes env (sites.map (·.2))).outcome = .ok ()) {before after : SymbolTable}
  (journal : after.toJournal = before.toJournal ++
    .ofFindings (Entry.findings (checkNodes env (sites.map (·.2))).emitted))

include covers returned journal

theorem gains_targets {list : Journal → List String} {view : Finding → Option String}
    {test : Environment → Node → Bool} {rule : Node → Node → Resolution → Prop}
    (lists : Lists list view test) (tests : Tests test rule) :
    ∃ targets,
      program.Collects (fun address node target =>
        within address ∧ Breaks env rule node target) targets ∧
      list after.toJournal = list before.toJournal ++ targets := by
  refine ⟨_, covers.collects (targetIf_eq_some_iff tests), ?_⟩
  rw [journal, lists.append, shown_checkNodes lists returned, targets_eq_filterMap]

theorem recorded_of_covers : Recorded env program within before after where
  sensorWrites := gains_targets covers returned journal sensorWrites_list sensorWritten_test
  streamWrites := gains_targets covers returned journal streamWrites_list streamWritten_test
  readOnlyWrites := gains_targets covers returned journal readOnlyWrites_list readOnlyWritten_test

end Gains

theorem Recorded.errors_eq_zero_iff {before after : SymbolTable}
    (recorded : Recorded env program (fun _ => True) before after)
    (sensorWrites : before.sensorWrites = []) (streamWrites : before.streamWrites = [])
    (readOnlyWrites : before.readOnlyWrites = []) :
    Phase.access.errors after = 0 ↔
      ∀ address node target, program.at? address = some node → ¬ Violates env node target := by
  obtain ⟨sensors, collectsSensors, sensorsGained⟩ := recorded.sensorWrites
  obtain ⟨streams, collectsStreams, streamsGained⟩ := recorded.streamWrites
  obtain ⟨readOnlys, collectsReadOnlys, readOnlysGained⟩ := recorded.readOnlyWrites
  rw [sensorWrites, List.nil_append] at sensorsGained
  rw [streamWrites, List.nil_append] at streamsGained
  rw [readOnlyWrites, List.nil_append] at readOnlysGained
  have empty : Phase.access.errors after = 0 ↔ sensors = [] ∧ streams = [] ∧ readOnlys = [] := by
    rw [Phase.errors, sensorsGained, streamsGained, readOnlysGained, Nat.add_eq_zero_iff,
      Nat.add_eq_zero_iff, List.length_eq_zero_iff, List.length_eq_zero_iff,
      List.length_eq_zero_iff, and_assoc]
  rw [empty, collectsSensors.eq_nil_iff, collectsStreams.eq_nil_iff, collectsReadOnlys.eq_nil_iff]
  simp only [Violates, true_and, not_or]
  constructor
  · rintro ⟨noSensor, noStream, noReadOnly⟩ address node target reached
    exact ⟨noSensor address node target reached, noStream address node target reached,
      noReadOnly address node target reached⟩
  · intro none
    exact ⟨fun address node target reached => (none address node target reached).1,
      fun address node target reached => (none address node target reached).2.1,
      fun address node target reached => (none address node target reached).2.2⟩

theorem targetsResolve_iff (present : program.isBlank = false) :
    TargetsResolve env program ↔ ∀ node ∈ program.preorder, isStuck env node = false := by
  simp only [← Node.map_located present, List.forall_mem_map, ← Bool.not_eq_true, isStuck_iff,
    not_exists]
  constructor
  · intro resolved site located target
    exact resolved site.1 site.2 target (Node.mem_located.mp located)
  · intro each address node target reached
    exact each (address, node) (Node.mem_located.mpr reached) target

theorem split_of_stuck (unresolved : ¬ TargetsResolve env program) :
    ∃ front site back target, program.located = front ++ site :: back ∧
      Stuck env site.2 target ∧ ∀ earlier ∈ front, ∀ other, ¬ Stuck env earlier.2 other := by
  cases found : program.located.find? fun site => isStuck env site.2 with
  | none =>
      refine absurd ?_ unresolved
      intro address node target reached stuck
      apply List.find?_eq_none.mp found (address, node) (Node.mem_located.mpr reached)
      exact isStuck_iff.mpr ⟨target, stuck⟩
  | some site =>
      obtain ⟨holds, front, back, split, free⟩ := List.find?_eq_some_iff_append.mp found
      obtain ⟨target, stuck⟩ := isStuck_iff.mp holds
      refine ⟨front, site, back, target, split, stuck, ?_⟩
      intro earlier member other stuckEarlier
      have unstuck := free earlier member
      rw [isStuck_iff.mpr ⟨other, stuckEarlier⟩] at unstuck
      cases unstuck

theorem firstStuck_of_split {front back : List (List Nat × Node)} {site : List Nat × Node}
    {target : String} (split : program.located = front ++ site :: back)
    (stuck : Stuck env site.2 target)
    (free : ∀ earlier ∈ front, ∀ other, ¬ Stuck env earlier.2 other) :
    FirstStuck env program site.1 target := by
  constructor
  · have member : site ∈ program.located := by
      rw [split]
      exact List.mem_append_right front List.mem_cons_self
    exact ⟨site.2, Node.mem_located.mp member, stuck⟩
  · intro earlier node other before reached
    exact free (earlier, node) (((Node.covers_front split).complete earlier node).mpr
      ⟨reached, before⟩) other

end Recording

end WriteAccess

namespace Phase

theorem resultOf_eq_blocked_iff {table : SymbolTable} {phase : Phase} {count : Nat} :
    phase.resultOf table = .blocked count ↔ phase.errors table = count ∧ count ≠ 0 := by
  rw [resultOf]
  cases phase.errors table with
  | zero =>
      constructor
      · intro passed
        cases passed
      · rintro ⟨rfl, positive⟩
        exact absurd rfl positive
  | succ errors =>
      constructor
      · intro blocked
        cases blocked
        exact ⟨rfl, Nat.succ_ne_zero errors⟩
      · rintro ⟨rfl, _⟩
        rfl

section Access

open WriteAccess

variable (policy : RedefinitionPolicy) {table : SymbolTable} {program : Node}

theorem work_access (present : program.isBlank = false) :
    access.work policy program table =
      { table := table.reportAll (Entry.findings
          (checkNodes table.env (program.located.map (·.2))).emitted)
        log := Entry.notes (checkNodes table.env (program.located.map (·.2))).emitted
        outcome := (checkNodes table.env (program.located.map (·.2))).outcome } := by
  rw [Node.map_located present, work, inspect, check, present]
  rfl

theorem access_returns (present : program.isBlank = false)
    (resolved : TargetsResolve table.env program) :
    let ended := access.run policy program table
    ended.outcome = .ok (access.resultOf ended.table) ∧
      Recorded table.env program (fun _ => True) table ended.table := by
  intro ended
  have returned : (checkNodes table.env (program.located.map (·.2))).outcome = .ok () := by
    apply checkNodes_returns
    rw [List.forall_mem_map]
    intro site located target
    exact resolved site.1 site.2 target (Node.mem_located.mp located)
  constructor
  · rw [outcome_run, work_access policy present, returned]
    rfl
  · apply recorded_of_covers program.covers_located returned
    rw [table_run, work_access policy present]
    exact table.toJournal.reportAll_eq_append _

theorem access_stops (present : program.isBlank = false) {front back : List (List Nat × Node)}
    {site : List Nat × Node} {target : String}
    (split : program.located = front ++ site :: back) (stuck : Stuck table.env site.2 target)
    (free : ∀ earlier ∈ front, ∀ other, ¬ Stuck table.env earlier.2 other) :
    let ended := access.run policy program table
    ended.outcome = .error (.unresolvedTarget target) ∧
      Recorded table.env program (Node.Earlier · site.1) table ended.table := by
  intro ended
  have returned : (checkNodes table.env (front.map (·.2))).outcome = .ok () :=
    checkNodes_returns (List.forall_mem_map.mpr free)
  obtain ⟨stopped, silent⟩ := checkNodes_of_stuck stuck (back.map (·.2))
  have whole : checkNodes table.env (program.located.map (·.2)) = (do
      checkNodes table.env (front.map (·.2))
      checkNodes table.env (site.2 :: back.map (·.2))) := by
    rw [split, List.map_append, List.map_cons, checkNodes_append]
  constructor
  · rw [outcome_run, work_access policy present, whole, Trail.outcome_bind_of_ok returned, stopped]
    rfl
  · apply recorded_of_covers (Node.covers_front split) returned
    rw [table_run, work_access policy present, whole, Trail.emitted_bind_of_ok returned,
      Entry.findings_append, silent, List.append_nil]
    exact table.toJournal.reportAll_eq_append _

end Access

end Phase

open WriteAccess

/-- The last phase records exactly the violations. Over every tree of which all assignments are to
targets that resolve, it returns, and each list has gained the targets of the assignments that break
its own rule, in pre-order; no rule asks about another. On a table whose three lists were empty, the
phase blocks exactly when some assignment breaks a rule, and counts all entries. Otherwise the phase
ends at the first assignment, in pre-order, to a target that does not resolve: with an internal
failure, and after recording exactly what the assignments before it break. -/
theorem access_phase_records_violations (policy : RedefinitionPolicy) (table : SymbolTable)
    (name : String) (items : List Node) (position : Option Position) :
    let program := Node.program name items position
    let ended := Phase.access.run policy program table
    (TargetsResolve table.env program →
      (∃ result, ended.outcome = .ok result) ∧
      Recorded table.env program (fun _ => True) table ended.table ∧
      (table.sensorWrites = [] → table.streamWrites = [] → table.readOnlyWrites = [] →
        ((∃ count, ended.outcome = .ok (.blocked count)) ↔
          ∃ address node target, program.at? address = some node ∧
            Violates table.env node target) ∧
        ∀ count, ended.outcome = .ok (.blocked count) →
          count = ended.table.sensorWrites.length + ended.table.streamWrites.length +
            ended.table.readOnlyWrites.length)) ∧
    (¬ TargetsResolve table.env program →
      ∃ address target, FirstStuck table.env program address target ∧
        (∃ fault, ended.outcome = .error fault ∧ fault.failure? =
          some (.internal ("assignment target '" ++ target ++ "' was not resolved") none)) ∧
        Recorded table.env program (Node.Earlier · address) table ended.table) := by
  intro program ended
  constructor
  · intro resolved
    obtain ⟨returned, recorded⟩ := Phase.access_returns policy rfl resolved
    refine ⟨⟨_, returned⟩, recorded, ?_⟩
    intro sensorWrites streamWrites readOnlyWrites
    have quiet := recorded.errors_eq_zero_iff sensorWrites streamWrites readOnlyWrites
    have blocked (count : Nat) : ended.outcome = .ok (.blocked count) ↔
        Phase.access.errors ended.table = count ∧ count ≠ 0 := by
      rw [returned, Except.ok.injEq, Phase.resultOf_eq_blocked_iff]
    constructor
    · simp only [blocked]
      constructor
      · rintro ⟨count, total, positive⟩
        refine Classical.byContradiction fun none => positive ?_
        rw [← total, quiet]
        intro address node target reached violates
        exact none ⟨address, node, target, reached, violates⟩
      · rintro ⟨address, node, target, reached, violates⟩
        refine ⟨_, rfl, ?_⟩
        rw [ne_eq, quiet]
        intro none
        exact none address node target reached violates
    · intro count stopped
      exact ((blocked count).mp stopped).1.symm
  · intro unresolved
    obtain ⟨front, site, back, target, split, stuck, free⟩ := split_of_stuck unresolved
    obtain ⟨stopped, recorded⟩ := Phase.access_stops policy rfl split stuck free
    exact ⟨site.1, target, firstStuck_of_split split stuck free, ⟨_, stopped, rfl⟩, recorded⟩

def sensedLogs : SymbolTable :=
  SymbolTable.empty.declare { name := "logs", type := .array .stream, scope := .sensor }

/-- Assigns to an element of the sensor and to the whole sensor, with other statements in
between. -/
def logWrites (between : List Node) : Node :=
  .program "Swarm"
    [.event "Sense" (.assign "logs" (.constant .int "0" none false) .hole none)
      (between ++ [.assign "logs" .hole .hole none]) none]
    none

/-- The first assignment is in two lists. A target that does not resolve hides the second one. -/
theorem sensedLogs_record_violations :
    let ended (between : List Node) := Phase.access.run .reject (logWrites between) sensedLogs
    let elsewhere : List Node := [.assign "log" .hole .hole none]
    TargetsResolve sensedLogs.env (logWrites []) ∧
      Recorded sensedLogs.env (logWrites []) (fun _ => True) sensedLogs (ended []).table ∧
      (ended []).outcome = .ok (.blocked 3) ∧
      (ended []).table.sensorWrites = ["logs", "logs"] ∧
      (ended []).table.streamWrites = ["logs"] ∧
      ¬ TargetsResolve sensedLogs.env (logWrites elsewhere) ∧
      (∃ address target, FirstStuck sensedLogs.env (logWrites elsewhere) address target ∧
        Recorded sensedLogs.env (logWrites elsewhere) (Node.Earlier · address) sensedLogs
          (ended elsewhere).table) ∧
      (ended elsewhere).table.sensorWrites = ["logs"] := by
  intro ended elsewhere
  have resolved : TargetsResolve sensedLogs.env (logWrites []) := by
    rw [targetsResolve_iff rfl]
    decide
  have unresolved : ¬ TargetsResolve sensedLogs.env (logWrites elsewhere) := by
    rw [targetsResolve_iff rfl]
    decide
  obtain ⟨_, recorded, _⟩ :=
    (access_phase_records_violations .reject sensedLogs "Swarm" _ none).1 resolved
  obtain ⟨address, target, first, _, before⟩ :=
    (access_phase_records_violations .reject sensedLogs "Swarm" _ none).2 unresolved
  exact ⟨resolved, recorded, rfl, rfl, rfl, unresolved, ⟨address, target, first, before⟩, rfl⟩

end SwarmCheck
