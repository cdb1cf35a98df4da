import SwarmCheck.Proofs.Parts
import SwarmCheck.Proofs.TwinAnalysis

/-!
# What presentation does not change

Positions, and the wording of constants, strings, conditions, calls, events and programs, serve
only to present a program. Two programs that differ in nothing else are analysed alike: by the
same fault, or to tables that declare the same and report the same at the same places. Here every
phase takes part, since the parentheses around constants, which the last phase looks at, are no
matter of presentation.
-/

namespace SwarmCheck

set_option autoImplicit false

namespace Node

mutual

/-- A tree without what only serves to present it. -/
def plain : Node → Node
  | hole => hole
  | stray found => stray found
  | bundle serial parts => bundle serial (plainAll parts)
  | otherwise statements => otherwise (plainAll statements)
  | constant kind _ _ parenthesised => constant kind "" none parenthesised
  | stringLiteral _ _ => stringLiteral "" none
  | reference name index _ => reference name index.plain none
  | call _ args _ => call "" (plainAll args) none
  | binary op left right _ => binary op left.plain right.plain none
  | logical _ operands _ => logical "" (plainAll operands) none
  | flag name _ => flag name none
  | assign target index value _ => assign target index.plain value.plain none
  | stream channel _ => stream channel none
  | conditional condition thenBody elseBody _ =>
      conditional condition.plain (plainAll thenBody) (plainAll elseBody) none
  | decl name typeName isRecord dims initial _ =>
      decl name typeName isRecord dims initial.plain none
  | group kind decls _ => group kind (plainAll decls) none
  | moduleBlock name groups _ => moduleBlock name (plainAll groups) none
  | record name fields _ => record name (plainAll fields) none
  | event _ precondition effects _ => event "" precondition.plain (plainAll effects) none
  | program _ items _ => program "" (plainAll items) none

def plainAll : List Node → List Node
  | [] => []
  | node :: rest => node.plain :: plainAll rest

end

/-- The nodes that stand at the same place of two trees. -/
inductive SamePlace (root root' : Node) : Node → Node → Prop
  | root : SamePlace root root' root root'
  | part {node node' part part' : Node} (above : SamePlace root root' node node') (place : Nat)
      (held : node.parts[place]? = some part) (held' : node'.parts[place]? = some part') :
      SamePlace root root' part part'

/-- Nodes at the same place, which also pass for an agent's identity in the same cases. -/
structure Presented (root root' node node' : Node) : Prop where
  place : SamePlace root root' node node'
  identity : node.isOwnIdentity = node'.isOwnIdentity

section Twins

variable {root root' : Node}

theorem twins_of_plainAll {nodes others : List Node} (same : plainAll nodes = plainAll others)
    (placed : ∀ place : Nat, ∀ node other, nodes[place]? = some node →
      others[place]? = some other → SamePlace root root' node other)
    (each : ∀ node ∈ nodes, ∀ other, SamePlace root root' node other → node.plain = other.plain →
      Twin (Presented root root') node other) :
    List.Forall₂ (Twin (Presented root root')) nodes others := by
  induction nodes generalizing others with
  | nil =>
      cases others with
      | nil => exact .nil
      | cons other rest => cases same
  | cons node nodes ih =>
      cases others with
      | nil => cases same
      | cons other rest =>
          simp only [plainAll, List.cons.injEq] at same
          apply List.Forall₂.cons
          · exact each node (by simp) other (placed 0 node other rfl rfl) same.1
          · exact ih same.2 (fun place => placed (place + 1))
              fun later member => each later (by simp [member])

theorem length_of_plainAll {nodes others : List Node} (same : plainAll nodes = plainAll others) :
    nodes.length = others.length := by
  induction nodes generalizing others with
  | nil =>
      cases others with
      | nil => rfl
      | cons other rest => cases same
  | cons node nodes ih =>
      cases others with
      | nil => cases same
      | cons other rest =>
          simp only [plainAll, List.cons.injEq] at same
          simp only [List.length_cons, ih same.2]

/-- Trees that differ in presentation only are twins, and each node is linked to the one at its
place. -/
theorem twin_of_plain {node other : Node} (stands : SamePlace root root' node other)
    (same : node.plain = other.plain) : Twin (Presented root root') node other := by
  induction node generalizing other with
  | hole =>
      cases other with
      | hole => exact .hole
      | _ => cases same
  | stray found =>
      cases other with
      | stray found' =>
          cases same
          exact .stray found
      | _ => cases same
  | bundle serial parts ih =>
      cases other with
      | bundle serial' parts' =>
          simp only [plain, bundle.injEq] at same
          obtain ⟨rfl, inner⟩ := same
          exact .bundle serial (twins_of_plainAll inner (fun place _ _ => .part stands place)
            fun part member _ => ih part member)
      | _ => cases same
  | otherwise statements ih =>
      cases other with
      | otherwise statements' =>
          simp only [plain, otherwise.injEq] at same
          exact .otherwise (twins_of_plainAll same (fun place _ _ => .part stands place)
            fun part member _ => ih part member)
      | _ => cases same
  | constant kind text position parenthesised =>
      cases other with
      | constant kind' text' position' parenthesised' =>
          simp only [plain, constant.injEq, true_and] at same
          obtain ⟨rfl, rfl⟩ := same
          exact .constant ⟨stands, by cases kind <;> rfl⟩
      | _ => cases same
  | stringLiteral value position =>
      cases other with
      | stringLiteral value' position' => exact .stringLiteral ⟨stands, rfl⟩
      | _ => cases same
  | reference name index position ih =>
      cases other with
      | reference name' index' position' =>
          simp only [plain, reference.injEq, and_true] at same
          obtain ⟨rfl, inner⟩ := same
          exact .reference ⟨stands, rfl⟩ (ih (.part stands 0 rfl rfl) inner)
      | _ => cases same
  | call name args position ih =>
      cases other with
      | call name' args' position' =>
          simp only [plain, call.injEq, true_and, and_true] at same
          exact .call ⟨stands, rfl⟩ (twins_of_plainAll same (fun place _ _ => .part stands place)
            fun arg member _ => ih arg member)
      | _ => cases same
  | binary op left right position leftIh rightIh =>
      cases other with
      | binary op' left' right' position' =>
          simp only [plain, binary.injEq, and_true] at same
          obtain ⟨rfl, innerLeft, innerRight⟩ := same
          exact .binary ⟨stands, rfl⟩ (leftIh (.part stands 0 rfl rfl) innerLeft)
            (rightIh (.part stands 1 rfl rfl) innerRight)
      | _ => cases same
  | logical op operands position ih =>
      cases other with
      | logical op' operands' position' =>
          simp only [plain, logical.injEq, true_and, and_true] at same
          exact .logical ⟨stands, rfl⟩
            (twins_of_plainAll same (fun place _ _ => .part stands place)
              fun operand member _ => ih operand member)
      | _ => cases same
  | flag name position =>
      cases other with
      | flag name' position' =>
          cases same
          exact .flag ⟨stands, rfl⟩
      | _ => cases same
  | assign target index value position indexIh valueIh =>
      cases other with
      | assign target' index' value' position' =>
          simp only [plain, assign.injEq, and_true] at same
          obtain ⟨rfl, innerIndex, innerValue⟩ := same
          exact .assign ⟨stands, rfl⟩ (indexIh (.part stands 0 rfl rfl) innerIndex)
            (valueIh (.part stands 1 rfl rfl) innerValue)
      | _ => cases same
  | stream channel position =>
      cases other with
      | stream channel' position' =>
          cases same
          exact .stream ⟨stands, rfl⟩
      | _ => cases same
  | conditional condition thenBody elseBody position conditionIh thenIh elseIh =>
      cases other with
      | conditional condition' thenBody' elseBody' position' =>
          simp only [plain, conditional.injEq, and_true] at same
          obtain ⟨inner, innerThen, innerElse⟩ := same
          have lengths := length_of_plainAll innerThen
          refine .conditional ⟨stands, rfl⟩ (conditionIh (.part stands 0 rfl rfl) inner) ?_ ?_
          · refine twins_of_plainAll innerThen (fun place node other held held' => ?_)
              fun statement member _ => thenIh statement member
            apply SamePlace.part stands (place + 1)
            · rw [parts, List.getElem?_cons_succ,
                List.getElem?_append_left (List.getElem?_eq_some_iff.mp held).1]
              exact held
            · rw [parts, List.getElem?_cons_succ,
                List.getElem?_append_left (List.getElem?_eq_some_iff.mp held').1]
              exact held'
          · -- The bodies stand one after the other, and the first ones are of one length.
            refine twins_of_plainAll innerElse (fun place node other held held' => ?_)
              fun statement member _ => elseIh statement member
            apply SamePlace.part stands (thenBody.length + place + 1)
            · rw [parts, List.getElem?_cons_succ, List.getElem?_append_right (by omega),
                Nat.add_sub_cancel_left]
              exact held
            · rw [parts, List.getElem?_cons_succ, lengths, List.getElem?_append_right (by omega),
                Nat.add_sub_cancel_left]
              exact held'
      | _ => cases same
  | decl name typeName isRecord dims initial position ih =>
      cases other with
      | decl name' typeName' isRecord' dims' initial' position' =>
          simp only [plain, decl.injEq, and_true] at same
          obtain ⟨rfl, rfl, rfl, rfl, inner⟩ := same
          exact .decl ⟨stands, rfl⟩ (ih (.part stands 0 rfl rfl) inner)
      | _ => cases same
  | group kind decls position ih =>
      cases other with
      | group kind' decls' position' =>
          simp only [plain, group.injEq, and_true] at same
          obtain ⟨rfl, inner⟩ := same
          exact .group ⟨stands, rfl⟩ (twins_of_plainAll inner (fun place _ _ => .part stands place)
            fun entry member _ => ih entry member)
      | _ => cases same
  | moduleBlock name groups position ih =>
      cases other with
      | moduleBlock name' groups' position' =>
          simp only [plain, moduleBlock.injEq, and_true] at same
          obtain ⟨rfl, inner⟩ := same
          exact .moduleBlock ⟨stands, rfl⟩
            (twins_of_plainAll inner (fun place _ _ => .part stands place)
              fun entry member _ => ih entry member)
      | _ => cases same
  | record name fields position ih =>
      cases other with
      | record name' fields' position' =>
          simp only [plain, record.injEq, and_true] at same
          obtain ⟨rfl, inner⟩ := same
          exact .record ⟨stands, rfl⟩ (twins_of_plainAll inner (fun place _ _ => .part stands place)
            fun field member _ => ih field member)
      | _ => cases same
  | event name precondition effects position preconditionIh effectsIh =>
      cases other with
      | event name' precondition' effects' position' =>
          simp only [plain, event.injEq, true_and, and_true] at same
          obtain ⟨inner, innerEffects⟩ := same
          refine .event ⟨stands, rfl⟩ (preconditionIh (.part stands 0 rfl rfl) inner) ?_
          exact twins_of_plainAll innerEffects (fun place _ _ => .part stands (place + 1))
            fun effect member _ => effectsIh effect member
      | _ => cases same
  | program name items position ih =>
      cases other with
      | program name' items' position' =>
          simp only [plain, program.injEq, true_and, and_true] at same
          exact .program ⟨stands, rfl⟩
            (twins_of_plainAll same (fun place _ _ => .part stands place)
              fun item member _ => ih item member)
      | _ => cases same

end Twins

theorem Twin.phrase_eq {link : Node → Node → Prop} {node other : Node}
    (twin : Twin link node other) : node.phrase = other.phrase := by
  cases twin <;> rfl

end Node

namespace WriteAccess

open Trail

variable {link : Node → Node → Prop}
  (identities : ∀ node other, link node other → node.isOwnIdentity = other.isOwnIdentity)

include identities

theorem isOwnIdentity_eq {node other : Node} (twin : Node.Twin link node other) :
    node.isOwnIdentity = other.isOwnIdentity := by
  cases blank : node.isBlank with
  | false => exact identities node other (twin.linked blank)
  | true => cases twin <;> first | rfl | cases blank

theorem violations_twin {site site' value value' : Node} (sites : Node.Counterparts link site site')
    (values : Node.Twin link value value') (target : String) (indexed : Bool)
    (resolution : Resolution) :
    List.Forall₂ (Entry.Twin link) (violations site target indexed value resolution)
      (violations site' target indexed value' resolution) := by
  have pair {broken : Prop} [Decidable broken] (text : String) {finding finding' : Finding}
      (twin : Finding.Twin link finding finding') :
      List.Forall₂ (Entry.Twin link) (if broken then violation text target finding else [])
        (if broken then violation text target finding' else []) := by
    split
    · exact .cons (.note _) (.cons (.report twin) .nil)
    · exact .nil
  rw [violations, violations, isOwnIdentity_eq identities values]
  apply List.rel_append (List.rel_append _ _) _
  · exact pair _ (.sensorWrite target sites)
  · exact pair _ (.streamWrite target sites)
  · exact pair _ (.readOnlyWrite target sites)

theorem checkNode_parallel {node other : Node} (twin : Node.Twin link node other)
    (env : Environment) :
    Parallel (Entry.Twin link) (checkNode env node) (checkNode env other) := by
  cases twin with
  | @assign target index index' value value' position position' linked innerIndex innerValue =>
      rw [checkNode, checkNode, ← innerIndex.isHole_eq]
      cases env.resolve target with
      | error cause =>
          apply Parallel.bind (parallel_emit _) fun _ => parallel_fail _
          rw [List.forall₂_same, List.forall_mem_map]
          exact fun record _ => .note record
      | ok resolution =>
          exact parallel_emit (violations_twin identities
            ⟨.assign linked innerIndex innerValue, rfl⟩ innerValue target _ resolution)
  | _ => exact parallel_pure ()

theorem checkNodes_parallel {nodes others : List Node}
    (twins : List.Forall₂ (Node.Twin link) nodes others) (env : Environment) :
    Parallel (Entry.Twin link) (checkNodes env nodes) (checkNodes env others) := by
  induction twins with
  | nil => exact parallel_pure ()
  | cons twin _ ih => exact .bind (checkNode_parallel identities twin env) fun _ => ih

theorem check_parallel {program program' : Node} (twin : Node.Twin link program program')
    (env : Environment) :
    Parallel (Entry.Twin link) (check env program) (check env program') := by
  rw [check, check, ← twin.isBlank_eq]
  exact parallel_ite (parallel_fail _) (checkNodes_parallel identities twin.preorder env)

end WriteAccess

section Phases

variable {link : Node → Node → Prop} {program program' : Node}
  (twin : Node.Twin link program program')
  (identities : ∀ node other, link node other → node.isOwnIdentity = other.isOwnIdentity)
  {table table' : SymbolTable} (twins : table.Twin link table') (policy : RedefinitionPolicy)

include twin identities twins

theorem Phase.work_alike (phase : Phase) :
    (phase.work policy program table).outcome = (phase.work policy program' table').outcome ∧
      (phase.work policy program table).table.Twin link
        (phase.work policy program' table').table := by
  by_cases last : phase = .access
  · subst last
    have parallel := WriteAccess.check_parallel identities twin table.env
    rw [twins.alike.writeAccess_check program'] at parallel
    exact ⟨parallel.outcome, twins.reportAll (Entry.findings_twin parallel.emitted)⟩
  · exact Phase.work_twin twin twins policy last

theorem Analyzer.runPhases_alike (phases : List Phase) :
    (∃ fault, (runPhases policy program phases table).outcome = .error fault ∧
      (runPhases policy program' phases table').outcome = .error fault) ∨
    ∃ final final', (runPhases policy program phases table).outcome = .ok final ∧
      (runPhases policy program' phases table').outcome = .ok final' ∧ final.Twin link final' := by
  induction phases generalizing table table' with
  | nil => exact .inr ⟨table, table', rfl, rfl, twins⟩
  | cons phase rest ih =>
      obtain ⟨outcome, tables⟩ := Phase.work_alike twin identities twins policy phase
      rw [outcome_runPhases_cons, outcome_runPhases_cons, ← outcome, ← tables.errors_eq]
      cases (phase.work policy program table).outcome with
      | error fault => exact .inl ⟨fault, rfl, rfl⟩
      | ok done =>
          dsimp only
          split
          · exact ih tables
          · exact .inr ⟨_, _, rfl, rfl, tables⟩

end Phases

/-- Findings that are shown alike, each at the position of its own node, and that are about the
nodes at one place of two programs. -/
structure Finding.SameAt (program program' : Node) (finding finding' : Finding) : Prop where
  place : Node.SamePlace program program' finding.site finding'.site
  code : finding.diagnostic.code = finding'.diagnostic.code
  message : finding.diagnostic.message = finding'.diagnostic.message
  subject : finding.diagnostic.subject = finding'.diagnostic.subject
  help : finding.diagnostic.help = finding'.diagnostic.help
  position : finding.diagnostic.position = finding.site.position
  position' : finding'.diagnostic.position = finding'.site.position

/-- Tables of two programs that hold the same, up to the nodes, and these stand at the same places.
What is in the lists and in the diagnostics of each table is said of findings that are the same. -/
structure SymbolTable.SameAt (program program' : Node) (table table' : SymbolTable) : Prop where
  symbols : table.env.symbols.entries.map (fun entry => (entry.1, entry.2.unplaced)) =
    table'.env.symbols.entries.map (fun entry => (entry.1, entry.2.unplaced))
  registry : table.env.registry = table'.env.registry
  dump : table.dump = table'.dump
  redeclared : table.redeclared = table'.redeclared
  unresolved : table.unresolved = table'.unresolved
  sensorWrites : table.sensorWrites = table'.sensorWrites
  streamWrites : table.streamWrites = table'.streamWrites
  readOnlyWrites : table.readOnlyWrites = table'.readOnlyWrites
  mismatches : List.Forall₂ (Node.SamePlace program program') table.mismatches table'.mismatches
  findings : ∃ findings findings', table.toJournal = .ofFindings findings ∧
    table'.toJournal = .ofFindings findings' ∧
      List.Forall₂ (Finding.SameAt program program') findings findings'

section Tables

variable {program program' : Node}

theorem Finding.sameAt_of_twin {finding finding' : Finding}
    (twin : Finding.Twin (Node.Presented program program') finding finding') :
    finding.SameAt program program' finding' := by
  have placed : Node.SamePlace program program' finding.site finding'.site := by
    cases twin with
    | unresolved _ _ sites | redeclared _ sites | mismatch _ _ _ sites | sensorWrite _ sites
    | streamWrite _ sites | readOnlyWrite _ sites => exact sites.linked.place
  cases twin <;> exact ⟨placed, rfl, rfl, rfl, rfl, rfl, rfl⟩

theorem SymbolTable.sameAt_of_twins {table table' : SymbolTable}
    (twins : table.Twin (Node.Presented program program') table') :
    table.SameAt program program' table' := by
  obtain ⟨redeclared, unresolved, sensorWrites, streamWrites, readOnlyWrites⟩ :=
    twins.journal.lists_eq
  refine ⟨?_, twins.registry, twins.alike.dump, redeclared, unresolved, sensorWrites,
    streamWrites, readOnlyWrites, ?_, ?_⟩
  · apply List.forall₂_eq_eq_eq ▸ List.rel_map _ twins.symbols
    rintro ⟨name, symbol⟩ ⟨name', symbol'⟩ ⟨named, twin⟩
    exact Prod.ext named twin.same
  · exact twins.journal.mismatches.imp fun _ _ sites => sites.linked.place
  · obtain ⟨findings, findings', journal, journal', each⟩ := twins.journal
    exact ⟨findings, findings', journal, journal', each.imp fun _ _ => Finding.sameAt_of_twin⟩

end Tables

/-- Presentation does not influence an analysis. Two programs that differ in positions and wording
only are analysed to the same fault, or both to a table. The tables then hold the same symbols,
records and names. Their mismatches are the nodes at the same places of the two trees, in the same
order, and their diagnostics say the same one by one, each at the position of its own node. -/
theorem analysis_ignores_presentation (settings : Settings) {program program' : Node}
    (same : program.plain = program'.plain) :
    (∃ fault, (analyze settings program).outcome = .error fault ∧
      (analyze settings program').outcome = .error fault) ∨
    ∃ table table', (analyze settings program).outcome = .ok table ∧
      (analyze settings program').outcome = .ok table' ∧
        table.SameAt program program' table' := by
  have twin := Node.twin_of_plain .root same
  rw [Analyzer.outcome_analyze, Analyzer.outcome_analyze]
  have named := twin.name?_isSome_eq
  cases own : program.name? with
  | none =>
      rw [own, Option.isSome_none, eq_comm, Option.isSome_eq_false_iff, Option.isNone_iff_eq_none]
        at named
      exact .inl ⟨.namelessRoot program.phrase, rfl, by rw [named, twin.phrase_eq]⟩
  | some name =>
      rw [own, Option.isSome_some, eq_comm, Option.isSome_iff_exists] at named
      obtain ⟨name', other⟩ := named
      rw [other]
      rcases Analyzer.runPhases_alike twin (fun _ _ linked => linked.identity)
          SymbolTable.twin_empty settings.recordRedefinition Phase.all with
        failed | ⟨table, table', returned, returned', twins⟩
      · exact .inl failed
      · exact .inr ⟨table, table', returned, returned', SymbolTable.sameAt_of_twins twins⟩

def storedNumber : Node :=
  .program "Swarm"
    [.group .locals [.decl "done" "bool" false 0 .hole none] none,
      .event "Step" (.logical "and" [.flag "done" none] none)
        [.assign "done" .hole (.constant .int "7" none false)
            (some { line := some 3, column := some 2 }),
          .call "log" [.stringLiteral "step" none] none] none] none

/-- The same program, presented in another way throughout. -/
def storedNumberElsewhere : Node :=
  .program "Hive"
    [.group .locals
        [.decl "done" "bool" false 0 .hole (some { line := some 8, column := none })] none,
      .event "Turn" (.logical "or" [.flag "done" none] none)
        [.assign "done" .hole (.constant .int "10" none false)
            (some { line := some 40, column := some 4 }),
          .call "print" [.stringLiteral "turn" none] none] none] none

theorem storedNumber_elsewhere :
    storedNumber.plain = storedNumberElsewhere.plain ∧
      ∃ table table', (analyze {} storedNumber).outcome = .ok table ∧
        (analyze {} storedNumberElsewhere).outcome = .ok table' ∧
        table.SameAt storedNumber storedNumberElsewhere table' ∧
        table.diagnostics.map (·.line) = [some 3] ∧
        table'.diagnostics.map (·.line) = [some 40] := by
  have same : storedNumber.plain = storedNumberElsewhere.plain := rfl
  have lines : (analyze {} storedNumber).outcome.map (·.diagnostics.map (·.line)) =
      .ok [some 3] := rfl
  have lines' : (analyze {} storedNumberElsewhere).outcome.map (·.diagnostics.map (·.line)) =
      .ok [some 40] := rfl
  refine ⟨same, ?_⟩
  rcases analysis_ignores_presentation {} same with
    ⟨fault, failed, _⟩ | ⟨table, table', returned, returned', alike⟩
  · rw [failed] at lines
    cases lines
  · rw [returned] at lines
    rw [returned'] at lines'
    exact ⟨table, table', returned, returned', alike, Except.ok.inj lines, Except.ok.inj lines'⟩

end SwarmCheck
