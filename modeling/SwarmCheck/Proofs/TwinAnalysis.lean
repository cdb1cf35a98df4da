import SwarmCheck.Proofs.Agreement
import SwarmCheck.Proofs.Gating
import SwarmCheck.Proofs.Trail
import SwarmCheck.Proofs.Twins

/-!
# Analyses of twin trees

Twin trees are analysed step by step alike. Each pass emits the same entries for both, except that
each entry is about a node of its own tree, and it ends for both in the same way. So the tables of
both analyses stay twins through every phase but the last, which is the only one that looks at
parentheses.
-/

namespace SwarmCheck

set_option autoImplicit false

namespace Trail

variable {ω ε α β : Type} {alike : ω → ω → Prop}

/-- Two trails emit entries that are pairwise alike and have the same outcome. -/
structure Parallel (alike : ω → ω → Prop) (first second : Trail ω ε α) : Prop where
  emitted : List.Forall₂ alike first.emitted second.emitted
  outcome : first.outcome = second.outcome

theorem parallel_pure (value : α) :
    Parallel alike (pure value : Trail ω ε α) (pure value) :=
  ⟨.nil, rfl⟩

theorem parallel_fail (error : ε) :
    Parallel alike (fail error : Trail ω ε α) (fail error) :=
  ⟨.nil, rfl⟩

theorem parallel_emit {entries others : List ω} (each : List.Forall₂ alike entries others) :
    Parallel alike (emit entries : Trail ω ε Unit) (emit others) :=
  ⟨each, rfl⟩

theorem Parallel.bind {first second : Trail ω ε α} {next other : α → Trail ω ε β}
    (firsts : Parallel alike first second)
    (nexts : ∀ value, Parallel alike (next value) (other value)) :
    Parallel alike (first >>= next) (second >>= other) := by
  have same := firsts.outcome
  cases ended : first.outcome with
  | error error =>
      rw [ended] at same
      constructor
      · rw [emitted_bind_of_error ended, emitted_bind_of_error same.symm]
        exact firsts.emitted
      · rw [outcome_bind_of_error ended, outcome_bind_of_error same.symm]
  | ok value =>
      rw [ended] at same
      constructor
      · rw [emitted_bind_of_ok ended, emitted_bind_of_ok same.symm]
        exact List.rel_append firsts.emitted (nexts value).emitted
      · rw [outcome_bind_of_ok ended, outcome_bind_of_ok same.symm]
        exact (nexts value).outcome

theorem parallel_ite {condition : Prop} [Decidable condition]
    {first second other another : Trail ω ε α}
    (positive : Parallel alike first second) (negative : Parallel alike other another) :
    Parallel alike (if condition then first else other)
      (if condition then second else another) := by
  split
  · exact positive
  · exact negative

end Trail

/-- The same finding about corresponding nodes. -/
inductive Finding.Twin (link : Node → Node → Prop) : Finding → Finding → Prop
  | unresolved (name : String) (help : Option String) {site site' : Node}
      (sites : Node.Counterparts link site site') :
      Twin link (.unresolved name site help) (.unresolved name site' help)
  | redeclared (name : String) {site site' : Node} (sites : Node.Counterparts link site site') :
      Twin link (.redeclared name site) (.redeclared name site')
  | mismatch (construct expected actual : String) {site site' : Node}
      (sites : Node.Counterparts link site site') :
      Twin link (.mismatch site construct expected actual)
        (.mismatch site' construct expected actual)
  | sensorWrite (target : String) {site site' : Node} (sites : Node.Counterparts link site site') :
      Twin link (.sensorWrite target site) (.sensorWrite target site')
  | streamWrite (target : String) {site site' : Node} (sites : Node.Counterparts link site site') :
      Twin link (.streamWrite target site) (.streamWrite target site')
  | readOnlyWrite (target : String) {site site' : Node}
      (sites : Node.Counterparts link site site') :
      Twin link (.readOnlyWrite target site) (.readOnlyWrite target site')

inductive Entry.Twin (link : Node → Node → Prop) : Entry → Entry → Prop
  | note (record : Log.Record) : Twin link (.note record) (.note record)
  | report {finding finding' : Finding} (twin : Finding.Twin link finding finding') :
      Twin link (.report finding) (.report finding')

structure Symbol.Twin (link : Node → Node → Prop) (symbol other : Symbol) : Prop where
  same : symbol.unplaced = other.unplaced
  sites : Node.Counterparts link symbol.definedAt other.definedAt

inductive Declaration.Twin (link : Node → Node → Prop) : Declaration → Declaration → Prop
  | symbol {symbol symbol' : Symbol} (twin : Symbol.Twin link symbol symbol') :
      Twin link (.symbol symbol) (.symbol symbol')
  | repeatedField (record field : String) {site site' : Node}
      (sites : Node.Counterparts link site site') :
      Twin link (.repeatedField record field site) (.repeatedField record field site')
  | record (name : String) (fields : Fields) {site site' : Node}
      (sites : Node.Counterparts link site site') :
      Twin link (.record name fields site) (.record name fields site')

variable {link : Node → Node → Prop}

namespace Declarations

open Trail

theorem collectDecl_parallel {site site' : Node} (sites : Node.Counterparts link site site')
    (context : Context) (fields : Fields) (name typeName : String) (isRecord : Bool) (dims : Int) :
    Parallel (Declaration.Twin link)
      (collectDecl context fields site name typeName isRecord dims)
      (collectDecl context fields site' name typeName isRecord dims) := by
  rw [collectDecl, collectDecl]
  cases declaredType typeName isRecord dims with
  | error fault => exact parallel_fail fault
  | ok type =>
      cases context.record with
      | some record =>
          apply parallel_ite
          · exact .bind (parallel_emit (.cons (.repeatedField record name sites) .nil))
              fun _ => parallel_pure fields
          · exact parallel_pure _
      | none =>
          cases context.scope with
          | none => exact parallel_fail _
          | some scope =>
              exact .bind (parallel_emit (.cons (.symbol ⟨rfl, sites⟩) .nil))
                fun _ => parallel_pure fields

section Lists

variable {nodes others : List Node} (twins : List.Forall₂ (Node.Twin link) nodes others)
  (each : ∀ node ∈ nodes, ∀ {other}, Node.Twin link node other → ∀ context fields,
    Parallel (Declaration.Twin link) (collect context fields node) (collect context fields other))
  (context : Context) (fields : Fields)

include twins each

theorem collectAll_parallel : Parallel (Declaration.Twin link) (collectAll context fields nodes)
    (collectAll context fields others) := by
  induction twins generalizing fields with
  | nil => exact parallel_pure fields
  | @cons node other _ _ twin _ ih =>
      have later := ih fun entry member => each entry (by simp [member])
      rw [collectAll, collectAll, ← twin.isBlank_eq]
      apply parallel_ite
      · exact .bind (parallel_fail _) later
      · exact .bind (each node (by simp) twin context fields) later

theorem collectIn_parallel : Parallel (Declaration.Twin link) (collectIn context fields nodes)
    (collectIn context fields others) := by
  induction twins generalizing fields with
  | nil => exact parallel_pure fields
  | @cons node other _ _ twin _ ih =>
      have later := ih fun entry member => each entry (by simp [member])
      rw [collectIn, collectIn, ← twin.isBlank_eq]
      apply parallel_ite
      · exact .bind (parallel_pure _) later
      · exact .bind (each node (by simp) twin context fields) later

end Lists

theorem collect_parallel {first second : Node} (twin : Node.Twin link first second)
    (context : Context) (fields : Fields) :
    Parallel (Declaration.Twin link) (collect context fields first)
      (collect context fields second) := by
  induction first generalizing second context fields with
  | hole | stray | otherwise | constant | stringLiteral | flag | stream =>
      cases twin
      exact parallel_pure fields
  | bundle serial parts ih =>
      cases twin with
      | bundle serial inner => exact collectIn_parallel inner ih context fields
  | reference name index position ih =>
      cases twin with
      | reference linked innerIndex => exact ih innerIndex context fields
  | call name args position ih =>
      cases twin with
      | call linked inner => exact collectIn_parallel inner ih context fields
  | binary op left right position leftIh rightIh =>
      cases twin with
      | binary linked innerLeft innerRight =>
          exact .bind (leftIh innerLeft context fields) (rightIh innerRight context)
  | logical op operands position ih =>
      cases twin with
      | logical linked inner => exact collectIn_parallel inner ih context fields
  | assign target index value position indexIh valueIh =>
      cases twin with
      | assign linked innerIndex innerValue =>
          exact .bind (indexIh innerIndex context fields) (valueIh innerValue context)
  | conditional condition thenBody elseBody position conditionIh thenIh elseIh =>
      cases twin with
      | conditional linked innerCondition innerThen innerElse =>
          exact .bind (conditionIh innerCondition context fields) fun fields =>
            .bind (collectIn_parallel innerThen thenIh context fields)
              (collectIn_parallel innerElse elseIh context)
  | decl name typeName isRecord dims initial position ih =>
      cases twin with
      | decl linked innerInitial =>
          exact collectDecl_parallel ⟨.decl linked innerInitial, rfl⟩ context fields name typeName
            isRecord dims
  | group kind decls position ih =>
      cases twin with
      | group linked inner => exact collectAll_parallel inner ih _ fields
  | moduleBlock name groups position ih =>
      cases twin with
      | moduleBlock linked inner => exact collectAll_parallel inner ih _ fields
  | record name fields' position ih =>
      cases twin with
      | record linked inner =>
          exact .bind (collectAll_parallel inner ih _ .empty) fun own =>
            .bind (parallel_emit (.cons (.record name own ⟨.record linked inner, rfl⟩) .nil))
              fun _ => parallel_pure fields
  | event name precondition effects position preconditionIh effectsIh =>
      cases twin with
      | event linked innerPrecondition inner =>
          exact .bind (preconditionIh innerPrecondition context fields)
            (collectIn_parallel inner effectsIh context)
  | program name items position ih =>
      cases twin with
      | program linked inner => exact collectIn_parallel inner ih context fields

theorem ofProgram_parallel {first second : Node} (twin : Node.Twin link first second) :
    Parallel (Declaration.Twin link) (ofProgram first) (ofProgram second) := by
  rw [ofProgram, ofProgram, ← twin.isBlank_eq]
  exact parallel_ite (parallel_fail _) (collect_parallel twin {} .empty)

end Declarations

namespace References

open Trail

theorem entriesAt_twin {first second : Node} (twin : Node.Twin link first second)
    (env : Environment) :
    List.Forall₂ (Entry.Twin link) (entriesAt env first) (entriesAt env second) := by
  rw [entriesAt, entriesAt, ← twin.referenceText?_eq]
  cases mentioned : first.referenceText? with
  | none => exact .nil
  | some text =>
      dsimp only
      cases env.resolve text with
      | ok resolution => exact .nil
      | error cause =>
          have notes : List.Forall₂ (Entry.Twin link) (cause.notes.map .note)
              (cause.notes.map .note) := by
            rw [List.forall₂_same, List.forall_mem_map]
            exact fun record _ => .note record
          have sites := Node.counterparts_of_reference twin mentioned
          exact List.rel_append notes
            (.cons (.note _) (.cons (.report (.unresolved _ _ sites)) .nil))

theorem check_parallel {first second : Node} (twin : Node.Twin link first second)
    (env : Environment) : Parallel (Entry.Twin link) (check env first) (check env second) := by
  rw [check, check, ← twin.isBlank_eq]
  apply parallel_ite (parallel_fail _)
  exact parallel_emit (List.rel_flatMap twin.preorder fun _ _ pair => entriesAt_twin pair env)

end References

namespace Typing

open Trail

section Steps

theorem note_parallel (text : String) : Parallel (Entry.Twin link) (note text) (note text) :=
  parallel_emit (.cons (.note _) .nil)

theorem pop_parallel (stack : Operands) : Parallel (Entry.Twin link) (pop stack) (pop stack) := by
  cases stack with
  | nil => exact .bind (note_parallel _) fun _ => parallel_pure _
  | cons type rest => exact parallel_pure _

theorem popMany_parallel (count : Nat) (stack : Operands) :
    Parallel (Entry.Twin link) (popMany count stack) (popMany count stack) := by
  induction count generalizing stack with
  | zero => exact parallel_pure stack
  | succ count ih => exact .bind (pop_parallel stack) fun taken => ih taken.2

theorem typeOf_parallel (env : Environment) (text : String) :
    Parallel (Entry.Twin link) (typeOf env text) (typeOf env text) := by
  rw [typeOf]
  cases env.resolve text with
  | ok resolution => exact parallel_pure _
  | error cause =>
      apply Parallel.bind _ fun _ => parallel_fail _
      apply parallel_emit
      rw [List.forall₂_same, List.forall_mem_map]
      exact fun record _ => .note record

variable {site site' : Node} (sites : Node.Counterparts link site site')

include sites

theorem mismatch_parallel (construct expected actual : String) :
    Parallel (Entry.Twin link) (mismatch site construct expected actual)
      (mismatch site' construct expected actual) :=
  .bind (note_parallel _) fun _ => parallel_emit (.cons (.report (.mismatch _ _ _ sites)) .nil)

theorem checkIndex_parallel (index : Ty) :
    Parallel (Entry.Twin link) (checkIndex site index) (checkIndex site' index) :=
  parallel_ite (parallel_pure ()) (mismatch_parallel sites _ _ _)

theorem leaveBinary_parallel (op : String) (stack : Operands) :
    Parallel (Entry.Twin link) (leaveBinary site op stack) (leaveBinary site' op stack) := by
  refine .bind (pop_parallel stack) fun right => .bind (pop_parallel right.2) fun left =>
    .bind ?_ fun type => parallel_pure _
  refine parallel_ite (parallel_pure _) (parallel_ite (parallel_pure _) (parallel_ite ?_ ?_))
  · exact .bind (mismatch_parallel sites _ _ _) fun _ => parallel_pure _
  · exact parallel_pure _

theorem elementType_parallel (name : String) (type : Ty) :
    Parallel (Entry.Twin link) (elementType site name type) (elementType site' name type) := by
  cases type with
  | array inner => exact parallel_pure inner
  | _ => exact .bind (mismatch_parallel sites _ _ _) fun _ => parallel_pure _

theorem checkTarget_parallel (target : String) (indexed : Bool) (type actual : Ty) :
    Parallel (Entry.Twin link) (checkTarget site target indexed type actual)
      (checkTarget site' target indexed type actual) := by
  apply parallel_ite
  · exact parallel_ite (parallel_pure ()) (mismatch_parallel sites _ _ _)
  · cases type with
    | array inner => exact parallel_ite (parallel_pure ()) (mismatch_parallel sites _ _ _)
    | _ => exact mismatch_parallel sites _ _ _

theorem checkStream_parallel (env : Environment) (channel : Option String) :
    Parallel (Entry.Twin link) (checkStream env site channel) (checkStream env site' channel) := by
  cases channel with
  | none => exact parallel_pure ()
  | some channel =>
      exact .bind (typeOf_parallel env channel) fun type =>
        parallel_ite (parallel_pure ()) (mismatch_parallel sites _ _ _)

variable {place place' : Node} (places : Node.Twin link place place')

include places

theorem leaveReference_parallel (env : Environment) (name : String) (stack : Operands) :
    Parallel (Entry.Twin link) (leaveReference env site name place stack)
      (leaveReference env site' name place' stack) := by
  rw [leaveReference, leaveReference, ← places.isHole_eq]
  refine .bind (typeOf_parallel env name) fun type => parallel_ite (parallel_pure _) ?_
  exact .bind (pop_parallel stack) fun taken => .bind (checkIndex_parallel sites _) fun _ =>
    .bind (elementType_parallel sites name type) fun _ => parallel_pure _

theorem popIndex_parallel (stack : Operands) :
    Parallel (Entry.Twin link) (popIndex site place stack) (popIndex site' place' stack) := by
  rw [popIndex, popIndex, ← places.isHole_eq]
  exact parallel_ite (parallel_pure _) (.bind (pop_parallel _) fun taken =>
    .bind (checkIndex_parallel sites _) fun _ => parallel_pure _)

theorem leaveAssign_parallel (env : Environment) (target : String) (stack : Operands) :
    Parallel (Entry.Twin link) (leaveAssign env site target place stack)
      (leaveAssign env site' target place' stack) := by
  rw [leaveAssign, leaveAssign, ← places.isHole_eq]
  refine .bind (pop_parallel stack) fun taken => .bind (popIndex_parallel sites places _)
    fun rest => parallel_ite (parallel_pure _) ?_
  exact .bind (typeOf_parallel env target) fun type =>
    .bind (checkTarget_parallel sites _ _ _ _) fun _ => parallel_pure _

theorem leaveDecl_parallel (name typeName : String) (isRecord : Bool) (dims : Int)
    (stack : Operands) :
    Parallel (Entry.Twin link) (leaveDecl site name typeName isRecord dims place stack)
      (leaveDecl site' name typeName isRecord dims place' stack) := by
  rw [leaveDecl, leaveDecl, ← places.isHole_eq]
  refine parallel_ite (parallel_pure _) (.bind (pop_parallel stack) fun taken =>
    parallel_ite (parallel_pure _) ?_)
  cases declaredType typeName isRecord dims with
  | error fault => exact parallel_fail fault
  | ok expected => exact parallel_ite (parallel_pure _) (mismatch_parallel sites _ _ _)

end Steps

section Lists

variable {nodes others : List Node} (twins : List.Forall₂ (Node.Twin link) nodes others)
  (env : Environment)
  (each : ∀ node ∈ nodes, ∀ {other}, Node.Twin link node other → ∀ stack,
    Parallel (Entry.Twin link) (visit env stack node) (visit env stack other))
  (stack : Operands)

include twins each

theorem visitIn_parallel :
    Parallel (Entry.Twin link) (visitIn env stack nodes) (visitIn env stack others) := by
  induction twins generalizing stack with
  | nil => exact parallel_pure stack
  | @cons node other _ _ twin _ ih =>
      have later := ih fun entry member => each entry (by simp [member])
      rw [visitIn, visitIn, ← twin.isBlank_eq]
      apply parallel_ite
      · exact .bind (parallel_pure _) later
      · exact .bind (each node (by simp) twin stack) later

theorem visitStatements_parallel :
    Parallel (Entry.Twin link) (visitStatements env stack nodes)
      (visitStatements env stack others) := by
  induction twins generalizing stack with
  | nil => exact parallel_pure stack
  | @cons node other _ _ twin _ ih =>
      have later := ih fun entry member => each entry (by simp [member])
      rw [visitStatements, visitStatements, ← twin.isBlank_eq]
      apply parallel_ite
      · exact .bind (parallel_fail _) fun _ => later []
      · exact .bind (each node (by simp) twin stack) fun _ => later []

end Lists

theorem visit_parallel {first second : Node} (twin : Node.Twin link first second)
    (env : Environment) (stack : Operands) :
    Parallel (Entry.Twin link) (visit env stack first) (visit env stack second) := by
  induction first generalizing second stack with
  | hole | stray | otherwise | constant | stringLiteral =>
      cases twin
      exact parallel_pure _
  | bundle serial parts ih =>
      cases twin with
      | bundle serial inner => exact visitIn_parallel inner env ih stack
  | reference name index position ih =>
      cases twin with
      | reference linked innerIndex =>
          exact .bind (ih innerIndex stack)
            (leaveReference_parallel ⟨.reference linked innerIndex, rfl⟩ innerIndex env name)
  | call name args position ih =>
      cases twin with
      | call linked inner =>
          rw [visit, visit, inner.length_eq]
          exact .bind (visitIn_parallel inner env ih stack) fun stack =>
            .bind (popMany_parallel _ stack) fun _ => parallel_pure _
  | binary op left right position leftIh rightIh =>
      cases twin with
      | binary linked innerLeft innerRight =>
          exact .bind (leftIh innerLeft stack) fun stack => .bind (rightIh innerRight stack)
            (leaveBinary_parallel ⟨.binary linked innerLeft innerRight, rfl⟩ op)
  | logical op operands position ih =>
      cases twin with
      | logical linked inner =>
          rw [visit, visit, inner.length_eq]
          exact .bind (visitIn_parallel inner env ih stack) fun stack =>
            .bind (popMany_parallel _ stack) fun _ => parallel_pure _
  | flag name position =>
      cases twin with
      | flag linked => exact .bind (typeOf_parallel env name) fun _ => parallel_pure _
  | assign target index value position indexIh valueIh =>
      cases twin with
      | assign linked innerIndex innerValue =>
          exact .bind (indexIh innerIndex stack) fun stack => .bind (valueIh innerValue stack)
            (leaveAssign_parallel ⟨.assign linked innerIndex innerValue, rfl⟩ innerIndex env
              target)
  | stream channel position =>
      cases twin with
      | stream linked =>
          exact .bind (checkStream_parallel ⟨.stream linked, rfl⟩ env channel) fun _ =>
            parallel_pure _
  | conditional condition thenBody elseBody position conditionIh thenIh elseIh =>
      cases twin with
      | conditional linked innerCondition innerThen innerElse =>
          have branches := Parallel.bind (visitStatements_parallel innerThen env thenIh [])
            (visitStatements_parallel innerElse env elseIh)
          rw [visit, visit, ← innerCondition.isBlank_eq]
          apply parallel_ite
          · exact .bind (parallel_fail _) fun _ => branches
          · exact .bind (conditionIh innerCondition stack) fun _ => branches
  | decl name typeName isRecord dims initial position ih =>
      cases twin with
      | decl linked innerInitial =>
          exact .bind (ih innerInitial stack) fun stack =>
            .bind (leaveDecl_parallel ⟨.decl linked innerInitial, rfl⟩ innerInitial name typeName
              isRecord dims stack) fun _ => parallel_pure _
  | group kind decls position ih =>
      cases twin with
      | group linked inner => exact visitIn_parallel inner env ih stack
  | moduleBlock name groups position ih =>
      cases twin with
      | moduleBlock linked inner => exact visitIn_parallel inner env ih stack
  | record name fields position ih =>
      cases twin with
      | record linked inner => exact visitIn_parallel inner env ih stack
  | event name precondition effects position preconditionIh effectsIh =>
      cases twin with
      | event linked innerPrecondition inner =>
          have statements := visitStatements_parallel inner env effectsIh
          rw [visit, visit, ← innerPrecondition.isHole_eq, ← innerPrecondition.isBlank_eq]
          refine parallel_ite (.bind (parallel_pure _) statements) (parallel_ite ?_ ?_)
          · exact .bind (parallel_fail _) statements
          · exact .bind (preconditionIh innerPrecondition stack) fun _ =>
              .bind (parallel_pure _) statements
  | program name items position ih =>
      cases twin with
      | program linked inner => exact visitIn_parallel inner env ih stack

theorem check_parallel {first second : Node} (twin : Node.Twin link first second)
    (env : Environment) : Parallel (Entry.Twin link) (check env first) (check env second) := by
  rw [check, check, ← twin.isBlank_eq]
  apply parallel_ite
  · exact .bind (parallel_fail _) fun _ => parallel_pure ()
  · exact .bind (visit_parallel twin env []) fun _ => parallel_pure ()

end Typing

def Journal.Twin (link : Node → Node → Prop) (journal other : Journal) : Prop :=
  ∃ findings findings', journal = .ofFindings findings ∧ other = .ofFindings findings' ∧
    List.Forall₂ (Finding.Twin link) findings findings'

/-- Tables that declare the same, in the same order, and report the same about corresponding
nodes. -/
structure SymbolTable.Twin (link : Node → Node → Prop) (table other : SymbolTable) : Prop where
  symbols : List.Forall₂ (fun entry entry' => entry.1 = entry'.1 ∧ entry.2.Twin link entry'.2)
    table.env.symbols.entries other.env.symbols.entries
  registry : table.env.registry = other.env.registry
  journal : table.toJournal.Twin link other.toJournal

namespace Journal

variable {journal other : Journal}

theorem Twin.clean (twins : journal.Twin link other) (clean : journal.Clean) : other.Clean := by
  obtain ⟨findings, findings', rfl, rfl, each⟩ := twins
  rw [clean_ofFindings_iff] at clean ⊢
  rw [clean, List.forall₂_nil_left_iff] at each
  exact each

theorem Twin.reportAll (twins : journal.Twin link other) {recorded recorded' : List Finding}
    (each : List.Forall₂ (Finding.Twin link) recorded recorded') :
    (journal.reportAll recorded).Twin link (other.reportAll recorded') := by
  obtain ⟨findings, findings', rfl, rfl, earlier⟩ := twins
  refine ⟨findings ++ recorded, findings' ++ recorded', ?_, ?_, List.rel_append earlier each⟩
  · rw [reportAll_eq_append, ofFindings_append]
  · rw [reportAll_eq_append, ofFindings_append]

theorem view_eq_of_twins {α : Type} {view : Finding → Option α} {findings others : List Finding}
    (twins : List.Forall₂ (Finding.Twin link) findings others)
    (viewed : ∀ {finding finding'}, Finding.Twin link finding finding' →
      view finding = view finding') :
    findings.filterMap view = others.filterMap view := by
  induction twins with
  | nil => rfl
  | cons twin _ ih => rw [List.filterMap_cons, List.filterMap_cons, viewed twin, ih]

theorem Twin.lists_eq (twins : journal.Twin link other) :
    journal.redeclared = other.redeclared ∧ journal.unresolved = other.unresolved ∧
      journal.sensorWrites = other.sensorWrites ∧ journal.streamWrites = other.streamWrites ∧
        journal.readOnlyWrites = other.readOnlyWrites := by
  obtain ⟨findings, findings', rfl, rfl, each⟩ := twins
  have shown {view : Finding → Option String} := @view_eq_of_twins link String view _ _ each
  refine ⟨shown ?_, shown ?_, shown ?_, shown ?_, shown ?_⟩ <;>
  · intro finding finding' twin
    cases twin <;> rfl

theorem Twin.mismatches (twins : journal.Twin link other) :
    List.Forall₂ (Node.Counterparts link) journal.mismatches other.mismatches := by
  obtain ⟨findings, findings', rfl, rfl, each⟩ := twins
  apply List.rel_filterMap _ each
  intro finding finding' twin
  cases twin with
  | mismatch construct expected actual sites => exact .some sites
  | _ => exact .none

end Journal

namespace SymbolTable

variable {table other : SymbolTable}

theorem twin_empty : Twin link .empty .empty := ⟨.nil, rfl, [], [], rfl, rfl, .nil⟩

section Looking

theorem lookup_unplaced_of_twins {entries others : List (String × Symbol)}
    (twins : List.Forall₂ (fun entry entry' => entry.1 = entry'.1 ∧ entry.2.Twin link entry'.2)
      entries others) (name : String) :
    (entries.lookup name).map Symbol.unplaced = (others.lookup name).map Symbol.unplaced := by
  induction twins with
  | nil => rfl
  | @cons entry entry' _ _ twin _ ih =>
      obtain ⟨key, symbol⟩ := entry
      obtain ⟨key', symbol'⟩ := entry'
      obtain ⟨rfl, twin⟩ : key = key' ∧ symbol.Twin link symbol' := twin
      rw [List.lookup_cons, List.lookup_cons]
      cases name == key with
      | true => exact congrArg some twin.same
      | false => exact ih

variable (twins : Twin link table other)

include twins

theorem Twin.alike : table.env.Alike other.env where
  lookup := lookup_unplaced_of_twins twins.symbols
  fields name := by rw [twins.registry]

theorem Twin.errors_eq (phase : Phase) : phase.errors table = phase.errors other := by
  obtain ⟨redeclared, unresolved, sensorWrites, streamWrites, readOnlyWrites⟩ :=
    twins.journal.lists_eq
  have mismatches := twins.journal.mismatches.length_eq
  cases phase <;>
    simp only [Phase.errors, redeclared, unresolved, sensorWrites, streamWrites, readOnlyWrites,
      mismatches]

end Looking

section Entering

variable (twins : Twin link table other)

include twins

theorem Twin.reportAll {recorded recorded' : List Finding}
    (each : List.Forall₂ (Finding.Twin link) recorded recorded') :
    Twin link (table.reportAll recorded) (other.reportAll recorded') :=
  ⟨twins.symbols, twins.registry, twins.journal.reportAll each⟩

theorem Twin.report {finding finding' : Finding} (twin : Finding.Twin link finding finding') :
    Twin link (table.report finding) (other.report finding') :=
  twins.reportAll (.cons twin .nil)

theorem Twin.declare {symbol symbol' : Symbol} (twin : symbol.Twin link symbol')
    (fresh : table.env.symbols.contains symbol.name = false) :
    Twin link (table.declare symbol) (other.declare symbol') := by
  have named : symbol.name = symbol'.name := by
    have same : symbol.unplaced.name = symbol'.unplaced.name := by rw [twin.same]
    exact same
  have freshToo : other.env.symbols.contains symbol'.name = false := by
    rw [← named, ← twins.alike.contains]
    exact fresh
  refine ⟨?_, twins.registry, twins.journal⟩
  simp only [SymbolTable.declare, Environment.declare, OrderedMap.insertNew, fresh, freshToo]
  rw [if_neg (by decide), if_neg (by decide), OrderedMap.entries_insert_of_new fresh,
    OrderedMap.entries_insert_of_new freshToo]
  exact List.rel_append twins.symbols (.cons ⟨named, twin⟩ .nil)

theorem Twin.enter {declaration declaration' : Declaration}
    (twin : Declaration.Twin link declaration declaration') (policy : RedefinitionPolicy) :
    Twin link (table.enter policy declaration) (other.enter policy declaration') := by
  cases twin with
  | @symbol symbol symbol' twin =>
      have named : symbol.name = symbol'.name := by
        have same : symbol.unplaced.name = symbol'.unplaced.name := by rw [twin.same]
        exact same
      rw [SymbolTable.enter, SymbolTable.enter, ← named, ← twins.alike.contains]
      cases known : table.env.symbols.contains symbol.name with
      | true => exact twins.report (.redeclared _ twin.sites)
      | false => exact twins.declare twin known
  | repeatedField record field sites => exact twins.report (.redeclared _ sites)
  | record name fields sites =>
      rw [SymbolTable.enter, SymbolTable.enter, ← twins.registry]
      cases table.env.registry.verdict name (policy = .replace) with
      | refused => exact twins.report (.redeclared _ sites)
      | added | replaced =>
          refine ⟨twins.symbols, ?_, twins.journal⟩
          simp only [Environment.defineRecord, twins.registry]

theorem Twin.enterAll {declarations declarations' : List Declaration}
    (each : List.Forall₂ (Declaration.Twin link) declarations declarations')
    (policy : RedefinitionPolicy) :
    Twin link (table.enterAll policy declarations) (other.enterAll policy declarations') := by
  induction each generalizing table other with
  | nil => exact twins
  | cons twin _ ih => exact ih (twins.enter twin policy)

end Entering

end SymbolTable

theorem Entry.findings_twin {entries others : List Entry}
    (twins : List.Forall₂ (Entry.Twin link) entries others) :
    List.Forall₂ (Finding.Twin link) (findings entries) (findings others) := by
  apply List.rel_filterMap _ twins
  intro entry entry' twin
  cases twin with
  | note record => exact .none
  | report twin => exact .some twin

section Phases

variable {program program' : Node} (twin : Node.Twin link program program')
  {table other : SymbolTable} (twins : table.Twin link other) (policy : RedefinitionPolicy)

include twin twins

theorem Phase.work_twin {phase : Phase} (blind : phase ≠ .access) :
    (phase.work policy program table).outcome = (phase.work policy program' other).outcome ∧
      (phase.work policy program table).table.Twin link
        (phase.work policy program' other).table := by
  cases phase with
  | build =>
      have parallel := Declarations.ofProgram_parallel twin
      refine ⟨?_, twins.enterAll parallel.emitted policy⟩
      simp only [work, declare, parallel.outcome]
  | resolve =>
      have parallel := References.check_parallel twin table.env
      rw [twins.alike.references_check program'] at parallel
      exact ⟨parallel.outcome, twins.reportAll (Entry.findings_twin parallel.emitted)⟩
  | types =>
      have parallel := Typing.check_parallel twin table.env
      rw [twins.alike.typing_check program'] at parallel
      exact ⟨parallel.outcome, twins.reportAll (Entry.findings_twin parallel.emitted)⟩
  | access => exact absurd rfl blind

end Phases

namespace Analyzer

/-- How two analyses come through the phases at the front together. -/
inductive Together (link : Node → Node → Prop) (policy : RedefinitionPolicy)
    (program program' : Node) (front rest : List Phase) (table other : SymbolTable) : Prop
  | failed (fault : Fault)
      (ended : (runPhases policy program (front ++ rest) table).outcome = .error fault)
      (ended' : (runPhases policy program' (front ++ rest) other).outcome = .error fault)
  | stopped {final final' : SymbolTable} (twins : final.Twin link final')
      (ended : (runPhases policy program (front ++ rest) table).outcome = .ok final)
      (ended' : (runPhases policy program' (front ++ rest) other).outcome = .ok final')
      (early : ∀ stage ∈ stages policy program (front ++ rest) table, stage.phase ∈ front)
  | passed {middle middle' : SymbolTable} (twins : middle.Twin link middle')
      (clean : middle.Clean)
      (ended : (runPhases policy program (front ++ rest) table).outcome =
        (runPhases policy program rest middle).outcome)
      (ended' : (runPhases policy program' (front ++ rest) other).outcome =
        (runPhases policy program' rest middle').outcome)

/-- Phases that do not look at parentheses end both analyses by the same fault, stop both with twin
tables, or hand twin tables on to the phases after them. -/
theorem runPhases_together {program program' : Node} (twin : Node.Twin link program program')
    (policy : RedefinitionPolicy) {front : List Phase} (blind : ∀ phase ∈ front, phase ≠ .access)
    (rest : List Phase) {table other : SymbolTable} (twins : table.Twin link other)
    (clean : table.Clean) :
    Together link policy program program' front rest table other := by
  induction front generalizing table other with
  | nil => exact .passed twins clean rfl rfl
  | cons phase front ih =>
      obtain ⟨outcome, tables⟩ := Phase.work_twin twin twins policy (blind phase (by simp))
      have step := outcome_runPhases_cons policy program phase (front ++ rest) table
      have step' := outcome_runPhases_cons policy program' phase (front ++ rest) other
      rw [← outcome, ← tables.errors_eq] at step'
      cases worked : (phase.work policy program table).outcome with
      | error fault =>
          rw [worked] at step step'
          exact .failed fault step step'
      | ok done =>
          rw [worked] at step step'
          dsimp only at step step'
          have only := @work_onlyFrom policy program table clean phase
          by_cases silent : (phase.work policy program table).table.Clean
          · have none := (Phase.errors_eq_zero_iff only).mpr silent
            rw [if_pos none] at step step'
            cases ih (fun later member => blind later (by simp [member])) tables silent with
            | failed fault ended ended' =>
                exact .failed fault (step.trans ended) (step'.trans ended')
            | stopped twins ended ended' early =>
                refine .stopped twins (step.trans ended) (step'.trans ended') ?_
                rw [List.cons_append, stages_silent silent, List.forall_mem_cons]
                exact ⟨by simp, fun stage member => List.mem_cons_of_mem _ (early stage member)⟩
            | passed twins clean ended ended' =>
                exact .passed twins clean (step.trans ended) (step'.trans ended')
          · have some : phase.errors (phase.work policy program table).table ≠ 0 :=
              fun none => silent ((Phase.errors_eq_zero_iff only).mp none)
            rw [if_neg some] at step step'
            refine .stopped tables step step' ?_
            rw [List.cons_append, stages_blocked clean silent, List.forall_mem_singleton]
            exact List.mem_cons_self

end Analyzer

end SwarmCheck
