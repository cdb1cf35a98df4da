import SwarmCheck.Proofs.Safety
import SwarmCheck.Proofs.Rules
import SwarmCheck.Proofs.Sorts

/-!
# The build phase against what a program declares

A well-sorted program whose types are known is walked to the end, and what the walk lists is what
can be read off the items: the variables in order, and each record type with its fields. Entering
the list into an empty table leaves no finding exactly when the names are distinct, and then the
table holds what the program declares and nothing else.
-/

namespace SwarmCheck

set_option autoImplicit false

namespace OrderedMap

variable {α : Type}

theorem contains_insert (map : OrderedMap α) (key : String) (value : α) (name : String) :
    (map.insert key value).contains name = (decide (name = key) || map.contains name) := by
  rw [contains, get?_insert, contains]
  split <;> simp_all

@[simp] theorem contains_empty (name : String) :
    (empty : OrderedMap α).contains name = false := rfl

def Fresh (map : OrderedMap α) (names : List String) : Prop :=
  names.Nodup ∧ ∀ name ∈ names, map.contains name = false

theorem fresh_nil (map : OrderedMap α) : map.Fresh [] := by simp [Fresh]

theorem fresh_empty (names : List String) :
    (empty : OrderedMap α).Fresh names ↔ names.Nodup := by simp [Fresh]

theorem fresh_cons (map : OrderedMap α) (name : String) (value : α) (names : List String) :
    map.Fresh (name :: names) ↔
      map.contains name = false ∧ (map.insert name value).Fresh names := by
  simp only [Fresh, List.nodup_cons, List.forall_mem_cons, contains_insert, Bool.or_eq_false_iff,
    decide_eq_false_iff_not]
  constructor
  · rintro ⟨⟨absent, distinct⟩, new, others⟩
    refine ⟨new, distinct, fun other member => ⟨?_, others other member⟩⟩
    rintro rfl
    exact absent member
  · rintro ⟨new, distinct, others⟩
    exact ⟨⟨fun member => (others name member).1 rfl, distinct⟩, new,
      fun other member => (others other member).2⟩

def insertAll (map : OrderedMap α) (entries : List (String × α)) : OrderedMap α :=
  entries.foldl (fun map entry => map.insert entry.1 entry.2) map

end OrderedMap

namespace Declaration

def symbol? : Declaration → Option Symbol
  | symbol declared => some declared
  | _ => none

def record? : Declaration → Option (String × Fields)
  | record name fields _ => some (name, fields)
  | _ => none

def isRepeated : Declaration → Bool
  | repeatedField .. => true
  | _ => false

end Declaration

namespace SymbolTable

open Declaration

section Enter

variable {policy : RedefinitionPolicy} {table : SymbolTable}

theorem enter_symbol_of_new {symbol : Symbol}
    (new : table.env.symbols.contains symbol.name = false) :
    table.enter policy (.symbol symbol) =
      { table with env := { table.env with
          symbols := table.env.symbols.insert symbol.name symbol } } := by
  simp [enter, new, declare, Environment.declare, OrderedMap.insertNew]

theorem enter_record_of_free {name : String} {fields : Fields} {site : Node}
    (free : policy = .reject → table.env.registry.isDefined name = false) :
    table.enter policy (.record name fields site) =
      { table with env := { table.env with
          registry := ⟨table.env.registry.records.insert name fields⟩ } } := by
  cases policy with
  | replace =>
      cases defined : table.env.registry.isDefined name <;>
        simp [enter, Registry.verdict, defined, Environment.defineRecord, Registry.define]
  | reject =>
      have defined := free rfl
      simp [enter, Registry.verdict, defined, Environment.defineRecord, Registry.define]

theorem enter_symbol_of_taken {symbol : Symbol}
    (taken : table.env.symbols.contains symbol.name = true) :
    ¬ (table.enter policy (.symbol symbol)).Clean := by
  rw [enter, if_pos taken]
  exact table.not_clean_report _

theorem enter_record_of_taken {name : String} {fields : Fields} {site : Node}
    (rejects : policy = .reject) (taken : table.env.registry.isDefined name = true) :
    ¬ (table.enter policy (.record name fields site)).Clean := by
  have refused : table.env.registry.verdict name (policy = .replace) = .refused := by
    simp [rejects, Registry.verdict, taken]
  simp only [enter, refused]
  exact table.not_clean_report _

end Enter

theorem enterAll_cons (policy : RedefinitionPolicy) (table : SymbolTable)
    (declaration : Declaration) (rest : List Declaration) :
    table.enterAll policy (declaration :: rest) =
      (table.enter policy declaration).enterAll policy rest := rfl

theorem enterAll_concat (policy : RedefinitionPolicy) (table : SymbolTable)
    (declared : List Declaration) (last : Declaration) :
    table.enterAll policy (declared ++ [last]) =
      (table.enterAll policy declared).enter policy last := by
  rw [enterAll, List.foldl_append]
  rfl

/-- Findings are never taken back, so a quiet end means a quiet beginning. -/
theorem enter_quiet_of_enterAll {policy : RedefinitionPolicy} {table : SymbolTable}
    {declaration : Declaration} {rest : List Declaration}
    (quiet : (table.enterAll policy (declaration :: rest)).Clean) :
    (table.enter policy declaration).Clean := by
  obtain ⟨recorded, same, _⟩ := enterAll_extends policy (table.enter policy declaration) rest
  rw [enterAll_cons, same, Journal.clean_append_iff] at quiet
  exact quiet.1

/-- What can be entered into a table without a finding: no repeated field, variables with fresh
names, and under `reject` also records with fresh names. -/
structure Enterable (policy : RedefinitionPolicy) (env : Environment)
    (declarations : List Declaration) : Prop where
  fields : ∀ declaration ∈ declarations, declaration.isRepeated = false
  symbols : env.symbols.Fresh ((declarations.filterMap symbol?).map (·.name))
  records : policy = .reject →
    env.registry.records.Fresh ((declarations.filterMap record?).map (·.1))

section EnterAll

variable {policy : RedefinitionPolicy} {env : Environment} {rest : List Declaration}

theorem enterable_nil : Enterable policy env [] :=
  ⟨by simp, OrderedMap.fresh_nil _, fun _ => OrderedMap.fresh_nil _⟩

theorem enterable_symbol_cons {symbol : Symbol} :
    Enterable policy env (.symbol symbol :: rest) ↔
      env.symbols.contains symbol.name = false ∧
        Enterable policy { env with symbols := env.symbols.insert symbol.name symbol } rest := by
  have step := OrderedMap.fresh_cons env.symbols symbol.name symbol
    ((rest.filterMap symbol?).map (·.name))
  constructor
  · intro enterable
    obtain ⟨new, later⟩ := step.mp enterable.symbols
    exact ⟨new, fun other member => enterable.fields other (by simp [member]), later,
      enterable.records⟩
  · rintro ⟨new, enterable⟩
    refine ⟨?_, step.mpr ⟨new, enterable.symbols⟩, enterable.records⟩
    rw [List.forall_mem_cons]
    exact ⟨rfl, enterable.fields⟩

theorem enterable_record_cons {name : String} {fields : Fields} {site : Node} :
    Enterable policy env (.record name fields site :: rest) ↔
      (policy = .reject → env.registry.isDefined name = false) ∧
        Enterable policy
          { env with registry := ⟨env.registry.records.insert name fields⟩ } rest := by
  have step := OrderedMap.fresh_cons env.registry.records name fields
    ((rest.filterMap record?).map (·.1))
  constructor
  · intro enterable
    exact ⟨fun rejects => (step.mp (enterable.records rejects)).1,
      fun other member => enterable.fields other (by simp [member]), enterable.symbols,
      fun rejects => (step.mp (enterable.records rejects)).2⟩
  · rintro ⟨free, enterable⟩
    refine ⟨?_, enterable.symbols,
      fun rejects => step.mpr ⟨free rejects, enterable.records rejects⟩⟩
    rw [List.forall_mem_cons]
    exact ⟨rfl, enterable.fields⟩

/-- The environment that a list of declarations leads to if none of them is turned down. -/
def extended (env : Environment) (declarations : List Declaration) : Environment where
  symbols := env.symbols.insertAll
    ((declarations.filterMap symbol?).map fun symbol => (symbol.name, symbol))
  registry := ⟨env.registry.records.insertAll (declarations.filterMap record?)⟩

/-- Entering declarations leaves no finding exactly when they can be entered, and then all of
them are. -/
theorem enterAll_spec (declarations : List Declaration) {table : SymbolTable}
    (clean : table.Clean) :
    ((table.enterAll policy declarations).Clean ↔ Enterable policy table.env declarations) ∧
      (Enterable policy table.env declarations →
        table.enterAll policy declarations = ⟨.empty, extended table.env declarations⟩) := by
  induction declarations generalizing table with
  | nil =>
      refine ⟨⟨fun _ => enterable_nil, fun _ => clean⟩, fun _ => ?_⟩
      obtain ⟨journal, env⟩ := table
      have nothing : journal = .empty := clean
      rw [nothing]
      rfl
  | cons declaration rest ih =>
      cases declaration with
      | symbol symbol =>
          rw [enterable_symbol_cons]
          cases taken : table.env.symbols.contains symbol.name with
          | true =>
              refine ⟨⟨fun quiet => ?_, fun enterable => by cases enterable.1⟩,
                fun enterable => by cases enterable.1⟩
              exact absurd (enter_quiet_of_enterAll quiet) (enter_symbol_of_taken taken)
          | false =>
              rw [enterAll_cons, enter_symbol_of_new taken]
              have later := @ih ⟨table.toJournal, ⟨table.env.symbols.insert symbol.name symbol,
                table.env.registry⟩⟩ clean
              exact ⟨later.1.trans ⟨fun enterable => ⟨rfl, enterable⟩, fun holds => holds.2⟩,
                fun holds => later.2 holds.2⟩
      | repeatedField record field site =>
          have refused : ¬ Enterable policy table.env
              (.repeatedField record field site :: rest) := by
            intro enterable
            have fresh := enterable.fields (.repeatedField record field site) (by simp)
            cases fresh
          refine ⟨⟨fun quiet => ?_, fun enterable => absurd enterable refused⟩,
            fun enterable => absurd enterable refused⟩
          exact absurd (enter_quiet_of_enterAll quiet) (table.not_clean_report _)
      | record name fields site =>
          rw [enterable_record_cons]
          by_cases free : policy = .reject → table.env.registry.isDefined name = false
          · rw [enterAll_cons, enter_record_of_free free]
            have later := @ih ⟨table.toJournal, ⟨table.env.symbols,
              ⟨table.env.registry.records.insert name fields⟩⟩⟩ clean
            exact ⟨later.1.trans ⟨fun enterable => ⟨free, enterable⟩, fun holds => holds.2⟩,
              fun holds => later.2 holds.2⟩
          · refine ⟨⟨fun quiet => ?_, fun enterable => absurd enterable.1 free⟩,
              fun enterable => absurd enterable.1 free⟩
            simp only [Classical.not_imp, Bool.not_eq_false] at free
            exact absurd (enter_quiet_of_enterAll quiet) (enter_record_of_taken free.1 free.2)

end EnterAll

end SymbolTable

namespace Declarations

open Trail Rules Declaration

/-- A walk that returns the fields it was given, having listed variables and records. A field is
repeated exactly when the names of some record's fields are not distinct, and otherwise each
record is listed with all of its fields. -/
structure Lists (walk : Collect Fields) (fields : Fields) (symbols : List Symbol)
    (records : List (String × List (String × Ty))) : Prop where
  outcome : walk.outcome = .ok fields
  symbols : walk.emitted.filterMap symbol? = symbols
  repeated : (∀ declaration ∈ walk.emitted, declaration.isRepeated = false) ↔
    ∀ record ∈ records, (record.2.map (·.1)).Nodup
  records : (∀ record ∈ records, (record.2.map (·.1)).Nodup) →
    walk.emitted.filterMap record? = records.map fun record => (record.1, .ofList record.2)

theorem lists_pure (fields : Fields) : Lists (pure fields) fields [] [] :=
  ⟨rfl, rfl, by simp, by simp⟩

theorem Lists.bind {first : Collect Fields} {next : Fields → Collect Fields}
    {between after : Fields} {symbols laterSymbols : List Symbol}
    {records laterRecords : List (String × List (String × Ty))}
    (firstLists : Lists first between symbols records)
    (nextLists : Lists (next between) after laterSymbols laterRecords) :
    Lists (first >>= next) after (symbols ++ laterSymbols) (records ++ laterRecords) := by
  constructor
  · rw [outcome_bind_of_ok firstLists.outcome]
    exact nextLists.outcome
  · rw [emitted_bind_of_ok firstLists.outcome, List.filterMap_append, firstLists.symbols,
      nextLists.symbols]
  · rw [emitted_bind_of_ok firstLists.outcome, List.forall_mem_append, firstLists.repeated,
      nextLists.repeated, List.forall_mem_append]
  · rw [List.forall_mem_append]
    rintro ⟨distinct, laterDistinct⟩
    rw [emitted_bind_of_ok firstLists.outcome, List.filterMap_append,
      firstLists.records distinct, nextLists.records laterDistinct, List.map_append]

section Walks

variable {context : Context} {nodes : List Node}
  {symbolsOf : Node → List Symbol} {recordsOf : Node → List (String × List (String × Ty))}

theorem collectAll_lists (present : ∀ node ∈ nodes, node.isBlank = false)
    (each : ∀ node ∈ nodes, ∀ fields,
      Lists (collect context fields node) fields (symbolsOf node) (recordsOf node))
    (fields : Fields) :
    Lists (collectAll context fields nodes) fields (nodes.flatMap symbolsOf)
      (nodes.flatMap recordsOf) := by
  induction nodes with
  | nil => exact lists_pure fields
  | cons node rest ih =>
      have shown := present node (by simp)
      have later := ih (fun other member => present other (by simp [member]))
        (fun other member => each other (by simp [member]))
      rw [collectAll, shown]
      exact (each node (by simp) fields).bind later

/-- The two walks over a list differ only in what they do at a blank. -/
theorem collectIn_eq_collectAll (present : ∀ node ∈ nodes, node.isBlank = false)
    (fields : Fields) : collectIn context fields nodes = collectAll context fields nodes := by
  induction nodes generalizing fields with
  | nil => rfl
  | cons node rest ih =>
      have shown := present node (by simp)
      have later := ih fun other member => present other (by simp [member])
      simp only [collectIn, collectAll, shown, Bool.false_eq_true, if_false, later]

end Walks

section Silent

variable {context : Context} {fields : Fields} {node : Node}

theorem collectIn_silent {nodes : List Node}
    (each : ∀ node ∈ nodes, collect context fields node = pure fields) :
    collectIn context fields nodes = pure fields := by
  induction nodes with
  | nil => rfl
  | cons node rest ih =>
      have later := ih fun other member => each other (by simp [member])
      rw [collectIn, each node (by simp), ite_self, pure_bind]
      exact later

theorem collect_expression (sorted : Expression node) :
    collect context fields node = pure fields := by
  induction sorted with
  | constant kind text position parenthesised => rw [collect]
  | stringLiteral value position => rw [collect]
  | reference name position => rw [collect, collect]
  | element name position sortedIndex ih =>
      rw [collect]
      exact ih
  | call name position sortedArgs ih =>
      rw [collect]
      exact collectIn_silent ih
  | binary op position sortedLeft sortedRight leftIh rightIh =>
      rw [collect, leftIh, pure_bind, rightIh]
  | logical op position sortedOperands ih =>
      rw [collect]
      exact collectIn_silent ih
  | flag name position => rw [collect]

theorem collect_optional (sorted : OptionalExpression node) :
    collect context fields node = pure fields := by
  rcases sorted with empty | sorted
  · rw [empty, collect]
  · exact collect_expression sorted

theorem collect_statement (sorted : Statement node) :
    collect context fields node = pure fields := by
  induction sorted with
  | call name position sortedArgs => exact collect_expression (.call name position sortedArgs)
  | assign target position sortedIndex sortedValue =>
      rw [collect, collect_optional sortedIndex, pure_bind, collect_expression sortedValue]
  | stream channel position => rw [collect]
  | conditional position sortedCondition sortedThen sortedElse thenIh elseIh =>
      rw [collect, collect_expression sortedCondition, pure_bind, collectIn_silent thenIh,
        pure_bind, collectIn_silent elseIh]

end Silent

section Variables

variable {context : Context} {scope : Scope} {node : Node}

theorem collect_decl_lists (outside : context.record = none)
    (within : context.scope = some scope) (sorted : VariableDecl node) (known : node.TypeKnown)
    (fields : Fields) :
    Lists (collect context fields node) fields (declVariables context.block scope node) [] := by
  cases sorted with
  | decl name typeName isRecord dims position sortedInitial =>
      obtain ⟨type, declared⟩ := known
      have named := namedType_of_declaredType declared
      subst named
      simp only [collect, collectDecl, declared, outside, within, qualifiedName_eq_fullName]
      exact ⟨rfl, rfl, by simp [isRepeated], fun _ => rfl⟩

theorem collect_group_lists (outside : context.record = none) (sorted : DeclGroup node)
    (known : ∀ inner ∈ node.preorder, inner.TypeKnown) (fields : Fields) :
    Lists (collect context fields node) fields (groupVariables context.block node) [] := by
  cases sorted with
  | @group kind decls position sortedDecls =>
      rw [Node.preorder, List.forall_mem_cons] at known
      have present := fun entry member => (sortedDecls entry member).not_blank
      have each : ∀ entry ∈ decls, ∀ fields,
          Lists (collect { context with scope := some (groupScope kind) } fields entry) fields
            (declVariables context.block (groupScope kind) entry) [] :=
        fun entry member => collect_decl_lists outside rfl (sortedDecls entry member)
          (known.2 entry (Node.mem_preorderIn member (present entry member)))
      have lists := collectAll_lists present each fields
      rw [List.flatMap_eq_nil_iff.mpr fun _ _ => rfl] at lists
      rw [collect, ofGroup_eq_groupScope]
      exact lists

end Variables

section Fields

variable {context : Context} {fields : Fields} {record field typeName : String} {isRecord : Bool}
  {dims : Int} {initial : Node} {position : Option Position} {type : Ty}

theorem collect_field_of_new (within : context.record = some record)
    (declared : declaredType typeName isRecord dims = .ok type)
    (new : fields.contains field = false) :
    collect context fields (.decl field typeName isRecord dims initial position) =
      pure (fields.insert field type) := by
  simp [collect, collectDecl, declared, within, new]

theorem collect_field_of_taken (within : context.record = some record)
    (declared : declaredType typeName isRecord dims = .ok type)
    (taken : fields.contains field = true) :
    collect context fields (.decl field typeName isRecord dims initial position) = (do
      emit [.repeatedField record field (.decl field typeName isRecord dims initial position)]
      return fields) := by
  simp [collect, collectDecl, declared, within, taken]

/-- A walk over the fields of a record: a name that is there already is reported, and if there is
none such, all fields are added. -/
structure Gathers (walk : Collect Fields) (fields : Fields) (entries : List (String × Ty)) :
    Prop where
  repeats : ∀ declaration ∈ walk.emitted, declaration.isRepeated = true
  quiet : walk.emitted = [] ↔ fields.Fresh (entries.map (·.1))
  returns : ∃ result, walk.outcome = .ok result
  adds : fields.Fresh (entries.map (·.1)) → walk.outcome = .ok (fields.insertAll entries)

theorem collectAll_gathers {decls : List Node} (within : context.record = some record)
    (sorted : ∀ entry ∈ decls, VariableDecl entry)
    (known : ∀ entry ∈ decls, entry.TypeKnown) (fields : Fields) :
    Gathers (collectAll context fields decls) fields (decls.flatMap declFields) := by
  induction decls generalizing fields with
  | nil =>
      exact ⟨by simp [collectAll], by simp [collectAll, OrderedMap.fresh_nil], ⟨fields, rfl⟩,
        fun _ => rfl⟩
  | cons decl rest ih =>
      have later := ih (fun other member => sorted other (by simp [member]))
        (fun other member => known other (by simp [member]))
      have knownDecl := known decl (by simp)
      have shown := (sorted decl (by simp)).not_blank
      cases sorted decl (by simp) with
      | @decl field typeName isRecord dims initial position sortedInitial =>
          obtain ⟨type, declared⟩ := knownDecl
          have named := namedType_of_declaredType declared
          subst named
          rw [collectAll, shown]
          have step := OrderedMap.fresh_cons fields field (namedType typeName isRecord dims)
            ((rest.flatMap declFields).map (·.1))
          cases taken : fields.contains field with
          | false =>
              rw [collect_field_of_new within declared taken]
              have gathers := later (fields.insert field (namedType typeName isRecord dims))
              refine ⟨gathers.repeats, gathers.quiet.trans ?_, gathers.returns, ?_⟩
              · exact ⟨fun fresh => step.mpr ⟨taken, fresh⟩, fun fresh => (step.mp fresh).2⟩
              · exact fun fresh => gathers.adds (step.mp fresh).2
          | true =>
              have stale : ¬ fields.Fresh (field :: (rest.flatMap declFields).map (·.1)) := by
                intro fresh
                have new := (step.mp fresh).1
                rw [taken] at new
                cases new
              rw [collect_field_of_taken within declared taken]
              have gathers := later fields
              refine ⟨?_, ?_, gathers.returns, fun fresh => absurd fresh stale⟩
              · exact List.forall_mem_cons.mpr ⟨rfl, gathers.repeats⟩
              · exact ⟨fun silent => (List.cons_ne_nil _ _ silent).elim,
                  fun fresh => absurd fresh stale⟩

theorem Gathers.symbols {walk : Collect Fields} {entries : List (String × Ty)}
    (gathers : Gathers walk fields entries) : walk.emitted.filterMap symbol? = [] := by
  rw [List.filterMap_eq_nil_iff]
  intro declaration member
  have repeats := gathers.repeats declaration member
  cases declaration with
  | symbol symbol => cases repeats
  | repeatedField record field site => rfl
  | record name fields site => rfl

theorem Gathers.repeated {walk : Collect Fields} {entries : List (String × Ty)}
    (gathers : Gathers walk fields entries) :
    (∀ declaration ∈ walk.emitted, declaration.isRepeated = false) ↔
      fields.Fresh (entries.map (·.1)) := by
  rw [← gathers.quiet, List.eq_nil_iff_forall_not_mem]
  constructor
  · intro new declaration member
    have repeats := gathers.repeats declaration member
    rw [new declaration member] at repeats
    cases repeats
  · intro silent declaration member
    exact absurd member (silent declaration)

/-- A record is listed after its repeated fields, with the fields that its names allow. -/
theorem collect_record_lists {name : String} {decls : List Node}
    (sorted : ∀ entry ∈ decls, VariableDecl entry)
    (known : ∀ entry ∈ decls, entry.TypeKnown) (fields : Fields) :
    Lists (collect context fields (.record name decls position)) fields []
      [(name, decls.flatMap declFields)] := by
  have gathers : Gathers (collectAll { context with record := some name } .empty decls) .empty
      (decls.flatMap declFields) := collectAll_gathers rfl sorted known .empty
  have distinct := @OrderedMap.fresh_empty Ty ((decls.flatMap declFields).map (·.1))
  obtain ⟨own, returned⟩ := gathers.returns
  rw [collect]
  constructor
  · rw [outcome_bind_of_ok returned]
    rfl
  · rw [emitted_bind_of_ok returned, List.filterMap_append, gathers.symbols]
    rfl
  · rw [emitted_bind_of_ok returned, List.forall_mem_append, List.forall_mem_singleton,
      gathers.repeated, distinct]
    exact ⟨fun holds => holds.1, fun fresh => ⟨fresh, List.forall_mem_singleton.mpr rfl⟩⟩
  · rw [List.forall_mem_singleton, ← distinct]
    intro fresh
    have added := gathers.adds fresh
    rw [returned] at added
    cases added
    rw [emitted_bind_of_ok returned, gathers.quiet.mpr fresh]
    rfl

end Fields

theorem collect_item_lists {item : Node} (sorted : TopItem item)
    (known : ∀ inner ∈ item.preorder, inner.TypeKnown) (fields : Fields) :
    Lists (collect {} fields item) fields (itemVariables item) (itemRecords item) := by
  cases sorted with
  | group sortedGroup =>
      have lists : Lists (collect {} fields item) fields (groupVariables none item) [] :=
        collect_group_lists rfl sortedGroup known fields
      cases sortedGroup
      exact lists
  | @moduleBlock name groups position sortedGroups =>
      simp only [Node.preorder, List.forall_mem_cons, Node.forall_mem_preorderIn] at known
      have present := fun entry member => (sortedGroups entry member).not_blank
      have each : ∀ entry ∈ groups, ∀ fields,
          Lists (collect { block := some name } fields entry) fields
            (groupVariables (some name) entry) [] :=
        fun entry member => collect_group_lists rfl (sortedGroups entry member)
          (known.2 entry member (present entry member))
      have lists := collectAll_lists present each fields
      rw [List.flatMap_eq_nil_iff.mpr fun _ _ => rfl] at lists
      rw [collect]
      exact lists
  | record name position sortedFields =>
      rw [Node.preorder, List.forall_mem_cons] at known
      apply collect_record_lists sortedFields
      intro entry member
      exact known.2 entry (Node.mem_preorderIn member (sortedFields entry member).not_blank)
  | event name position sortedPrecondition sortedEffects =>
      rw [collect, collect_optional sortedPrecondition, pure_bind,
        collectIn_silent fun effect member => collect_statement (sortedEffects effect member)]
      exact lists_pure fields

/-- The walk over a well-sorted program whose types are known comes to its end and lists what can
be read off the program. -/
theorem ofProgram_lists {program : Node} (sorted : WellSorted program)
    (known : ∀ inner ∈ program.preorder, inner.TypeKnown) :
    Lists (ofProgram program) .empty (programVariables program) (programRecords program) := by
  cases sorted with
  | program name position sortedItems =>
      simp only [Node.preorder, List.forall_mem_cons, Node.forall_mem_preorderIn] at known
      have present := fun item member => (sortedItems item member).not_blank
      have each := fun item member => collect_item_lists (sortedItems item member)
        (known.2 item member (present item member))
      simp only [ofProgram, Node.isBlank, Bool.false_eq_true, if_false, collect]
      rw [collectIn_eq_collectAll present]
      exact collectAll_lists present each .empty

section Entering

variable {policy : RedefinitionPolicy} {program : Node} {walk : Collect Fields} {fields : Fields}

theorem Lists.enterable_iff
    (lists : Lists walk fields (programVariables program) (programRecords program)) :
    SymbolTable.Enterable policy SymbolTable.empty.env walk.emitted ↔
      NamesDistinct policy program := by
  have names (distinct : ∀ record ∈ programRecords program, (record.2.map (·.1)).Nodup) :
      (walk.emitted.filterMap record?).map (·.1) = (programRecords program).map (·.1) := by
    rw [lists.records distinct, List.map_map]
    rfl
  constructor
  · intro enterable
    have distinct := lists.repeated.mp enterable.fields
    refine ⟨?_, distinct, fun rejects => ?_⟩
    · rw [← lists.symbols]
      exact enterable.symbols.1
    · rw [← names distinct]
      exact (enterable.records rejects).1
  · intro distinct
    refine ⟨lists.repeated.mpr distinct.fieldNames, ?_, fun rejects => ?_⟩
    · rw [lists.symbols]
      exact (OrderedMap.fresh_empty _).mpr distinct.variableNames
    · rw [names distinct.fieldNames]
      exact (OrderedMap.fresh_empty _).mpr (distinct.recordNames rejects)

theorem Lists.extended_eq
    (lists : Lists walk fields (programVariables program) (programRecords program))
    (distinct : ∀ record ∈ programRecords program, (record.2.map (·.1)).Nodup) :
    SymbolTable.extended SymbolTable.empty.env walk.emitted = environment program := by
  rw [SymbolTable.extended, lists.symbols, lists.records distinct]
  rfl

end Entering

end Declarations

namespace Phase

open Rules

variable {policy : RedefinitionPolicy} {program : Node}

/-- On an empty table the build phase returns. It reports nothing exactly when the names are
distinct, and then the table holds what the program declares. -/
theorem build_spec (sorted : WellSorted program)
    (known : ∀ inner ∈ program.preorder, inner.TypeKnown) :
    (build.work policy program .empty).outcome = .ok () ∧
      ((build.work policy program .empty).table.Clean ↔ NamesDistinct policy program) ∧
      (NamesDistinct policy program →
        (build.work policy program .empty).table = ⟨.empty, environment program⟩) := by
  have lists := Declarations.ofProgram_lists sorted known
  obtain ⟨quiet, entered⟩ := @SymbolTable.enterAll_spec policy
    (Declarations.ofProgram program).emitted .empty rfl
  rw [lists.enterable_iff] at quiet entered
  refine ⟨?_, quiet, fun distinct => ?_⟩
  · simp [work, declare, lists.outcome, Except.map]
  · rw [work, declare, entered distinct, lists.extended_eq distinct.fieldNames]

end Phase

end SwarmCheck
