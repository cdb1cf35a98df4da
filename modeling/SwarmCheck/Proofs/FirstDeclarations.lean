import SwarmCheck.Proofs.DeclarationWalk
import SwarmCheck.Proofs.History

/-!
# The table of first declarations

Whatever the shape of a program, the table that the build phase makes of it can be read off the
spots that the walk meets. The first variable of a qualified name, the first field of a name in one
definition and the first complete definition of a record name are kept, and every other one is
reported where it stands.
-/

namespace SwarmCheck

set_option autoImplicit false

namespace Spot

def finding (spot : Spot) : Finding := .redeclared spot.label spot.node

theorem redeclared_ofFindings (spots : List Spot) :
    (Journal.ofFindings (spots.map finding)).redeclared = spots.map label :=
  List.filterMap_map.trans (congrFun List.filterMap_eq_map spots)

/-- Whether it is reported that the declaration at a spot comes too late. A definition of a record
is not, if it replaces the one before it. -/
def isReported (policy : RedefinitionPolicy) (spot : Spot) : Bool :=
  policy = .reject || spot.node.isDecl

def symbolsAmong (met : List Spot) : List (String × Symbol) :=
  (met.filterMap symbol?).map fun symbol => (symbol.name, symbol)

def recordsAmong (met : List Spot) : List (String × Fields) :=
  (met.filter (·.node.isRecord)).map fun record => (record.name, fieldsAmong met record)

/-- Spots as a walk that returns meets them: it meets nothing but declarations it can go on after
and record definitions, and a definition only after everything in it. -/
structure Orderly (met : List Spot) : Prop where
  sound : ∀ spot ∈ met, spot.Sound
  kind : ∀ spot ∈ met, spot.node.isRecord = !spot.node.isDecl
  order : met.Pairwise fun earlier later => ¬ earlier.address <:+ later.address

theorem Orderly.left {earlier later : List Spot} (orderly : Orderly (earlier ++ later)) :
    Orderly earlier where
  sound spot member := orderly.sound spot (List.mem_append_left later member)
  kind spot member := orderly.kind spot (List.mem_append_left later member)
  order := (List.pairwise_append.mp orderly.order).1

theorem kind_of_reached (spot : Spot) :
    ∀ inner ∈ spot.reached, inner.node.isRecord = !inner.node.isDecl := by
  induction spot using spot_induction with
  | step spot ih =>
      intro inner met
      cases declares : spot.node.isDecl with
      | true =>
          rw [reached_of_decl declares, List.mem_singleton] at met
          obtain ⟨_, _, _, _, _, _, here⟩ := Node.exists_of_isDecl declares
          rw [met, here]
          rfl
      | false =>
          rw [reached_of_not_decl declares, List.mem_append, List.mem_flatMap] at met
          rcases met with ⟨child, below, met⟩ | own
          · exact ih child below inner met
          · split at own
            · rename_i defines
              rw [List.mem_singleton.mp own, defines, declares]
              rfl
            · cases own

section Kinds

variable {spot : Spot} {earlier : List Spot}

theorem symbol?_of_not_variable (other : spot.isVariable = false) : spot.symbol? = none := by
  rw [symbol?, other, if_neg Bool.false_ne_true]

theorem symbol?_of_variable (sound : spot.Sound) (declares : spot.isVariable = true) :
    ∃ symbol, spot.symbol? = some symbol ∧ symbol.name = spot.fullName ∧
      symbol.definedAt = spot.node := by
  obtain ⟨isDecl, outside⟩ := isVariable_iff.mp declares
  obtain ⟨_, _, _, _, _, _, here⟩ := Node.exists_of_isDecl isDecl
  rw [Sound, here] at sound
  obtain ⟨scope, grouped⟩ := sound.2 outside
  exact ⟨_, by rw [symbol?, if_pos declares, grouped, Option.map_some], rfl, rfl⟩

theorem declarations_of_variable (declares : spot.isVariable = true) :
    spot.declarations earlier = (spot.symbol?.map Declaration.symbol).toList := by
  obtain ⟨isDecl, outside⟩ := isVariable_iff.mp declares
  rw [declarations, if_pos isDecl, outside]

theorem label_of_variable (declares : spot.isVariable = true) :
    spot.label = spot.fullName := by
  obtain ⟨isDecl, outside⟩ := isVariable_iff.mp declares
  rw [label, if_pos isDecl, outside]

theorem declarations_of_field {record : Spot} (declares : spot.node.isDecl = true)
    (around : spot.record? = some record) :
    spot.declarations earlier =
      if spot.key ∈ earlier.map key then [.repeatedField record.name spot.name spot.node]
      else [] := by
  rw [declarations, if_pos declares, around]

theorem label_of_field {record : Spot} (declares : spot.node.isDecl = true)
    (around : spot.record? = some record) : spot.label = record.name ++ "." ++ spot.name := by
  rw [label, if_pos declares, around]

theorem label_of_record (defines : spot.node.isDecl = false) : spot.label = spot.name := by
  rw [label, defines, if_neg Bool.false_ne_true]

theorem declarations_of_record (defines : spot.node.isDecl = false) :
    spot.declarations earlier = [.record spot.name (fieldsAmong earlier spot) spot.node] := by
  rw [declarations, defines, if_neg Bool.false_ne_true]

/-- A declaration declares a variable or a field; anything else that is met defines a record. -/
theorem variable_or_field_or_record (spot : Spot) :
    spot.isVariable = true ∨
      (spot.node.isDecl = true ∧ ∃ record, spot.record? = some record) ∨
      spot.node.isDecl = false := by
  rw [isVariable]
  cases spot.node.isDecl <;> cases spot.record? <;> simp

theorem isVariable_of_field {record : Spot} (around : spot.record? = some record) :
    spot.isVariable = false := by
  rw [isVariable, around, Option.isNone_some, Bool.and_false]

theorem isVariable_of_record (defines : spot.node.isDecl = false) :
    spot.isVariable = false := by
  rw [isVariable, defines, Bool.false_and]

end Kinds

open Declaration

variable {met : List Spot}

theorem symbolEntries_declarations (met : List Spot) :
    symbolEntries (flatMapAfter declarations [] met) = symbolsAmong met := by
  rw [symbolEntries, symbolsAmong, filterMap_flatMapAfter]
  intro earlier spot
  rcases variable_or_field_or_record spot with declares | ⟨declares, record, around⟩ | defines
  · rw [declarations_of_variable declares]
    cases spot.symbol? <;> rfl
  · rw [declarations_of_field declares around,
      symbol?_of_not_variable (isVariable_of_field around)]
    split <;> rfl
  · rw [declarations_of_record defines, symbol?_of_not_variable (isVariable_of_record defines)]
    rfl

/-- The fields of a definition do not change once it is complete. -/
theorem recordsAmong_concat {last : Spot} (orderly : Orderly (met ++ [last])) :
    recordsAmong (met ++ [last]) =
      recordsAmong met ++
        if last.node.isRecord then [(last.name, fieldsAmong met last)] else [] := by
  have before : ∀ record ∈ met, fieldsAmong (met ++ [last]) record = fieldsAmong met record := by
    intro record member
    apply fieldsAmong_append_of_none
    rw [List.forall_mem_singleton]
    exact fieldOf?_of_not_below
      ((List.pairwise_append.mp orderly.order).2.2 record member last (by simp))
  have kept : (met.filter (·.node.isRecord)).map
        (fun record => (record.name, fieldsAmong (met ++ [last]) record)) =
      recordsAmong met := by
    apply List.map_congr_left
    intro record member
    rw [before record (List.mem_filter.mp member).1]
  rw [recordsAmong, List.filter_append, List.map_append, kept]
  have kind := orderly.kind last (by simp)
  cases declares : last.node.isDecl with
  | true => simp [kind, declares]
  | false =>
      have own : fieldsAmong (met ++ [last]) last = fieldsAmong met last := by
        apply fieldsAmong_append_of_none
        simp [fieldOf?, declares]
      simp [kind, declares, own]

theorem recordEntries_declarations (orderly : Orderly met) :
    recordEntries (flatMapAfter declarations [] met) = recordsAmong met := by
  induction met using List.reverseRecOn with
  | nil => rfl
  | append_singleton met last ih =>
      rw [flatMapAfter_concat, recordEntries, List.filterMap_append, ← recordEntries,
        ih orderly.left, recordsAmong_concat orderly]
      congr 1
      have kind := orderly.kind last (by simp)
      rcases variable_or_field_or_record last with declares | ⟨declares, record, around⟩ | defines
      · rw [declarations_of_variable declares, kind, (isVariable_iff.mp declares).1]
        cases last.symbol? <;> rfl
      · rw [declarations_of_field declares around, kind, declares]
        split <;> rfl
      · rw [declarations_of_record defines, kind, defines]
        rfl

theorem mem_names_symbolsAmong (sound : ∀ spot ∈ met, spot.Sound) {name : String} :
    name ∈ (symbolsAmong met).map Prod.fst ↔ Key.symbol name ∈ met.map key := by
  simp only [symbolsAmong, List.mem_map, List.mem_filterMap, key_eq_symbol_iff]
  constructor
  · rintro ⟨_, ⟨symbol, ⟨spot, member, found⟩, rfl⟩, rfl⟩
    cases declares : spot.isVariable with
    | false =>
        rw [symbol?_of_not_variable declares] at found
        cases found
    | true =>
        obtain ⟨same, foundSame, named, _⟩ := symbol?_of_variable (sound spot member) declares
        rw [foundSame] at found
        cases found
        exact ⟨spot, member, declares, named.symm⟩
  · rintro ⟨spot, member, declares, rfl⟩
    obtain ⟨symbol, found, named, _⟩ := symbol?_of_variable (sound spot member) declares
    exact ⟨_, ⟨symbol, ⟨spot, member, found⟩, rfl⟩, named⟩

theorem mem_names_recordsAmong (kind : ∀ spot ∈ met, spot.node.isRecord = !spot.node.isDecl)
    {name : String} :
    name ∈ (recordsAmong met).map Prod.fst ↔ Key.record name ∈ met.map key := by
  simp only [recordsAmong, List.mem_map, List.mem_filter, key_eq_record_iff]
  constructor
  · rintro ⟨_, ⟨spot, ⟨member, defines⟩, rfl⟩, rfl⟩
    rw [kind spot member, Bool.not_eq_true'] at defines
    exact ⟨spot, member, defines, rfl⟩
  · rintro ⟨spot, member, defines, rfl⟩
    exact ⟨_, ⟨spot, ⟨member, by rw [kind spot member, defines]; rfl⟩, rfl⟩, rfl⟩

section Reports

theorem filter_isReported_reject (met : List Spot) : met.filter (isReported .reject) = met := by
  rw [List.filter_eq_self]
  intro _ _
  rfl

variable {policy : RedefinitionPolicy}

theorem reported_concat_of_late {declared : List Declaration} {declaration : Declaration}
    {spot : Spot} (late : declaration.clashes declared = true ↔ spot.key ∈ met.map key)
    (same : declaration.finding = spot.finding)
    (kind : declaration.isReported policy = spot.isReported policy) :
    ((clashing (declared ++ [declaration])).filter (Declaration.isReported policy)).map
        Declaration.finding =
      ((clashing declared).filter (Declaration.isReported policy)).map Declaration.finding ++
        ((if spot.key ∈ met.map key then [spot] else []).filter (isReported policy)).map
          finding := by
  rw [clashing_concat, List.filter_append, List.map_append]
  simp only [late]
  split
  · cases reported : spot.isReported policy <;>
      simp [kind, reported, same]
  · rfl

/-- What is reported is every spot that has the key of one met before it. -/
theorem reported_declarations (policy : RedefinitionPolicy) (orderly : Orderly met) :
    ((clashing (flatMapAfter declarations [] met)).filter (Declaration.isReported policy)).map
        Declaration.finding =
      ((repeats key met).filter (isReported policy)).map finding := by
  induction met using List.reverseRecOn with
  | nil => rfl
  | append_singleton met last ih =>
      rw [flatMapAfter_concat, repeats_concat, List.filter_append, List.map_append,
        ← ih orderly.left]
      -- Only repeated fields are listed at all; variables and records are told apart on entering.
      rcases variable_or_field_or_record last with
        declares | ⟨declares, record, around⟩ | defines
      · obtain ⟨symbol, found, named, site⟩ :=
          symbol?_of_variable (orderly.sound last (by simp)) declares
        have own : last.key = .symbol symbol.name := key_eq_symbol_iff.mpr ⟨declares, named.symm⟩
        rw [declarations_of_variable declares, found, Option.map_some, Option.toList_some]
        apply reported_concat_of_late
        · rw [own, ← mem_names_symbolsAmong orderly.left.sound, ← symbolEntries_declarations]
          exact decide_eq_true_iff
        · rw [Declaration.finding, Declaration.label, Declaration.site, finding,
            label_of_variable declares, named, site]
        · rw [isReported, (isVariable_iff.mp declares).1]
          rfl
      · rw [declarations_of_field declares around]
        by_cases repeated : last.key ∈ met.map key
        · rw [if_pos repeated]
          apply reported_concat_of_late
          · exact ⟨fun _ => repeated, fun _ => rfl⟩
          · rw [finding, label_of_field declares around]
            rfl
          · rw [isReported, declares]
            rfl
        · rw [if_neg repeated, if_neg repeated, List.append_nil, List.filter_nil, List.map_nil,
            List.append_nil]
      · have own : last.key = .record last.name := key_eq_record_iff.mpr ⟨defines, rfl⟩
        rw [declarations_of_record defines]
        apply reported_concat_of_late
        · rw [own, ← mem_names_recordsAmong orderly.left.kind,
            ← recordEntries_declarations orderly.left]
          exact decide_eq_true_iff
        · rw [Declaration.finding, Declaration.label, Declaration.site, finding,
            label_of_record defines]
        · rw [isReported, defines]
          rfl

theorem clashing_declarations (orderly : Orderly met) :
    (clashing (flatMapAfter declarations [] met)).map Declaration.finding =
      (repeats key met).map finding := by
  have reported := reported_declarations .reject orderly
  rw [filter_isReported_reject, Declaration.filter_isReported_reject] at reported
  exact reported

end Reports

theorem length_variables (sound : ∀ spot ∈ met, spot.Sound) :
    (met.filter isVariable).length =
      (OrderedMap.ofFirsts (symbolsAmong met)).size +
        ((repeats key met).filter isVariable).length := by
  induction met using List.reverseRecOn with
  | nil => rfl
  | append_singleton met last ih =>
      rw [List.forall_mem_append, List.forall_mem_singleton] at sound
      have counted := ih sound.1
      rw [repeats_concat, List.filter_append, List.filter_append, List.length_append,
        List.length_append]
      cases declares : last.isVariable with
      | false =>
          have same : symbolsAmong (met ++ [last]) = symbolsAmong met := by
            simp [symbolsAmong, symbol?_of_not_variable declares]
          rw [same]
          split <;> simp [declares, counted]
      | true =>
          obtain ⟨symbol, found, named, _⟩ := symbol?_of_variable sound.2 declares
          have grown : symbolsAmong (met ++ [last]) =
              symbolsAmong met ++ [(symbol.name, symbol)] := by
            simp [symbolsAmong, found]
          have own : last.key = .symbol symbol.name :=
            key_eq_symbol_iff.mpr ⟨declares, named.symm⟩
          rw [grown, OrderedMap.size, OrderedMap.entries_ofFirsts_concat, List.length_append,
            ← OrderedMap.size]
          simp only [OrderedMap.contains_ofFirsts, mem_names_symbolsAmong sound.1, own]
          split <;> simp [declares] <;> omega

end Spot

open Spot

theorem orderly_reached {program : Node} {result : Fields}
    (returned : (Declarations.ofProgram program).outcome = .ok result) :
    Orderly (root program).reached where
  sound := (Declarations.ofProgram_follows returned).sound
  kind := kind_of_reached (root program)
  order := reached_pairwise (root program)

namespace Phase

variable {policy : RedefinitionPolicy} {program : Node} {table : SymbolTable} {phase : Phase}
  {result : Result}

theorem build_returned (returned : (build.run policy program table).outcome = .ok result) :
    ∃ fields, (Declarations.ofProgram program).outcome = .ok fields := by
  have worked : (declare policy program table).outcome = .ok () := work_of_run returned
  rw [declare] at worked
  cases ended : (Declarations.ofProgram program).outcome with
  | error fault =>
      rw [ended] at worked
      cases worked
  | ok fields => exact ⟨fields, rfl⟩

theorem passed_iff (returned : (phase.run policy program table).outcome = .ok result) :
    result = .passed ↔ phase.errors (phase.run policy program table).table = 0 := by
  have worked := work_of_run returned
  have resulted : phase.resultOf (phase.work policy program table).table = result := by
    simp only [run, worked, Except.ok.injEq] at returned
    exact returned
  rw [table_run, ← resulted, resultOf]
  cases phase.errors (phase.work policy program table).table with
  | zero => simp
  | succ count => simp

end Phase

/-- For every program on which the build phase returns, of whatever nodes it consists: each
declaration that is met has a known type, and one outside all record definitions is in a group.
The variables are the first of each qualified name, in the order in which they are met, each with
its declared type, the scope of its nearest group and its declaration. A record name stands for its
first complete definition, with the first field of each name in it. All others are reported in the
order in which they are met, and the phase passes if there are none. -/
theorem build_keeps_first_declarations (program : Node) {result : Phase.Result}
    (returned : (Phase.build.run .reject program .empty).outcome = .ok result) :
    let table := (Phase.build.run .reject program .empty).table
    let met := (root program).reached
    (∀ spot ∈ met, spot.Sound) ∧
      table.env.symbols = .ofFirsts (symbolsAmong met) ∧
      table.env.registry.records = .ofFirsts (recordsAmong met) ∧
      table.toJournal = .ofFindings ((repeats key met).map finding) ∧
      table.redeclared = (repeats key met).map label ∧
      (met.filter isVariable).length =
        table.size + ((repeats key met).filter isVariable).length ∧
      (result = .passed ↔ (met.map key).Nodup) := by
  intro table met
  obtain ⟨fields, walked⟩ := Phase.build_returned returned
  have orderly : Orderly met := orderly_reached walked
  have built : table = SymbolTable.empty.enterAll .reject (flatMapAfter declarations [] met) := by
    rw [← (Declarations.ofProgram_follows walked).emitted]
    exact Phase.table_run ..
  have holds := SymbolTable.enterAll_holdsFirsts (flatMapAfter declarations [] met)
  rw [← built] at holds
  have symbols : table.env.symbols = .ofFirsts (symbolsAmong met) := by
    rw [holds.symbols, symbolEntries_declarations]
  have journal : table.toJournal = .ofFindings ((repeats key met).map finding) := by
    rw [holds.journal, clashing_declarations orderly]
  have redeclared : table.redeclared = (repeats key met).map label := by
    rw [journal, redeclared_ofFindings]
  refine ⟨orderly.sound, symbols, ?_, journal, redeclared, ?_, ?_⟩
  · rw [holds.records, recordEntries_declarations orderly]
  · rw [SymbolTable.size, symbols]
    exact length_variables orderly.sound
  · rw [Phase.passed_iff returned, ← repeats_eq_nil_iff, Phase.errors, List.length_eq_zero_iff,
      ← List.map_eq_nil_iff (f := label), ← redeclared]

/-- A variable that is declared three times, twice of them in one module, and a record type with a
repeated field, in the definition of which there is another one of the same name. -/
def nestedRecords : Node :=
  .program "Swarm"
    [.record "Pose"
      [.decl "x" "float" false 0 .hole none,
        .decl "x" "int" false 0 .hole none,
        .record "Pose" [.decl "x" "bool" false 0 .hole none] none] none,
      .group .locals [.decl "count" "int" false 0 .hole none] none,
      .moduleBlock "motion"
        [.group .sensors [.decl "count" "int" false 0 .hole none] none,
          .group .actuators [.decl "count" "Pose" true 1 .hole none] none] none]
    none

/-- The inner definition is complete before the outer one, which comes too late. -/
theorem build_of_nestedRecords :
    (Phase.build.run .reject nestedRecords .empty).outcome = .ok (.blocked 3) ∧
      (repeats key (root nestedRecords).reached).map label =
        ["Pose.x", "Pose", "motion.count"] ∧
      ((root nestedRecords).reached.filter isVariable).length = 2 +
        ((repeats key (root nestedRecords).reached).filter isVariable).length ∧
      ¬ ((root nestedRecords).reached.map key).Nodup := by
  have returned : (Phase.build.run .reject nestedRecords .empty).outcome = .ok (.blocked 3) := rfl
  obtain ⟨_, _, _, _, redeclared, counted, passed⟩ :=
    build_keeps_first_declarations nestedRecords returned
  exact ⟨returned, redeclared.symm.trans rfl, counted, fun distinct => by
    cases passed.mpr distinct⟩

end SwarmCheck
