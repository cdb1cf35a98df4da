import SwarmCheck.Proofs.DeclarationStops

/-!
# The walk over declarations

The build phase hands a context and the fields of the record around it down a tree of any shape.
Here its walk is told without either: every declaration that is met stands at a spot, its
surroundings are the nearest ones above it, and what is listed of it depends only on what was met
before it. The walk ends at the first station that has a fault, with everything listed that it has
passed, and returns if there is none.
-/

namespace SwarmCheck

set_option autoImplicit false

namespace Declarations

open Trail

def Context.below (context : Context) : Node → Context
  | .moduleBlock name _ _ => { context with block := some name }
  | .group kind _ _ => { context with scope := some (Scope.ofGroup kind) }
  | .record name _ _ => { context with record := some name }
  | _ => context

def contextAt : List (Nat × Node) → Context
  | [] => {}
  | (_, node) :: above => (contextAt above).below node

section Surroundings

variable (above : List (Nat × Node))

theorem contextAt_block : (contextAt above).block = above.findSome? (·.2.blockName?) := by
  induction above with
  | nil => rfl
  | cons entry rest ih =>
      obtain ⟨place, node⟩ := entry
      cases node with
      | moduleBlock name groups position => rfl
      | _ => exact ih

theorem contextAt_scope : (contextAt above).scope = above.findSome? (·.2.groupScope?) := by
  induction above with
  | nil => rfl
  | cons entry rest ih =>
      obtain ⟨place, node⟩ := entry
      cases node with
      | group kind decls position => exact congrArg some (Rules.ofGroup_eq_groupScope kind)
      | _ => exact ih

theorem contextAt_record : (contextAt above).record = (Spot.recordAbove above).map Spot.name := by
  induction above with
  | nil => rfl
  | cons entry rest ih =>
      obtain ⟨place, node⟩ := entry
      cases node with
      | record name fields position => rfl
      | _ => exact ih

end Surroundings

section Children

variable {context : Context} {nodes : List Node} {node : Node} {fields result : Fields}

theorem collectIn_append (first second : List Node) (fields : Fields) :
    collectIn context fields (first ++ second) = (do
      let between ← collectIn context fields first
      collectIn context between second) := by
  induction first generalizing fields with
  | nil => simp [collectIn]
  | cons node rest ih =>
      cases blank : node.isBlank with
      | true => simp [collectIn, blank, ih]
      | false => simp [collectIn, blank, ih]

theorem collectIn_filter (nodes : List Node) (fields : Fields) :
    collectIn context fields (nodes.filter (!·.isBlank)) = collectIn context fields nodes := by
  induction nodes generalizing fields with
  | nil => rfl
  | cons node rest ih =>
      cases blank : node.isBlank with
      | true => simp [collectIn, blank, ih]
      | false => simp [collectIn, blank, ih]

theorem collectIn_spread (node : Node) (fields : Fields) :
    collectIn context fields node.spread = collect context fields node := by
  cases node <;> simp [Node.spread, collectIn, collect, Node.isBlank]

theorem children_present : ∀ child ∈ node.children, child.isBlank = false := by
  intro child below
  simpa using (List.mem_filter.mp below).2

theorem collect_eq_visited (present : node.isBlank = false) (notDecl : node.isDecl = false)
    (notRecord : node.isRecord = false) :
    collect context fields node = collectAll (context.below node) fields node.visited := by
  cases node with
  | hole => cases present
  | stray found => cases present
  | bundle serial parts => cases present
  | otherwise statements => cases present
  | decl => cases notDecl
  | record => cases notRecord
  | moduleBlock name groups position => rw [collect]; rfl
  | group kind decls position => rw [collect]; rfl
  | _ =>
      apply Eq.trans _ (collectIn_eq_collectAll children_present fields)
      simp [collect, Node.children, Node.places, Context.below, collectIn_filter,
        collectIn_append, collectIn_spread, collectIn]

end Children

end Declarations

namespace Spot

/-- The walk can go on after a declaration: its type is known, and a variable is in a group. -/
def Sound (spot : Spot) : Prop :=
  match spot.node with
  | .decl _ typeName isRecord dims _ _ =>
      declaredType typeName isRecord dims = .ok spot.type ∧
        (spot.record? = none → ∃ scope, spot.scope? = some scope)
  | _ => True

theorem sound_of_no_fault {spot : Spot} (free : spot.fault? = none) : spot.Sound := by
  rw [Sound]
  split
  · rename_i name typeName isRecord dims initial position here
    simp only [fault?, here] at free
    cases declared : declaredType typeName isRecord dims with
    | error fault => simp [declared] at free
    | ok type =>
        rw [Rules.namedType_of_declaredType declared, Spot.type, here]
        refine ⟨rfl, ?_⟩
        intro outside
        rw [declared, outside] at free
        cases grouped : spot.scope? with
        | some scope => exact ⟨scope, rfl⟩
        | none =>
            rw [grouped] at free
            cases free
  · trivial

/-- What is listed of a spot, after others have been met: every variable, the fields that are
repeated, and every record type with the fields met before it was complete. -/
def declarations (earlier : List Spot) (spot : Spot) : List Declaration :=
  if spot.node.isDecl then
    match spot.record? with
    | none => (spot.symbol?.map Declaration.symbol).toList
    | some record =>
        if spot.key ∈ earlier.map key then [.repeatedField record.name spot.name spot.node] else []
  else [.record spot.name (fieldsAmong earlier spot) spot.node]

/-- Nothing that was met before stands at or below a spot. -/
def Apart (spot : Spot) (earlier : List Spot) : Prop :=
  ∀ other ∈ earlier, ¬ spot.address <:+ other.address

end Spot

namespace Declarations

open Trail Spot

/-- What is known of the fields on the way: they are those met so far of the record around. -/
def FieldsKnown (met : List Spot) (around : Option Spot) (fields : Fields) : Prop :=
  ∀ record, around = some record → fields = fieldsAmong met record

/-- How a walk over stations ends, after others have been met. Either it has passed them all and
returns the fields of the record around it, or it has stopped at the first one with a fault. -/
inductive Ends (walk : Collect Fields) (earlier : List Spot) (around : Option Spot)
    (stations : List Spot) : Prop
  | returned {result : Fields} (outcome : walk.outcome = .ok result)
      (emitted : walk.emitted = flatMapAfter Spot.declarations earlier stations)
      (free : ∀ station ∈ stations, station.fault? = none)
      (fields : FieldsKnown (earlier ++ stations) around result)
  | stopped {met rest : List Spot} {station : Spot} {fault : Fault}
      (split : stations = met ++ station :: rest) (outcome : walk.outcome = .error fault)
      (emitted : walk.emitted = flatMapAfter Spot.declarations earlier met)
      (free : ∀ other ∈ met, other.fault? = none) (faulty : station.fault? = some fault)

theorem fieldsKnown_of_none {met : List Spot} {around : Option Spot} (outside : around = none)
    (fields : Fields) : FieldsKnown met around fields := by
  intro record inside
  rw [outside] at inside
  cases inside

theorem fieldsKnown_of_some {met : List Spot} {around : Option Spot} {record : Spot}
    {fields : Fields} (inside : around = some record) (same : fields = fieldsAmong met record) :
    FieldsKnown met around fields := by
  intro other insideOther
  rw [inside] at insideOther
  cases insideOther
  exact same

section Ends

variable {earlier first second : List Spot} {around : Option Spot} {fields : Fields}

theorem ends_pure (known : FieldsKnown earlier around fields) :
    Ends (pure fields) earlier around [] :=
  .returned rfl rfl (List.forall_mem_nil _) (by rw [List.append_nil]; exact known)

theorem ends_fail {station : Spot} {fault : Fault} (faulty : station.fault? = some fault) :
    Ends (fail fault) earlier around [station] :=
  .stopped (List.nil_append _).symm rfl rfl (List.forall_mem_nil _) faulty

theorem Ends.bind {walk : Collect Fields} {next : Fields → Collect Fields}
    (ends : Ends walk earlier around first)
    (nextEnds : ∀ between, (∀ station ∈ first, station.fault? = none) →
      FieldsKnown (earlier ++ first) around between →
      Ends (next between) (earlier ++ first) around second) :
    Ends (walk >>= next) earlier around (first ++ second) := by
  cases ends with
  | @stopped met rest station fault split outcome emitted free faulty =>
      have all : first ++ second = met ++ station :: (rest ++ second) := by
        rw [split, List.append_assoc, List.cons_append]
      refine .stopped all (outcome_bind_of_error outcome next) ?_ free faulty
      rw [emitted_bind_of_error outcome, emitted]
  | @returned between outcome emitted free known =>
      cases nextEnds between free known with
      | @stopped met rest station fault split nextOutcome nextEmitted nextFree faulty =>
          have all : first ++ second = first ++ met ++ station :: rest := by
            rw [split, List.append_assoc]
          refine .stopped all ?_ ?_ (List.forall_mem_append.mpr ⟨free, nextFree⟩) faulty
          · rw [outcome_bind_of_ok outcome, nextOutcome]
          · rw [emitted_bind_of_ok outcome, emitted, nextEmitted, flatMapAfter_append]
      | @returned result nextOutcome nextEmitted nextFree nextKnown =>
          have returns : (walk >>= next).outcome = .ok result := by
            rw [outcome_bind_of_ok outcome, nextOutcome]
          refine .returned returns ?_ (List.forall_mem_append.mpr ⟨free, nextFree⟩) ?_
          · rw [emitted_bind_of_ok outcome, emitted, nextEmitted, flatMapAfter_append]
          · rw [← List.append_assoc]
            exact nextKnown

end Ends

def Walked (spot : Spot) : Prop :=
  ∀ (earlier : List Spot) (fields : Fields), spot.node.isBlank = false →
    spot.Apart earlier → FieldsKnown earlier spot.record? fields →
    Ends (collect (contextAt spot.above) fields spot.node) earlier spot.record? spot.stations

theorem flatMapAfter_singleton (earlier : List Spot) (spot : Spot) :
    flatMapAfter Spot.declarations earlier [spot] = spot.declarations earlier := by
  simp [flatMapAfter]

section Decls

variable {spot : Spot} {name typeName : String} {isRecord : Bool} {dims : Int} {initial : Node}
  {position : Option Position}
  (here : spot.node = .decl name typeName isRecord dims initial position)

include here

theorem isDecl_here : spot.node.isDecl = true := by
  rw [here]
  rfl

theorem name_here : spot.name = name := by
  rw [Spot.name, here]
  rfl

theorem declared_here {type : Ty} (declared : declaredType typeName isRecord dims = .ok type) :
    type = spot.type := by
  rw [Rules.namedType_of_declaredType declared, Spot.type, here]

theorem fault?_of_declared {type : Ty} (declared : declaredType typeName isRecord dims = .ok type) :
    spot.fault? =
      if spot.record?.isNone && spot.scope?.isNone then some (.outsideGroup name) else none := by
  simp only [Spot.fault?, here, declared]

theorem walked_undeclared {fault : Fault}
    (undeclared : declaredType typeName isRecord dims = .error fault) : Walked spot := by
  intro earlier fields present apart known
  have stops : collect (contextAt spot.above) fields spot.node = fail fault := by
    simp only [here, collect, collectDecl, undeclared]
  rw [stations_of_decl (isDecl_here here), stops]
  apply ends_fail
  simp only [Spot.fault?, here, undeclared]

theorem walked_field {type : Ty} (declared : declaredType typeName isRecord dims = .ok type)
    {record : Spot} (around : spot.record? = some record) : Walked spot := by
  intro earlier fields present apart known
  have declares := isDecl_here here
  have named := name_here here
  have within : (contextAt spot.above).record = some record.name := by
    rw [contextAt_record, ← Spot.record?, around, Option.map_some]
  have own : spot.key = .field record.address name :=
    key_eq_field_iff.mpr ⟨⟨declares, record, around, rfl⟩, named⟩
  have free : ∀ station ∈ [spot], station.fault? = none := by
    rw [List.forall_mem_singleton, fault?_of_declared here declared, around]
    rfl
  have grown := @fieldsAmong_concat spot record earlier declares around
  rw [← known record around, named, OrderedMap.insertNew] at grown
  rw [stations_of_decl declares]
  rw [declared_here here declared] at declared
  cases taken : fields.contains name with
  | true =>
      have repeated : spot.key ∈ earlier.map Spot.key := by
        rw [own, ← contains_fieldsAmong, ← known record around, taken]
      rw [here, collect_field_of_taken within declared taken]
      apply Ends.returned rfl _ free (fieldsKnown_of_some around _)
      · rw [flatMapAfter_singleton, Spot.declarations, if_pos declares, around, here, named]
        simp [repeated]
      · rw [grown, if_pos taken]
  | false =>
      have new : ¬ spot.key ∈ earlier.map Spot.key := by
        rw [own, ← contains_fieldsAmong, ← known record around, taken]
        exact Bool.false_ne_true
      rw [here, collect_field_of_new within declared taken]
      apply Ends.returned rfl _ free (fieldsKnown_of_some around _)
      · rw [flatMapAfter_singleton, Spot.declarations, if_pos declares, around]
        simp [new]
      · rw [grown, taken, if_neg Bool.false_ne_true]

/-- A variable is listed with what surrounds it. Outside all groups it is a fault. -/
theorem walked_variable {type : Ty} (declared : declaredType typeName isRecord dims = .ok type)
    (outside : spot.record? = none) : Walked spot := by
  intro earlier fields present apart known
  have declares := isDecl_here here
  have named := name_here here
  have faulty := fault?_of_declared here declared
  have noRecord : (contextAt spot.above).record = none := by
    rw [contextAt_record, ← Spot.record?, outside, Option.map_none]
  have sameBlock : (contextAt spot.above).block = spot.block? := contextAt_block spot.above
  have sameScope : (contextAt spot.above).scope = spot.scope? := contextAt_scope spot.above
  have variableHere : spot.isVariable = true := isVariable_iff.mpr ⟨declares, outside⟩
  rw [stations_of_decl declares]
  rw [outside] at faulty
  rw [declared_here here declared] at declared
  rw [here, collect, collectDecl]
  simp only [declared, noRecord, sameBlock, sameScope, Rules.qualifiedName_eq_fullName]
  cases grouped : spot.scope? with
  | none =>
      rw [grouped] at faulty
      exact ends_fail faulty
  | some scope =>
      rw [grouped] at faulty
      apply Ends.returned rfl _ (List.forall_mem_singleton.mpr faulty)
        (fieldsKnown_of_none outside _)
      rw [flatMapAfter_singleton, Spot.declarations, if_pos declares, outside, Spot.symbol?,
        if_pos variableHere, grouped, Spot.fullName, named, here]
      rfl

end Decls

theorem walked_decl {spot : Spot} (declares : spot.node.isDecl = true) : Walked spot := by
  obtain ⟨name, typeName, isRecord, dims, initial, position, here⟩ :=
    Node.exists_of_isDecl declares
  cases declared : declaredType typeName isRecord dims with
  | error fault => exact walked_undeclared here declared
  | ok type =>
      cases around : spot.record? with
      | none => exact walked_variable here declared around
      | some record => exact walked_field here declared around

section Below

variable {spot : Spot} {earlier : List Spot} {fields : Fields}

theorem address_suffix_of_station (present : spot.node.isBlank = false)
    (free : ∀ station ∈ spot.stations, station.fault? = none) :
    ∀ station ∈ spot.stations, spot.address <:+ station.address := by
  rw [stations_eq_reached present fun station member => present_of_no_fault (free station member)]
  intro station met
  exact address_suffix_of_reached met

/-- The entries below a spot are walked over one after another. What is met below one of them is
apart from the next. -/
theorem collectAll_ends (place : Nat) {nodes : List Node}
    (walked : ∀ entry ∈ spot.entriesFrom place nodes, Walked entry)
    (apart : ∀ entry ∈ spot.entriesFrom place nodes, entry.Apart earlier)
    (known : FieldsKnown earlier spot.recordBelow? fields) :
    Ends (collectAll ((contextAt spot.above).below spot.node) fields nodes) earlier
      spot.recordBelow? ((spot.entriesFrom place nodes).flatMap entryStations) := by
  induction nodes generalizing place earlier fields with
  | nil =>
      rw [collectAll]
      exact ends_pure known
  | cons node rest ih =>
      rw [entriesFrom, List.forall_mem_cons] at walked apart
      rw [collectAll, entriesFrom, List.flatMap_cons, entryStations]
      cases blank : node.isBlank with
      | true =>
          rw [if_pos rfl, if_pos rfl]
          exact .stopped rfl rfl rfl (List.forall_mem_nil _) (fault?_of_blank blank)
      | false =>
          rw [blank, if_neg Bool.false_ne_true] at walked apart
          rw [if_neg Bool.false_ne_true, if_neg Bool.false_ne_true, if_neg Bool.false_ne_true]
          apply (walked.1 earlier fields blank apart.1 known).bind
          intro between free knownBetween
          refine ih (place + 1) walked.2 ?_ knownBetween
          -- A later sibling stands apart from what was met below this entry, too.
          intro entry member other met
          rcases List.mem_append.mp met with before | inside
          · exact apart.2 entry member other before
          · intro within
            obtain ⟨taken, bounded, same⟩ := address_of_mem_entriesFrom member
            rw [same] at within
            have below := address_suffix_of_station blank free other inside
            have equal : place = taken := place_unique below within
            omega

theorem entries_apart (apart : spot.Apart earlier) :
    ∀ entry ∈ spot.entries, entry.Apart earlier := by
  intro entry below other met inside
  obtain ⟨taken, _, same⟩ := address_of_mem_entriesFrom below
  rw [same] at inside
  exact apart other met ((List.suffix_cons _ _).trans inside)

/-- An entry that is no node is a station, and there is nothing to walk over below it. -/
theorem walked_entries (walked : ∀ child ∈ spot.children, Walked child) :
    ∀ entry ∈ spot.entries, Walked entry := by
  intro entry below earlier fields present
  exact walked entry (mem_children_of_entry below present) earlier fields present

theorem fieldOf?_below_record {outer inner : Spot} (defines : spot.node.isRecord = true)
    (around : spot.record? = some outer) (met : inner ∈ spot.entries.flatMap entryStations)
    (present : inner.node.isBlank = false) : fieldOf? outer.address inner = none := by
  have reached : inner ∈ spot.children.flatMap Spot.reached := by
    rw [← filter_entries_stations, List.mem_filter, present]
    exact ⟨met, rfl⟩
  obtain ⟨child, member, deeper⟩ := List.mem_flatMap.mp reached
  obtain ⟨taken, _, above⟩ := above_of_mem_childrenFrom member
  have suffix := above_suffix_of_reached child inner deeper
  rw [above] at suffix
  exact fieldOf?_of_nested defines around suffix

/-- A record definition has the fields met in it and adds none to the definition around it. -/
theorem walked_record (defines : spot.node.isRecord = true)
    (walked : ∀ child ∈ spot.children, Walked child) : Walked spot := by
  intro earlier fields present apart known
  obtain ⟨name, decls, position, here⟩ := Node.exists_of_isRecord defines
  have declares : spot.node.isDecl = false := by rw [here]; rfl
  have named : spot.name = name := by rw [Spot.name, here]; rfl
  have inside : spot.recordBelow? = some spot := if_pos defines
  have unrolled : collect (contextAt spot.above) fields spot.node = (do
      let own ← collectAll ((contextAt spot.above).below spot.node) .empty spot.node.visited
      emit [.record name own spot.node]
      return fields) := by
    rw [here, collect]
    rfl
  have below := collectAll_ends 0 (walked_entries walked) (entries_apart apart)
    (fieldsKnown_of_some inside (fieldsAmong_of_apart apart).symm)
  rw [stations_of_not_decl declares, if_pos defines, unrolled]
  cases below with
  | @stopped met rest station fault split outcome emitted free faulty =>
      have all : spot.entries.flatMap entryStations ++ [spot] =
          met ++ station :: (rest ++ [spot]) := by
        rw [Spot.entries, split, List.append_assoc, List.cons_append]
      refine .stopped all (outcome_bind_of_error outcome _) ?_ free faulty
      rw [emitted_bind_of_error outcome, emitted]
  | @returned own outcome emitted free ownKnown =>
      have ownFields := ownKnown spot inside
      refine .returned (outcome_bind_of_ok outcome _) ?_ ?_ ?_
      · rw [emitted_bind_of_ok outcome, emitted, flatMapAfter_append, flatMapAfter_singleton,
          Spot.declarations, if_neg (Bool.eq_false_iff.mp declares), ownFields, named]
        rfl
      · rw [List.forall_mem_append, List.forall_mem_singleton]
        refine ⟨free, ?_⟩
        rw [Spot.fault?, here]
        rfl
      · intro outer around
        -- The walk below this definition kept fields of its own, so those around it are untouched.
        rw [known outer around]
        symm
        apply fieldsAmong_append_of_none
        rw [List.forall_mem_append, List.forall_mem_singleton]
        constructor
        · intro inner met
          exact fieldOf?_below_record defines around met (present_of_no_fault (free inner met))
        · simp [fieldOf?, declares]

theorem walked_plain (present : spot.node.isBlank = false) (declares : spot.node.isDecl = false)
    (plain : spot.node.isRecord = false) (walked : ∀ child ∈ spot.children, Walked child) :
    Walked spot := by
  intro earlier fields _ apart known
  have inside : spot.recordBelow? = spot.record? := if_neg (Bool.eq_false_iff.mp plain)
  rw [← inside] at known
  rw [collect_eq_visited present declares plain, stations_of_not_decl declares, plain,
    if_neg Bool.false_ne_true, List.append_nil, ← inside]
  exact collectAll_ends 0 (walked_entries walked) (entries_apart apart) known

end Below

theorem walked (spot : Spot) : Walked spot := by
  induction spot using spot_induction with
  | step spot ih =>
      intro earlier fields present
      cases declares : spot.node.isDecl with
      | true => exact walked_decl declares earlier fields present
      | false =>
          cases defines : spot.node.isRecord with
          | true => exact walked_record defines ih earlier fields present
          | false => exact walked_plain present declares defines ih earlier fields present

/-- A walk that returned the fields of the record around it, having met some spots after
others. -/
structure Follows (walk : Collect Fields) (earlier met : List Spot) (around : Option Spot)
    (result : Fields) : Prop where
  outcome : walk.outcome = .ok result
  emitted : walk.emitted = flatMapAfter Spot.declarations earlier met
  sound : ∀ spot ∈ met, spot.Sound
  fields : FieldsKnown (earlier ++ met) around result

section Program

variable {program : Node}

theorem ofProgram_ends (present : program.isBlank = false) :
    Ends (ofProgram program) [] none (root program).stations := by
  rw [ofProgram, present, if_neg Bool.false_ne_true]
  exact walked (root program) [] .empty present (fun _ met => by cases met)
    (fieldsKnown_of_none rfl _)

theorem ofProgram_emitted (present : program.isBlank = false) :
    (ofProgram program).emitted = flatMapAfter Spot.declarations [] (root program).passed := by
  cases ofProgram_ends present with
  | returned outcome emitted free known => rw [emitted, passed_of_free free]
  | stopped split outcome emitted free faulty => rw [emitted, passed_of_split split free faulty]

theorem ofProgram_fails_of_fault (present : program.isBlank = false) {station : Spot}
    {fault : Fault} (met : station ∈ (root program).stations)
    (faulty : station.fault? = some fault) :
    ∃ first, (ofProgram program).outcome = .error first := by
  cases ofProgram_ends present with
  | returned outcome emitted free known =>
      rw [free station met] at faulty
      cases faulty
  | stopped split outcome => exact ⟨_, outcome⟩

theorem ofProgram_failed_iff (present : program.isBlank = false) {fault : Fault} :
    (ofProgram program).outcome = .error fault ↔
      ∃ station rest, (root program).stations = (root program).passed ++ station :: rest ∧
        station.fault? = some fault := by
  cases ofProgram_ends present with
  | returned outcome emitted free known =>
      rw [outcome]
      constructor
      · intro failed
        cases failed
      · rintro ⟨station, rest, split, faulty⟩
        have none := free station (by rw [split]; simp)
        rw [none] at faulty
        cases faulty
  | @stopped met rest station first split outcome emitted free faulty =>
      rw [outcome, passed_of_split split free faulty]
      constructor
      · rintro ⟨⟩
        exact ⟨station, rest, split, faulty⟩
      · rintro ⟨other, others, same, otherFaulty⟩
        rw [split, List.append_cancel_left_eq, List.cons.injEq] at same
        rw [same.1, otherFaulty] at faulty
        cases faulty
        rfl

/-- The walk over a program that returns meets what is reached from its root, and nothing before. -/
theorem ofProgram_follows {result : Fields} (returned : (ofProgram program).outcome = .ok result) :
    Follows (ofProgram program) [] (root program).reached none result := by
  have present : program.isBlank = false := by
    rw [ofProgram] at returned
    cases blank : program.isBlank with
    | false => rfl
    | true =>
        rw [blank, if_pos rfl] at returned
        cases returned
  cases ofProgram_ends present with
  | stopped split outcome emitted free faulty =>
      rw [outcome] at returned
      cases returned
  | returned outcome emitted free known =>
      have nodes := fun station member => present_of_no_fault (free station member)
      rw [stations_eq_reached present nodes] at emitted free known
      rw [outcome] at returned
      cases returned
      exact ⟨outcome, emitted, fun spot met => sound_of_no_fault (free spot met), known⟩

end Program

end Declarations

end SwarmCheck
