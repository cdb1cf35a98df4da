import Mathlib.Data.List.Duplicate
import SwarmCheck.Proofs.PartialTables

/-!
# Qualified names

A variable that is declared in a module goes by a single text, the name of the module and its own
name with a dot between them. The name of a module may have dots in it, too. As long as the names of
variables have none, the last dot of the text tells the two apart, so variables only clash if they
have the same name and the same module. This makes the build phase report what it ought to, of all
that it comes to: a declaration that names no type ends it, and what stands after that one is not
reported.
-/

namespace SwarmCheck

set_option autoImplicit false

section Names

open Text

def blockParts (block : Option String) : List String :=
  if block.getD "" = "" then [] else segments (block.getD "")

theorem joinDots_blockParts (block : Option String) :
    joinDots (blockParts block) = block.getD "" := by
  rw [blockParts]
  split
  · rename_i unnamed
    exact unnamed.symm
  · exact joinDots_segments _

theorem qualifiedName_eq_ite (name : String) (block : Option String) :
    qualifiedName name block =
      if block.getD "" = "" then name else block.getD "" ++ "." ++ name := by
  cases block <;> rfl

/-- A name without dots is the last part of its qualified name, and its module is all before it. -/
theorem segments_qualifiedName {name : String} (dotless : '.' ∉ name.toList)
    (block : Option String) :
    segments (qualifiedName name block) = blockParts block ++ [name] := by
  symm
  apply splits_iff.mp
  refine ⟨List.append_ne_nil_of_right_ne_nil _ (List.cons_ne_nil _ _), ?_, ?_⟩
  · rw [List.forall_mem_append, List.forall_mem_singleton]
    refine ⟨?_, dotless⟩
    rw [blockParts]
    split
    · exact List.forall_mem_nil _
    · exact (splits_iff.mpr rfl).dotless
  · rw [qualifiedName_eq_ite, blockParts]
    split
    · rfl
    · rw [joinDots_append (segments_ne_nil _), joinDots_segments]
      rfl

theorem qualifiedName_eq_iff {name other : String} (dotless : '.' ∉ name.toList)
    (otherDotless : '.' ∉ other.toList) {block otherBlock : Option String} :
    qualifiedName name block = qualifiedName other otherBlock ↔
      name = other ∧ block.getD "" = otherBlock.getD "" := by
  constructor
  · intro same
    have parts := congrArg segments same
    rw [segments_qualifiedName dotless, segments_qualifiedName otherDotless] at parts
    obtain ⟨blocks, names⟩ := List.append_inj' parts rfl
    have joined := congrArg joinDots blocks
    rw [joinDots_blockParts, joinDots_blockParts] at joined
    exact ⟨List.singleton_inj.mp names, joined⟩
  · rintro ⟨rfl, sameBlock⟩
    rw [qualifiedName_eq_ite, qualifiedName_eq_ite, sameBlock]

/-- A name with a dot in it can be taken for one of another module. -/
example :
    qualifiedName "arm.count" (some "motion") = qualifiedName "count" (some "motion.arm") := by
  decide

end Names

section Occurrences

variable {α κ ι : Type} [DecidableEq κ] [DecidableEq ι] (key : α → κ)

theorem mem_map_repeats_iff {entries : List α} {name : κ} :
    name ∈ (repeats key entries).map key ↔ List.Duplicate name (entries.map key) := by
  induction entries using List.reverseRecOn with
  | nil => simp [repeats, flatMapAfter]
  | append_singleton entries last ih =>
      rw [repeats_concat, List.map_append, List.mem_append, ih, List.duplicate_iff_two_le_count,
        List.duplicate_iff_two_le_count, List.map_append, List.count_append, List.map_singleton,
        List.count_singleton]
      by_cases same : key last = name
      · subst same
        by_cases known : key last ∈ entries.map key
        · have counted := List.one_le_count_iff.mpr known
          rw [if_pos known, if_pos (beq_self_eq_true _)]
          simp only [List.map_singleton, List.mem_singleton, or_true, true_iff]
          omega
        · rw [if_neg known, List.count_eq_zero_of_not_mem known]
          simp
      · simp only [beq_false_of_ne same, Bool.false_eq_true, if_false, Nat.add_zero]
        apply or_iff_left
        split <;> simp [Ne.symm same]

/-- Among some of the entries another key may do, if it tells them apart just as well. -/
theorem filter_repeats {keep : α → Bool} {other : α → ι} {entries : List α}
    (same : ∀ entry ∈ entries, keep entry = true → ∀ earlier ∈ entries,
      key earlier = key entry ↔ keep earlier = true ∧ other earlier = other entry) :
    (repeats key entries).filter keep = repeats other (entries.filter keep) := by
  induction entries using List.reverseRecOn with
  | nil => rfl
  | append_singleton entries last ih =>
      have before := ih fun entry member kept earlier earlierMember =>
        same entry (List.mem_append_left _ member) kept earlier
          (List.mem_append_left _ earlierMember)
      rw [repeats_concat, List.filter_append, before, List.filter_append]
      cases kept : keep last with
      | false =>
          rw [List.filter_cons_of_neg (by simp [kept]), List.filter_nil, List.append_nil]
          split <;> simp [kept]
      | true =>
          have late : key last ∈ entries.map key ↔
              other last ∈ (entries.filter keep).map other := by
            simp only [List.mem_map, List.mem_filter]
            constructor
            · rintro ⟨earlier, member, equal⟩
              obtain ⟨earlierKept, otherEqual⟩ := (same last (by simp) kept earlier
                (List.mem_append_left _ member)).mp equal
              exact ⟨earlier, ⟨member, earlierKept⟩, otherEqual⟩
            · rintro ⟨earlier, ⟨member, earlierKept⟩, otherEqual⟩
              exact ⟨earlier, member, (same last (by simp) kept earlier
                (List.mem_append_left _ member)).mpr ⟨earlierKept, otherEqual⟩⟩
          rw [List.filter_cons_of_pos kept, List.filter_nil, repeats_concat]
          simp only [late]
          split <;> simp [kept]

end Occurrences

namespace Spot

/-- The name of what is declared at a spot, and its module. No module counts as one without a
name. -/
def nameAndModule (spot : Spot) : String × String := (spot.name, spot.block?.getD "")

variable {met : List Spot}

theorem late_variables
    (dotless : ∀ spot ∈ met, spot.isVariable = true → '.' ∉ spot.name.toList) :
    (repeats key met).filter isVariable = repeats nameAndModule (met.filter isVariable) := by
  apply filter_repeats
  intro spot member declares earlier earlierMember
  have own : spot.key = .symbol spot.fullName := key_eq_symbol_iff.mpr ⟨declares, rfl⟩
  rw [own, key_eq_symbol_iff]
  apply and_congr_right
  intro earlierDeclares
  rw [nameAndModule, nameAndModule, Prod.mk.injEq, fullName, fullName,
    ← Rules.qualifiedName_eq_fullName, ← Rules.qualifiedName_eq_fullName]
  exact qualifiedName_eq_iff (dotless earlier earlierMember earlierDeclares)
    (dotless spot member declares)

theorem filter_isReported_isVariable (policy : RedefinitionPolicy) (met : List Spot) :
    (met.filter (isReported policy)).filter isVariable = met.filter isVariable := by
  rw [List.filter_filter]
  apply List.filter_congr
  intro spot _
  rw [isReported, isVariable]
  cases spot.node.isDecl <;> simp

end Spot

open Spot

section Sorts

variable {node child : Node}

theorem Node.mem_preorder_of_child (below : child ∈ node.children) : child ∈ node.preorder := by
  have present : child.isBlank = false := Declarations.children_present child below
  rw [Node.preorder_eq_cons node (Node.not_blank_of_mem_children below)]
  apply List.mem_cons_of_mem
  refine List.mem_flatMap.mpr ⟨child, below, ?_⟩
  rw [Node.preorder_eq_cons child present]
  exact List.mem_cons_self

theorem Sorted.all_below (sorted : Sorted node) : ∀ inner ∈ node.preorder, Sorted inner := by
  cases sorted with
  | expression sorted => exact fun inner member => .expression (sorted.all_below inner member)
  | statement sorted => exact sorted.all_below
  | variableDecl sorted => exact sorted.all_below
  | item sorted => exact sorted.all_below
  | program sorted => exact sorted.all_below

theorem Sorted.gapless (sorted : Sorted node) : node.Gapless := by
  cases sorted with
  | expression sorted => cases sorted <;> trivial
  | statement sorted => cases sorted <;> trivial
  | variableDecl sorted => cases sorted; trivial
  | program sorted => cases sorted; trivial
  | item sorted =>
      cases sorted with
      | group sortedGroup =>
          cases sortedGroup with
          | group kind position sortedDecls =>
              exact fun entry member => (sortedDecls entry member).not_blank
      | moduleBlock name position sortedGroups =>
          exact fun entry member => (sortedGroups entry member).not_blank
      | record name position sortedFields =>
          exact fun field member => (sortedFields field member).not_blank
      | event => trivial

theorem Expression.children_not_decl (sorted : Expression node) :
    ∀ child ∈ node.children, child.isDecl = false := by
  intro child below
  cases sorted.all_below child (Node.mem_preorder_of_child below) <;> rfl

theorem OptionalExpression.spread_not_decl (sorted : OptionalExpression node) :
    ∀ place ∈ node.spread, place.isDecl = false := by
  rcases sorted with rfl | sorted
  · simp [Node.spread, Node.isDecl]
  · cases sorted <;> simp [Node.spread, Node.isDecl]

theorem Statement.not_decl (sorted : Statement node) : node.isDecl = false := by
  cases sorted <;> rfl

theorem Statement.children_not_decl (sorted : Statement node) :
    ∀ child ∈ node.children, child.isDecl = false := by
  intro child below
  have place : child ∈ node.places := (List.mem_filter.mp below).1
  cases sorted with
  | call name position sortedArgs =>
      exact Expression.children_not_decl (.call name position sortedArgs) child below
  | assign target position sortedIndex sortedValue =>
      rcases List.mem_append.mp place with index | value
      · exact sortedIndex.spread_not_decl child index
      · exact OptionalExpression.spread_not_decl (.inr sortedValue) child value
  | stream channel position => cases place
  | conditional position sortedCondition sortedThen sortedElse =>
      rcases List.mem_append.mp place with condition | bodies
      · exact OptionalExpression.spread_not_decl (.inr sortedCondition) child condition
      · rcases List.mem_append.mp bodies with thenBody | elseBody
        · exact (sortedThen child thenBody).not_decl
        · exact (sortedElse child elseBody).not_decl

theorem TopItem.not_decl (sorted : TopItem node) : node.isDecl = false := by
  cases sorted with
  | group sortedGroup => cases sortedGroup; rfl
  | moduleBlock => rfl
  | record => rfl
  | event => rfl

/-- In a well-sorted program declarations stand in groups and in records, and nowhere else. -/
theorem Sorted.group_or_record (sorted : Sorted node) (below : child ∈ node.children)
    (declares : child.isDecl = true) : node.groupScope? ≠ none ∨ node.isRecord = true := by
  have place : child ∈ node.places := (List.mem_filter.mp below).1
  have impossible (other : child.isDecl = false) :
      node.groupScope? ≠ none ∨ node.isRecord = true := by
    rw [other] at declares
    cases declares
  cases sorted with
  | expression sorted => exact impossible (sorted.children_not_decl child below)
  | statement sorted => exact impossible (sorted.children_not_decl child below)
  | variableDecl sorted =>
      cases sorted with
      | decl name typeName isRecord dims position sortedInitial =>
          exact impossible (sortedInitial.spread_not_decl child place)
  | program sorted =>
      cases sorted with
      | program name position sortedItems =>
          exact impossible (sortedItems child place).not_decl
  | item sorted =>
      cases sorted with
      | group sortedGroup =>
          cases sortedGroup
          exact .inl (Option.some_ne_none _)
      | record => exact .inr rfl
      | moduleBlock name position sortedGroups =>
          exact impossible (TopItem.not_decl (.group (sortedGroups child place)))
      | event name position sortedPrecondition sortedEffects =>
          rcases List.mem_append.mp place with precondition | effect
          · exact impossible (sortedPrecondition.spread_not_decl child precondition)
          · exact impossible (sortedEffects child effect).not_decl

end Sorts

section Build

variable {program : Node} (sorted : WellSorted program)

include sorted

theorem Spot.Within.sortedNode {spot : Spot} (within : spot.Within program) : Sorted spot.node := by
  induction within with
  | root => exact .program sorted
  | child _ below ih =>
      exact ih.all_below _ (Node.mem_preorder_of_child (node_mem_children below))

theorem Spot.Fails.unknownType_of_sorted {spot : Spot} {failure : Failure}
    (fails : spot.Fails failure) (within : spot.Within program) :
    ∃ typeName, failure = .unknownType typeName none := by
  cases fails with
  | unknownType => exact ⟨_, rfl⟩
  | outsideGroup here known noRecord noGroup =>
      cases within with
      | root =>
          cases sorted
          cases here
      | @child parent _ around below =>
          obtain ⟨place, above⟩ := above_of_child below
          have entry : (place, parent.node) ∈ spot.above := by
            rw [above]
            exact List.mem_cons_self
          have declares : spot.node.isDecl = true := by
            rw [here]
            rfl
          rcases (around.sortedNode sorted).group_or_record (node_mem_children below) declares with
            grouped | inRecord
          · exact absurd (noGroup _ entry) grouped
          · have outside := noRecord _ entry
            rw [inRecord] at outside
            cases outside

theorem WellSorted.gapless : ∀ node ∈ program.preorder, node.Gapless :=
  fun node member => (sorted.all_below node member).gapless

/-- Over a well-sorted program the build phase meets everything, or it stops at the first
declaration that names no type. -/
theorem Phase.build_comes_to (policy : RedefinitionPolicy) (table : SymbolTable) :
    let ended := build.run policy program table
    let met := (root program).passed
    ((∃ result, ended.outcome = .ok result) ∧ met = (root program).reached) ∨
      ∃ spot rest typeName, (root program).reached = met ++ spot :: rest ∧
        spot.Fails (.unknownType typeName none) ∧
        ended.outcome = .error (.unknownType typeName) := by
  intro ended met
  have present := sorted.not_blank
  cases outcome : ended.outcome with
  | ok result =>
      refine .inl ⟨⟨result, rfl⟩, ?_⟩
      obtain ⟨fields, returned⟩ := build_returned outcome
      have nodes := stations_present (root program) present sorted.gapless
      cases Declarations.ofProgram_ends present with
      | returned _ _ free =>
          exact (passed_of_free free).trans (stations_eq_reached present nodes)
      | stopped _ failed =>
          rw [failed] at returned
          cases returned
  | error fault =>
      obtain ⟨spot, rest, failure, split, fails, shown⟩ :=
        stop_of_build present sorted.gapless outcome
      have member : spot ∈ (root program).reached := by
        rw [split]
        exact List.mem_append_right _ List.mem_cons_self
      obtain ⟨within, _⟩ := (decl_mem_reached_iff fails.isDecl).mp member
      obtain ⟨typeName, rfl⟩ := fails.unknownType_of_sorted sorted within
      refine .inr ⟨spot, rest, typeName, split, fails, ?_⟩
      cases fault <;> simp [Fault.failure?, Fault.kind] at shown
      rw [shown]

end Build

/-- Names without dots stay apart in their modules, where no module and one without a name are the
same. So it is with the variables of a well-sorted program, if their names have no dots. Of those
that the build phase comes to, it reports each one but the first with the same name and the same
module, and a variable is reported exactly when it is declared twice in one module. The phase comes
to all of them, or it is stopped by the first declaration that names no type. -/
theorem build_reports_by_name_and_module :
    (∀ name other : String, '.' ∉ name.toList → '.' ∉ other.toList → ∀ block otherBlock,
      qualifiedName name block = qualifiedName other otherBlock ↔
        name = other ∧ block.getD "" = otherBlock.getD "") ∧
    ∀ (policy : RedefinitionPolicy) (program : Node), WellSorted program →
      (∀ spot ∈ (root program).reached, spot.isVariable = true → '.' ∉ spot.name.toList) →
      let ended := Phase.build.run policy program .empty
      let met := (root program).passed
      let reported := (repeats key met).filter (isReported policy)
      ended.table.toJournal = .ofFindings (reported.map finding) ∧
      reported.filter isVariable = repeats nameAndModule (met.filter isVariable) ∧
      (∀ name block,
        (∃ spot ∈ reported, spot.isVariable = true ∧ spot.nameAndModule = (name, block)) ↔
          List.Duplicate (name, block) ((met.filter isVariable).map nameAndModule)) ∧
      (((∃ result, ended.outcome = .ok result) ∧ met = (root program).reached) ∨
        ∃ spot rest typeName, (root program).reached = met ++ spot :: rest ∧
          Fails spot (.unknownType typeName none) ∧
          ended.outcome = .error (.unknownType typeName)) := by
  constructor
  · intro name other dotless otherDotless block otherBlock
    exact qualifiedName_eq_iff dotless otherDotless
  · intro policy program sorted dotless ended met reported
    have present := sorted.not_blank
    have made : ended.table.MadeOf policy met := Phase.build_madeOf policy present
    have late : reported.filter isVariable = repeats nameAndModule (met.filter isVariable) := by
      rw [filter_isReported_isVariable]
      exact late_variables fun spot member =>
        dotless spot ((passed_begins_reached present).mem member)
    refine ⟨made.journal, late, ?_, Phase.build_comes_to sorted policy .empty⟩
    intro name block
    rw [← mem_map_repeats_iff, ← late]
    simp only [List.mem_map, List.mem_filter, and_assoc]

/-- Counts in four modules, two of which go by no name, and one of which is written in two blocks. A
record type has the name of a module and a repeated field. -/
def countsInModules : Node :=
  .program "Swarm"
    [.group .locals [.decl "count" "int" false 0 .hole none] none,
      .moduleBlock "" [.group .locals [.decl "count" "int" false 0 .hole none] none] none,
      .moduleBlock "motion" [.group .locals [.decl "count" "int" false 0 .hole none] none] none,
      .moduleBlock "motion.arm"
        [.group .locals [.decl "count" "int" false 0 .hole none] none] none,
      .record "motion.arm"
        [.decl "count" "int" false 0 .hole none, .decl "count" "int" false 0 .hole none] none,
      .moduleBlock "motion" [.group .sensors [.decl "count" "bool" false 0 .hole none] none] none]
    none

theorem countsInModules_sorted : WellSorted countsInModules := by
  have count (typeName : String) : ∀ entry ∈ [Node.decl "count" typeName false 0 .hole none],
      VariableDecl entry := by
    rw [List.forall_mem_singleton]
    exact .decl _ _ _ _ _ (.inl rfl)
  have counts (kind : GroupKind) (typeName : String) :
      DeclGroup (.group kind [.decl "count" typeName false 0 .hole none] none) :=
    .group _ _ (count typeName)
  refine .program _ _ ?_
  simp only [List.forall_mem_cons]
  refine ⟨.group (counts _ _), .moduleBlock _ _ ?_, .moduleBlock _ _ ?_, .moduleBlock _ _ ?_,
    .record _ _ ?_, .moduleBlock _ _ ?_, List.forall_mem_nil _⟩
  · exact List.forall_mem_singleton.mpr (counts _ _)
  · exact List.forall_mem_singleton.mpr (counts _ _)
  · exact List.forall_mem_singleton.mpr (counts _ _)
  · exact List.forall_mem_cons.mpr ⟨.decl _ _ _ _ _ (.inl rfl), count _⟩
  · exact List.forall_mem_singleton.mpr (counts _ _)

/-- The count of the module `motion.arm` is declared once. What is reported under its name is the
field of the record type. -/
theorem build_of_countsInModules :
    let ended := Phase.build.run .reject countsInModules .empty
    let met := (root countsInModules).passed
    let reported := (repeats key met).filter (isReported .reject)
    ended.table.redeclared = ["count", "motion.arm.count", "motion.count"] ∧
      reported.filter isVariable = repeats nameAndModule (met.filter isVariable) ∧
      (∃ spot ∈ reported, spot.isVariable = true ∧ spot.nameAndModule = ("count", "motion")) ∧
      (¬ ∃ spot ∈ reported, spot.isVariable = true ∧
        spot.nameAndModule = ("count", "motion.arm")) ∧
      qualifiedName "count" (some "motion.arm") ≠ qualifiedName "count" (some "motion") := by
  intro ended met reported
  obtain ⟨apart, reporting⟩ := build_reports_by_name_and_module
  have dotless : ∀ spot ∈ (root countsInModules).reached,
      spot.isVariable = true → '.' ∉ spot.name.toList := by decide +kernel
  obtain ⟨_, late, twice, _⟩ := reporting .reject countsInModules countsInModules_sorted dotless
  refine ⟨rfl, late, (twice _ _).mpr (by decide +kernel), ?_, ?_⟩
  · rw [twice]
    decide +kernel
  · rw [Ne, apart "count" "count" (by decide) (by decide)]
    decide

/-- A variable that is declared twice, with a declaration between that names no type. -/
def interruptedCounts : Node :=
  .program "Swarm"
    [.group .locals
      [.decl "count" "int" false 0 .hole none, .decl "pace" "metres" false 0 .hole none,
        .decl "count" "int" false 0 .hole none] none]
    none

/-- What stands after a declaration that names no type is not reported. -/
theorem fault_hides_redeclaration :
    WellSorted interruptedCounts ∧
      (∀ spot ∈ (root interruptedCounts).reached,
        spot.isVariable = true → '.' ∉ spot.name.toList) ∧
      List.Duplicate ("count", "")
        (((root interruptedCounts).reached.filter isVariable).map nameAndModule) ∧
      (Phase.build.run .reject interruptedCounts .empty).outcome =
        .error (.unknownType "metres") ∧
      (Phase.build.run .reject interruptedCounts .empty).table.toJournal = .empty := by
  refine ⟨?_, by decide +kernel, by decide +kernel, rfl, rfl⟩
  refine .program _ _ (List.forall_mem_singleton.mpr (.group (.group _ _ ?_)))
  simp only [List.forall_mem_cons]
  exact ⟨.decl _ _ _ _ _ (.inl rfl), .decl _ _ _ _ _ (.inl rfl), .decl _ _ _ _ _ (.inl rfl),
    List.forall_mem_nil _⟩

end SwarmCheck
