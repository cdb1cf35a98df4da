import SwarmCheck.Proofs.Building
import SwarmCheck.Proofs.TypeRules

/-!
# Acceptance

An analysis of a well-sorted program accepts exactly the programs that follow the rules of the
language. Each phase is quiet when its own rule holds of what the program declares, and each is
only reached when the rules before it hold, which is what its own argument needs.
-/

namespace SwarmCheck

set_option autoImplicit false

section Places

variable {node : Node}

theorem Node.not_isHole_iff : (!node.isHole) = true ↔ node ≠ .hole := by
  rw [Bool.not_eq_true', ← Bool.not_eq_true, Node.isHole_iff]

theorem Expression.not_decl (sorted : Expression node) : node.isDecl = false := by
  cases sorted <;> rfl

theorem OptionalExpression.hole_of_blank (sorted : OptionalExpression node)
    (blank : node.isBlank = true) : node = .hole := by
  rcases sorted with empty | sorted
  · exact empty
  · rw [sorted.not_blank] at blank
    cases blank

theorem Sorted.filled (sorted : Sorted node) : node.Filled := by
  cases sorted with
  | expression sorted => cases sorted <;> trivial
  | variableDecl sorted => cases sorted; trivial
  | program sorted => cases sorted; trivial
  | statement sorted =>
      cases sorted with
      | call => trivial
      | assign => trivial
      | stream => trivial
      | conditional position sortedCondition sortedThen sortedElse =>
          exact ⟨sortedCondition.not_blank,
            fun statement member => (sortedThen statement member).not_blank,
            fun statement member => (sortedElse statement member).not_blank⟩
  | item sorted =>
      cases sorted with
      | group sortedGroup => cases sortedGroup; trivial
      | moduleBlock => trivial
      | record => trivial
      | event name position sortedPrecondition sortedEffects =>
          exact ⟨sortedPrecondition.hole_of_blank,
            fun effect member => (sortedEffects effect member).not_blank⟩

theorem Sorted.flat (sorted : Sorted node) : node.Flat := by
  cases sorted with
  | expression sorted => cases sorted <;> trivial
  | statement sorted => cases sorted <;> trivial
  | program sorted => cases sorted; trivial
  | item sorted =>
      cases sorted with
      | group sortedGroup => cases sortedGroup; trivial
      | moduleBlock => trivial
      | record => trivial
      | event => trivial
  | variableDecl sorted =>
      cases sorted with
      | decl name typeName isRecord dims position sortedInitial =>
          exact fun inner member => (sortedInitial.all_below inner member).not_decl

end Places

namespace Rules

theorem resolves_iff_resolve {env : Environment} {node : Node} :
    Resolves env node ↔ ∀ text, node.referenceText? = some text →
      ∃ resolution, env.resolve text = .ok resolution := by
  simp only [Environment.resolves_iff]
  cases node with
  | stream channel position => cases channel <;> simp [Resolves, Node.referenceText?]
  | _ => simp [Resolves, Node.referenceText?]

theorem typeKnown_decl_iff {name typeName : String} {isRecord : Bool} {dims : Int}
    {initial : Node} {position : Option Position} :
    (Node.decl name typeName isRecord dims initial position).TypeKnown ↔
      isRecord = true ∨ typeName ∈ Ty.primitiveNames := by
  cases isRecord with
  | true => simp [Node.TypeKnown, declaredType]
  | false =>
      by_cases primitive : typeName ∈ Ty.primitiveNames
      · simp [Node.TypeKnown, declaredType, primitive]
      · simp [Node.TypeKnown, declaredType, primitive]

theorem not_namesUnknownType_iff {program : Node} :
    ¬ NamesUnknownType program ↔ ∀ node ∈ program.preorder, node.TypeKnown := by
  constructor
  · intro known node member
    cases declares : node.isDecl with
    | false => exact Node.typeKnown_of_not_decl declares
    | true =>
        cases node with
        | decl name typeName isRecord dims initial position =>
            rw [typeKnown_decl_iff]
            cases isRecord with
            | true => exact .inl rfl
            | false =>
                refine .inr (Decidable.byContradiction fun unknown => known ?_)
                exact ⟨name, typeName, dims, initial, position, member, unknown⟩
        | _ => cases declares
  · rintro known ⟨name, typeName, dims, initial, position, member, unknown⟩
    rcases typeKnown_decl_iff.mp (known _ member) with custom | primitive
    · cases custom
    · exact unknown primitive

end Rules

namespace WriteAccess

open Rules Pass

variable {env : Environment}

theorem isOwnIdentity_iff {value : Node} :
    value.isOwnIdentity = true ↔
      ∃ text position, value = .constant .pid text position false := by
  constructor
  · intro own
    unfold Node.isOwnIdentity at own
    split at own
    · rename_i text position parenthesised
      simp only [Bool.not_eq_true'] at own
      exact ⟨text, position, by rw [own]⟩
    · cases own
  · rintro ⟨text, position, rfl⟩
    rfl

theorem writtenType_ne_stream_iff {indexed : Bool} {type : Ty} :
    writtenType indexed type ≠ .stream ↔
      type ≠ .stream ∧ (indexed = true → type ≠ .array .stream) := by
  cases type with
  | array inner =>
      cases indexed with
      | true => simp [writtenType, Ty.stream]
      | false => simp [writtenType, Ty.stream]
  | primitive name => simp [writtenType]
  | record name => simp [writtenType]
  | unknown => simp [writtenType]

theorem findings_violation_eq_nil_iff {broken : Prop} [Decidable broken] (text target : String)
    (finding : Finding) :
    Entry.findings (if broken then violation text target finding else []) = [] ↔ ¬ broken := by
  by_cases holds : broken
  · simp [holds, violation]
  · simp [holds]

theorem findings_violations_eq_nil_iff (site : Node) (target : String) (indexed : Bool)
    (value : Node) (resolution : Resolution) :
    Entry.findings (violations site target indexed value resolution) = [] ↔
      resolution.symbol.scope ≠ .sensor ∧
        (resolution.type ≠ .stream ∧ (indexed = true → resolution.type ≠ .array .stream)) ∧
        (resolution.symbol.scope = .allRead →
          ∃ text position, value = .constant .pid text position false) := by
  have sensor : resolution.symbol.scope.writePolicy = .readOnly ↔
      resolution.symbol.scope = .sensor := by
    cases resolution.symbol.scope <;> simp [Scope.writePolicy]
  have allRead : resolution.symbol.scope.writePolicy = .ownIdentity ↔
      resolution.symbol.scope = .allRead := by
    cases resolution.symbol.scope <;> simp [Scope.writePolicy]
  rw [violations, Entry.findings_append, Entry.findings_append, List.append_eq_nil_iff,
    List.append_eq_nil_iff, findings_violation_eq_nil_iff, findings_violation_eq_nil_iff,
    findings_violation_eq_nil_iff, ← writtenType_ne_stream_iff, ← isOwnIdentity_iff, sensor]
  simp [allRead, and_assoc]

theorem checkNode_yields {node : Node}
    (resolved : ∀ text, node.referenceText? = some text →
      ∃ resolution, env.resolve text = .ok resolution) :
    (checkNode env node).Yields () (PermittedWrite env node) := by
  cases node with
  | assign target index value position =>
      obtain ⟨resolution, found⟩ := resolved target rfl
      rw [checkNode, found]
      refine ⟨rfl, (findings_violations_eq_nil_iff _ _ _ _ _).trans ?_⟩
      rw [Node.not_isHole_iff]
      constructor
      · intro permitted symbol fields type refers
        have same := (@Environment.resolve_eq_ok_iff env target ⟨symbol, type, fields⟩).mpr refers
        rw [found] at same
        cases same
        exact permitted
      · intro permitted
        exact permitted _ _ _ (Environment.resolve_eq_ok_iff.mp found)
  | _ => exact yields_pure ()

theorem checkNodes_eq_forM (nodes : List Node) :
    checkNodes env nodes = forM nodes (checkNode env) := by
  induction nodes with
  | nil => rfl
  | cons node rest ih => rw [checkNodes, List.forM_cons, ih]

theorem check_yields {program : Node} (present : program.isBlank = false)
    (resolved : ∀ node ∈ program.preorder, ∀ text, node.referenceText? = some text →
      ∃ resolution, env.resolve text = .ok resolution) :
    (check env program).Yields () (∀ node ∈ program.preorder, PermittedWrite env node) := by
  rw [check, present, checkNodes_eq_forM]
  exact yields_forM fun node member => checkNode_yields (resolved node member)

end WriteAccess

/-- The findings of the three passes over what a program declares say whether it resolves, is
well-typed and writes only where it may. -/
theorem passes_quiet_iff {env : Environment} {program : Node} (sorted : WellSorted program)
    (known : ∀ node ∈ program.preorder, node.TypeKnown) :
    (Entry.findings (References.check env program).emitted = [] ∧
        Entry.findings (Typing.check env program).emitted = [] ∧
        Entry.findings (WriteAccess.check env program).emitted = []) ↔
      (∀ node ∈ program.preorder, Rules.Resolves env node) ∧
        (∀ node ∈ program.preorder, Rules.WellTyped env node) ∧
        ∀ node ∈ program.preorder, Rules.PermittedWrite env node := by
  have present := sorted.not_blank
  rw [References.findings_check_eq_nil_iff present, Typing.check_eq_inference sorted]
  have resolves : Inference.Resolved env program.preorder ↔
      ∀ node ∈ program.preorder, Rules.Resolves env node := by
    simp only [Inference.Resolved, Rules.resolves_iff_resolve]
  rw [← resolves]
  apply and_congr_right
  intro resolved
  rw [(Inference.check_yields sorted known resolved).findings,
    (WriteAccess.check_yields present resolved).findings]
  rfl

/-- On a well-sorted program whose types are known the phases run to an end, with a valid table
exactly when the program follows the rules. -/
theorem Analyzer.phases_decide_by_rules (policy : RedefinitionPolicy) {program : Node}
    (sorted : WellSorted program) (known : ∀ node ∈ program.preorder, node.TypeKnown) :
    Decides policy program Phase.all .empty (Rules.Acceptable policy program) := by
  obtain ⟨worked, quiet, built⟩ := @Phase.build_spec policy program sorted known
  have filled := fun node member => (sorted.all_below node member).filled
  -- A quiet build leaves just what the program declares, so the later phases look at that.
  have later := @later_phases_decide policy program ⟨.empty, Rules.environment program⟩
    sorted.not_blank known filled rfl
  have decided := decides_cons SymbolTable.clean_empty worked fun silent => by
    rw [built (quiet.mp silent)]
    exact later
  refine decided.of_iff ?_
  rw [quiet, passes_quiet_iff sorted known]
  constructor
  · rintro ⟨distinct, resolved, typed, permitted⟩
    exact ⟨distinct, resolved, typed, permitted⟩
  · rintro ⟨distinct, resolved, typed, permitted⟩
    exact ⟨distinct, resolved, typed, permitted⟩

/-- The analysis of a well-sorted program ends in a fault exactly when a declaration names an
unknown type. Otherwise it returns a table, which is valid exactly when the program follows the
rules of the language. -/
theorem analysis_accepts_exactly_by_rules (settings : Settings) {program : Node}
    (sorted : WellSorted program) :
    ((∃ fault, (analyze settings program).outcome = .error fault) ↔
      Rules.NamesUnknownType program) ∧
    (¬ Rules.NamesUnknownType program →
      ∃ table, (analyze settings program).outcome = .ok table ∧
        (table.isValid = true ↔ Rules.Acceptable settings.recordRedefinition program)) := by
  have named : ∃ name, program.name? = some name := by
    cases sorted
    exact ⟨_, rfl⟩
  obtain ⟨name, named⟩ := named
  rw [Analyzer.outcome_analyze, named]
  have accepts (known : ¬ Rules.NamesUnknownType program) :
      ∃ table, (Analyzer.runPhases settings.recordRedefinition program Phase.all .empty).outcome =
          .ok table ∧
        (table.isValid = true ↔ Rules.Acceptable settings.recordRedefinition program) := by
    rw [Rules.not_namesUnknownType_iff] at known
    exact Analyzer.phases_decide_by_rules settings.recordRedefinition sorted known
  refine ⟨⟨?_, ?_⟩, accepts⟩
  · rintro ⟨fault, failed⟩
    apply Classical.byContradiction
    intro known
    obtain ⟨table, returned, _⟩ := accepts known
    rw [returned] at failed
    cases failed
  · intro unknown
    cases ended :
        (Analyzer.runPhases settings.recordRedefinition program Phase.all .empty).outcome with
    | error fault => exact ⟨fault, rfl⟩
    | ok table =>
        have flat := fun node member => (sorted.all_below node member).flat
        have known := Phase.typesKnown_of_build sorted.not_blank flat
          (Analyzer.work_returned ended)
        exact absurd unknown (Rules.not_namesUnknownType_iff.mpr known)

/-- A record that is defined twice, a variable of its type whose field is written, and an array
that all agents read, of which an element is written. The field is one of the second definition
only. -/
def redefinedRecord : Node :=
  .program "Swarm"
    [.record "Pose" [.decl "x" "int" false 0 .hole none] none,
      .record "Pose" [.decl "heading" "float" false 0 .hole none] none,
      .moduleBlock "Motion"
        [.group .actuators [.decl "goal" "Pose" true 0 .hole none] none] none,
      .group .allRead [.decl "owner" "int" false 1 .hole none] none,
      .event "Step" .hole
        [.assign "Motion.goal.heading" .hole (.constant .float "0.5" none false) none,
          .assign "owner" (.constant .int "0" none false) (.constant .pid "pid" none false) none]
        none] none

theorem redefinedRecord_sorted : WellSorted redefinedRecord := by
  have plain (name typeName : String) (isRecord : Bool) (dims : Int) :
      ∀ entry ∈ [Node.decl name typeName isRecord dims .hole none], VariableDecl entry := by
    intro entry member
    rw [List.mem_singleton.mp member]
    exact .decl _ _ _ _ _ (.inl rfl)
  refine .program _ _ ?_
  intro item member
  simp only [List.mem_cons, List.not_mem_nil, or_false] at member
  rcases member with rfl | rfl | rfl | rfl | rfl
  · exact .record _ _ (plain _ _ _ _)
  · exact .record _ _ (plain _ _ _ _)
  · refine .moduleBlock _ _ ?_
    intro entry member
    rw [List.mem_singleton.mp member]
    exact .group _ _ (plain _ _ _ _)
  · exact .group (.group _ _ (plain _ _ _ _))
  · refine .event _ _ (.inl rfl) ?_
    intro effect member
    simp only [List.mem_cons, List.not_mem_nil, or_false] at member
    rcases member with rfl | rfl
    · exact .assign _ _ (.inl rfl) (.constant _ _ _ _)
    · exact .assign _ _ (.inr (.constant _ _ _ _)) (.constant _ _ _ _)

theorem redefinedRecord_acceptable_by_replacement :
    WellSorted redefinedRecord ∧ ¬ Rules.NamesUnknownType redefinedRecord ∧
      Rules.Acceptable .replace redefinedRecord ∧ ¬ Rules.Acceptable .reject redefinedRecord := by
  have known : ¬ Rules.NamesUnknownType redefinedRecord := by
    rw [Rules.not_namesUnknownType_iff]
    simp [redefinedRecord, Node.preorder, Node.preorderIn, Node.isBlank, Node.TypeKnown,
      declaredType, Ty.primitiveNames]
  obtain ⟨table, returned, valid⟩ := (analysis_accepts_exactly_by_rules
    { recordRedefinition := .replace } redefinedRecord_sorted).2 known
  obtain ⟨rejected, stopped, invalid⟩ := (analysis_accepts_exactly_by_rules
    { recordRedefinition := .reject } redefinedRecord_sorted).2 known
  have passes : (analyze { recordRedefinition := .replace } redefinedRecord).outcome.map
      (·.isValid) = .ok true := by rfl
  have fails : (analyze { recordRedefinition := .reject } redefinedRecord).outcome.map
      (·.isValid) = .ok false := by rfl
  rw [returned] at passes
  rw [stopped] at fails
  have refused : rejected.isValid = false := Except.ok.inj fails
  refine ⟨redefinedRecord_sorted, known, valid.mp (Except.ok.inj passes), ?_⟩
  intro acceptable
  rw [invalid.mpr acceptable] at refused
  cases refused

end SwarmCheck
