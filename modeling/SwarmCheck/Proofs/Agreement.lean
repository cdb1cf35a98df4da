import SwarmCheck.Analysis.Phase
import SwarmCheck.Proofs.Trees

/-!
# Environments that agree

Two environments are alike if every name stands for a variable of the same name, type and scope in
both and every record name for the same fields, in whatever order these were entered and wherever
the variables were declared. The passes after the build ask nothing else of an environment: what
they list, and the fault that ends them, are the same in both. Names are only ever enumerated in
sorted order, which does not depend on the order of entry. Environments agree if they have the very
same symbols.
-/

namespace SwarmCheck

set_option autoImplicit false

def Symbol.unplaced (symbol : Symbol) : Symbol := { symbol with definedAt := .hole }

def Resolution.unplaced (resolution : Resolution) : Resolution :=
  { resolution with symbol := resolution.symbol.unplaced }

namespace Environment

structure Agrees (left right : Environment) : Prop where
  lookup : ∀ name, left.lookup? name = right.lookup? name
  fields : ∀ name, (left.registry.fieldsOf? name).map OrderedMap.get? =
    (right.registry.fieldsOf? name).map OrderedMap.get?

structure Alike (left right : Environment) : Prop where
  lookup : ∀ name,
    (left.lookup? name).map Symbol.unplaced = (right.lookup? name).map Symbol.unplaced
  fields : ∀ name, (left.registry.fieldsOf? name).map OrderedMap.get? =
    (right.registry.fieldsOf? name).map OrderedMap.get?

theorem Agrees.alike {left right : Environment} (agrees : left.Agrees right) :
    left.Alike right :=
  ⟨fun name => by rw [agrees.lookup], agrees.fields⟩

theorem sortedNames_ordered (env : Environment) : env.sortedNames.Pairwise (· ≤ ·) := by
  have paired := @List.pairwise_mergeSort String (fun one other => decide (one ≤ other))
    (fun one two three => by simpa using String.le_trans)
    (fun one two => by simpa using String.le_total one two) env.symbols.keys
  exact paired.imp fun ordered => by simpa using ordered

theorem mem_sortedNames {env : Environment} {name : String} :
    name ∈ env.sortedNames ↔ (env.lookup? name).isSome = true := by
  rw [sortedNames, List.mem_mergeSort]
  exact OrderedMap.contains_iff_mem_keys.symm

end Environment

namespace Environment.Alike

variable {left right : Environment} (alike : left.Alike right)

include alike

section Resolving

theorem step (type : Ty) (field : String) :
    left.registry.step type field = right.registry.step type field := by
  cases type with
  | record name =>
      have same := alike.fields name
      rw [Registry.step, Registry.step]
      cases leftFound : left.registry.fieldsOf? name with
      | none =>
          rw [leftFound, Option.map_none] at same
          rw [Option.map_eq_none_iff.mp same.symm]
      | some leftFields =>
          rw [leftFound, Option.map_some] at same
          obtain ⟨rightFields, rightFound, sameFields⟩ := Option.map_eq_some_iff.mp same.symm
          rw [rightFound]
          simp only [sameFields]
  | _ => rfl

theorem walk (type : Ty) (fields : List String) :
    left.registry.walk type fields = right.registry.walk type fields := by
  induction fields generalizing type with
  | nil => rfl
  | cons field rest ih =>
      rw [Registry.walk, Registry.walk, alike.step]
      cases right.registry.step type field with
      | error cause => rfl
      | ok next => exact ih next

theorem lookup_cases (name : String) :
    (left.lookup? name = none ∧ right.lookup? name = none) ∨
      ∃ symbol other, left.lookup? name = some symbol ∧ right.lookup? name = some other ∧
        symbol.unplaced = other.unplaced := by
  have same := alike.lookup name
  cases found : left.lookup? name with
  | none =>
      rw [found, Option.map_none] at same
      exact .inl ⟨rfl, Option.map_eq_none_iff.mp same.symm⟩
  | some symbol =>
      rw [found, Option.map_some] at same
      obtain ⟨other, otherFound, unplaced⟩ := Option.map_eq_some_iff.mp same.symm
      exact .inr ⟨symbol, other, rfl, otherFound, unplaced.symm⟩

theorem root_cases (segments : List String) (length : Nat) :
    (left.root? segments length = none ∧ right.root? segments length = none) ∨
      ∃ symbol other used, left.root? segments length = some (symbol, used) ∧
        right.root? segments length = some (other, used) ∧ symbol.unplaced = other.unplaced := by
  induction length with
  | zero => exact .inl ⟨rfl, rfl⟩
  | succ length ih =>
      rw [Environment.root?, Environment.root?]
      rcases alike.lookup_cases (Text.joinDots (segments.take (length + 1))) with
        ⟨unknown, otherUnknown⟩ | ⟨symbol, other, found, otherFound, same⟩
      · rw [unknown, otherUnknown]
        exact ih
      · rw [found, otherFound]
        exact .inr ⟨symbol, other, length + 1, rfl, rfl, same⟩

/-- A text resolves alike in environments that are alike, also in why it does not. -/
theorem resolve (text : String) :
    (left.resolve text).map Resolution.unplaced = (right.resolve text).map Resolution.unplaced := by
  have sameType {symbol other : Symbol} (same : symbol.unplaced = other.unplaced) :
      symbol.type = other.type := by
    have type : symbol.unplaced.type = other.unplaced.type := by rw [same]
    exact type
  rw [Environment.resolve, Environment.resolve]
  rcases alike.lookup_cases text with
    ⟨unknown, otherUnknown⟩ | ⟨symbol, other, found, otherFound, same⟩
  · rw [unknown, otherUnknown]
    rcases alike.root_cases (Text.segments text) (Text.segments text).length with
      ⟨noRoot, otherNoRoot⟩ | ⟨symbol, other, used, rooted, otherRooted, same⟩
    · simp only [noRoot, otherNoRoot]
    · simp only [rooted, otherRooted, sameType same, alike.walk]
      cases right.registry.walk other.type ((Text.segments text).drop used) with
      | error cause => rfl
      | ok type => simp only [Except.map, Resolution.unplaced, same]
  · rw [found, otherFound]
    simp only [Except.map, Resolution.unplaced, same, sameType same]

theorem resolve_cases (text : String) :
    (∃ cause, left.resolve text = .error cause ∧ right.resolve text = .error cause) ∨
      ∃ resolution other, left.resolve text = .ok resolution ∧ right.resolve text = .ok other ∧
        resolution.type = other.type ∧ resolution.symbol.scope = other.symbol.scope := by
  have same := alike.resolve text
  cases found : left.resolve text with
  | error cause =>
      cases otherFound : right.resolve text with
      | error otherCause =>
          rw [found, otherFound] at same
          exact .inl ⟨cause, rfl, congrArg Except.error (Except.error.inj same).symm⟩
      | ok other =>
          rw [found, otherFound] at same
          cases same
  | ok resolution =>
      cases otherFound : right.resolve text with
      | error otherCause =>
          rw [found, otherFound] at same
          cases same
      | ok other =>
          rw [found, otherFound] at same
          have unplaced := Except.ok.inj same
          have type : resolution.unplaced.type = other.unplaced.type := by rw [unplaced]
          have scope : resolution.unplaced.symbol.scope = other.unplaced.symbol.scope := by
            rw [unplaced]
          exact .inr ⟨resolution, other, rfl, rfl, type, scope⟩

end Resolving

section Enumerating

theorem contains (name : String) :
    left.symbols.contains name = right.symbols.contains name := by
  have same := congrArg Option.isSome (alike.lookup name)
  rw [Option.isSome_map, Option.isSome_map] at same
  exact same

theorem keys_perm : left.symbols.keys.Perm right.symbols.keys := by
  apply (List.perm_ext_iff_of_nodup left.symbols.distinct right.symbols.distinct).mpr
  intro name
  rw [← OrderedMap.keys, ← OrderedMap.keys, ← OrderedMap.contains_iff_mem_keys,
    ← OrderedMap.contains_iff_mem_keys, alike.contains]

/-- Sorting forgets the order in which names were entered. -/
theorem sortedNames : left.sortedNames = right.sortedNames := by
  have reordered : left.sortedNames.Perm right.sortedNames :=
    ((List.mergeSort_perm _ _).trans alike.keys_perm).trans (List.mergeSort_perm _ _).symm
  exact reordered.eq_of_pairwise (fun _ _ _ _ => String.le_antisymm) left.sortedNames_ordered
    right.sortedNames_ordered

theorem dump : left.dump = right.dump := by
  have text (name : String) :
      (left.lookup? name).map Symbol.text = (right.lookup? name).map Symbol.text := by
    have same := congrArg (Option.map Symbol.text) (alike.lookup name)
    rw [Option.map_map, Option.map_map] at same
    exact same
  simp only [Environment.dump, alike.sortedNames, text]

end Enumerating

section Passes

theorem references_check (program : Node) :
    References.check left program = References.check right program := by
  have entries : References.entriesAt left = References.entriesAt right := by
    funext node
    rw [References.entriesAt, References.entriesAt]
    cases node.referenceText? with
    | none => rfl
    | some text =>
        simp only [References.suggestion?, References.similar?, alike.sortedNames]
        rcases alike.resolve_cases text with
          ⟨cause, found, otherFound⟩ | ⟨resolution, other, found, otherFound, _⟩
        · rw [found, otherFound]
        · rw [found, otherFound]
  simp only [References.check, entries]

theorem writeAccess_check (program : Node) :
    WriteAccess.check left program = WriteAccess.check right program := by
  have node (site : Node) : WriteAccess.checkNode left site = WriteAccess.checkNode right site := by
    cases site with
    | assign target index value position =>
        rw [WriteAccess.checkNode, WriteAccess.checkNode]
        rcases alike.resolve_cases target with
          ⟨cause, found, otherFound⟩ | ⟨resolution, other, found, otherFound, type, scope⟩
        · rw [found, otherFound]
        · simp only [found, otherFound, WriteAccess.violations, type, scope]
    | _ => rfl
  have nodes (sites : List Node) :
      WriteAccess.checkNodes left sites = WriteAccess.checkNodes right sites := by
    induction sites with
    | nil => rfl
    | cons site rest ih => rw [WriteAccess.checkNodes, WriteAccess.checkNodes, node, ih]
  simp only [WriteAccess.check, nodes]

open Typing

theorem typeOf (text : String) : Typing.typeOf left text = Typing.typeOf right text := by
  rw [Typing.typeOf, Typing.typeOf]
  rcases alike.resolve_cases text with
    ⟨cause, found, otherFound⟩ | ⟨resolution, other, found, otherFound, type, _⟩
  · rw [found, otherFound]
  · simp only [found, otherFound, type]

theorem checkStream (site : Node) (channel : Option String) :
    Typing.checkStream left site channel = Typing.checkStream right site channel := by
  cases channel with
  | none => rfl
  | some channel => rw [Typing.checkStream, Typing.checkStream, alike.typeOf]

omit alike in
theorem visitIn_of_each {nodes : List Node}
    (each : ∀ node ∈ nodes, ∀ stack, visit left stack node = visit right stack node)
    (stack : Operands) : visitIn left stack nodes = visitIn right stack nodes := by
  induction nodes generalizing stack with
  | nil => rfl
  | cons node rest ih =>
      have later := ih fun other member => each other (by simp [member])
      simp only [visitIn, each node (by simp), later]

omit alike in
theorem visitStatements_of_each {nodes : List Node}
    (each : ∀ node ∈ nodes, ∀ stack, visit left stack node = visit right stack node)
    (stack : Operands) : visitStatements left stack nodes = visitStatements right stack nodes := by
  induction nodes generalizing stack with
  | nil => rfl
  | cons node rest ih =>
      have later := ih fun other member => each other (by simp [member])
      simp only [visitStatements, each node (by simp), later]

theorem visit (node : Node) (stack : Operands) :
    Typing.visit left stack node = Typing.visit right stack node := by
  induction node generalizing stack with
  | hole => rfl
  | stray found => rfl
  | otherwise statements ih => rfl
  | constant kind text position parenthesised => rfl
  | stringLiteral value position => rfl
  | bundle serial parts ih => simp only [Typing.visit, visitIn_of_each ih]
  | reference name index position ih =>
      simp only [Typing.visit, leaveReference, ih, alike.typeOf]
  | call name args position ih => simp only [Typing.visit, visitIn_of_each ih]
  | binary op first second position firstIh secondIh =>
      simp only [Typing.visit, firstIh, secondIh]
  | logical op operands position ih => simp only [Typing.visit, visitIn_of_each ih]
  | flag name position => simp only [Typing.visit, alike.typeOf]
  | assign target index value position indexIh valueIh =>
      simp only [Typing.visit, leaveAssign, indexIh, valueIh, alike.typeOf]
  | stream channel position => simp only [Typing.visit, alike.checkStream]
  | conditional condition thenBody elseBody position conditionIh thenIh elseIh =>
      simp only [Typing.visit, conditionIh, visitStatements_of_each thenIh,
        visitStatements_of_each elseIh]
  | decl name typeName isRecord dims initial position ih => simp only [Typing.visit, ih]
  | group kind decls position ih => simp only [Typing.visit, visitIn_of_each ih]
  | moduleBlock name groups position ih => simp only [Typing.visit, visitIn_of_each ih]
  | record name fields position ih => simp only [Typing.visit, visitIn_of_each ih]
  | event name precondition effects position preconditionIh effectsIh =>
      simp only [Typing.visit, preconditionIh, visitStatements_of_each effectsIh]
  | program name items position ih => simp only [Typing.visit, visitIn_of_each ih]

theorem typing_check (program : Node) : Typing.check left program = Typing.check right program := by
  simp only [Typing.check, alike.visit]

end Passes

end Environment.Alike

namespace Environment.Agrees

variable {left right : Environment} (agrees : left.Agrees right)

include agrees

theorem dump : left.dump = right.dump := agrees.alike.dump

theorem references_check (program : Node) :
    References.check left program = References.check right program :=
  agrees.alike.references_check program

theorem writeAccess_check (program : Node) :
    WriteAccess.check left program = WriteAccess.check right program :=
  agrees.alike.writeAccess_check program

theorem typing_check (program : Node) : Typing.check left program = Typing.check right program :=
  agrees.alike.typing_check program

end Environment.Agrees

end SwarmCheck
