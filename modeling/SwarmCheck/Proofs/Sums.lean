import Mathlib.Data.List.Forall2
import SwarmCheck.Proofs.TypeRules

/-!
# The type of a sum

A sum of several operands is a tree of additions, and there are many ways to bracket it. An addition
lets unknown operands through, joins texts, and goes by its left operand otherwise, also after it
has reported that its operands differ. Taken together these rules give a type that depends on the
operands and their order, but not on the brackets: an inner addition never hides an unknown operand
or a text from the outer ones.
-/

namespace SwarmCheck

set_option autoImplicit false

/-- A node adds up operands, in their order and with whatever brackets. -/
inductive SumOf : List Node → Node → Prop
  | operand (node : Node) : SumOf [node] node
  | add {first second : List Node} {left right : Node} (position : Option Position)
      (leftSum : SumOf first left) (rightSum : SumOf second right) :
      SumOf (first ++ second) (.binary "+" left right position)

namespace Rules

/-- The type of a sum of operands: unknown if one of them is unknown, otherwise a text if one of
them is a text, and otherwise the type of the first. -/
def sumType (types : List Ty) : Ty :=
  if .unknown ∈ types then .unknown
  else if .primitive "string" ∈ types then .primitive "string"
  else types.headD .unknown

section SumType

variable {types : List Ty}

theorem headD_mem (filled : types ≠ []) : types.headD .unknown ∈ types := by
  cases types with
  | nil => exact absurd rfl filled
  | cons type rest => exact List.mem_cons_self

theorem sumType_eq_unknown_iff (filled : types ≠ []) :
    sumType types = .unknown ↔ .unknown ∈ types := by
  have member := headD_mem filled
  by_cases unknown : .unknown ∈ types
  · simp [sumType, unknown]
  · have known : types.headD .unknown ≠ .unknown := fun same => unknown (same ▸ member)
    have text : Ty.primitive "string" ≠ .unknown := by decide
    by_cases joined : .primitive "string" ∈ types
    · simp only [sumType, unknown, joined, if_true, if_false, text]
    · simp only [sumType, unknown, joined, if_false, known]

theorem sumType_eq_string_iff (filled : types ≠ []) (known : .unknown ∉ types) :
    sumType types = .primitive "string" ↔ .primitive "string" ∈ types := by
  have member := headD_mem filled
  by_cases joined : .primitive "string" ∈ types
  · simp [sumType, known, joined]
  · have other : types.headD .unknown ≠ .primitive "string" := fun same => joined (same ▸ member)
    simp only [sumType, known, joined, if_false, other]

end SumType

theorem operationType_sumType {first second : List Ty} (filled : first ≠ [])
    (filled' : second ≠ []) :
    operationType "+" (sumType first) (sumType second) = sumType (first ++ second) := by
  by_cases unknown : .unknown ∈ first ++ second
  · have passed : sumType first = .unknown ∨ sumType second = .unknown := by
      rw [sumType_eq_unknown_iff filled, sumType_eq_unknown_iff filled']
      exact List.mem_append.mp unknown
    rw [operationType, if_pos passed, sumType, if_pos unknown]
  · have known := unknown
    rw [List.mem_append, not_or] at known
    have kept : ¬ (sumType first = .unknown ∨ sumType second = .unknown) := by
      rw [sumType_eq_unknown_iff filled, sumType_eq_unknown_iff filled', not_or]
      exact known
    have texts :
        sumType first = .primitive "string" ∨ sumType second = .primitive "string" ↔
          .primitive "string" ∈ first ++ second := by
      rw [sumType_eq_string_iff filled known.1, sumType_eq_string_iff filled' known.2,
        List.mem_append]
    rw [operationType, if_neg kept]
    by_cases joined : .primitive "string" ∈ first ++ second
    · rw [if_pos ⟨rfl, texts.mpr joined⟩, sumType, if_neg unknown, if_pos joined]
    · have apart := joined
      rw [List.mem_append, not_or] at apart
      rw [if_neg fun holds => joined (texts.mp holds.2), sumType, if_neg known.1, if_neg apart.1,
        sumType, if_neg unknown, if_neg joined]
      cases first with
      | nil => exact absurd rfl filled
      | cons type rest => rfl

end Rules

namespace Typing

open Inference Rules

/-- Visiting a node pushes a type onto whatever stack there is. -/
def Pushes (env : Environment) (node : Node) (type : Ty) : Prop :=
  ∀ stack, (visit env stack node).outcome = .ok (type :: stack)

theorem pushes_of_hasType {env : Environment} {node : Node} {type : Ty} (sorted : Expression node)
    (resolved : Resolved env node.preorder) (typed : HasType env node type) :
    Pushes env node type := by
  intro stack
  obtain ⟨inferred, same, yields⟩ := infer_yields sorted resolved
  rw [visit_expression sorted, Trail.outcome_bind_of_ok yields.outcome, same.unique typed]
  rfl

theorem Pushes.unique {env : Environment} {node : Node} {type other : Ty}
    (pushes : Pushes env node type) (pushesOther : Pushes env node other) : type = other := by
  have same := (pushes []).symm.trans (pushesOther [])
  cases same
  rfl

end Typing

namespace SumOf

open Inference Rules Typing

variable {operands : List Node} {node : Node}

theorem ne_nil (sum : SumOf operands node) : operands ≠ [] := by
  induction sum with
  | operand node => simp
  | add position leftSum rightSum leftIh rightIh => simp [leftIh]

theorem expression (sum : SumOf operands node)
    (sorted : ∀ operand ∈ operands, Expression operand) : Expression node := by
  induction sum with
  | operand node => exact sorted node List.mem_cons_self
  | add position leftSum rightSum leftIh rightIh =>
      rw [List.forall_mem_append] at sorted
      exact .binary "+" position (leftIh sorted.1) (rightIh sorted.2)

theorem resolved {env : Environment} (sum : SumOf operands node)
    (each : ∀ operand ∈ operands, Resolved env operand.preorder) : Resolved env node.preorder := by
  induction sum with
  | operand node => exact each node List.mem_cons_self
  | add position leftSum rightSum leftIh rightIh =>
      rw [List.forall_mem_append] at each
      rw [Node.preorder, resolved_cons, resolved_append]
      refine ⟨?_, leftIh each.1, rightIh each.2⟩
      intro text mentioned
      cases mentioned

/-- By induction on the brackets: each addition sees the types of the sums on its two sides. -/
theorem hasType {env : Environment} {types : Node → Ty} (sum : SumOf operands node)
    (typed : ∀ operand ∈ operands, HasType env operand (types operand)) :
    HasType env node (sumType (operands.map types)) := by
  induction sum with
  | operand node =>
      have same : sumType [types node] = types node := by
        by_cases unknown : types node = .unknown
        · simp [sumType, unknown]
        · by_cases joined : types node = .primitive "string"
          · simp [sumType, joined]
          · simp [sumType, Ne.symm unknown, Ne.symm joined]
      rw [List.map_singleton, same]
      exact typed node List.mem_cons_self
  | add position leftSum rightSum leftIh rightIh =>
      rw [List.forall_mem_append] at typed
      rw [List.map_append, ← operationType_sumType]
      · exact .binary "+" position (leftIh typed.1) (rightIh typed.2)
      · simp [leftSum.ne_nil]
      · simp [rightSum.ne_nil]

end SumOf

open Typing in
/-- For all operands whose references resolve in a table: each operand pushes one type, and every
sum of them pushes the type that `Rules.sumType` gives for the types of the operands, whatever the
brackets and whatever is reported on the way. So the brackets make no difference to what is pushed.
-/
theorem sum_type_ignores_brackets (table : SymbolTable) {operands : List Node}
    (sorted : ∀ operand ∈ operands, Expression operand)
    (resolved : ∀ operand ∈ operands, Inference.Resolved table.env operand.preorder) :
    ∃ types, List.Forall₂ (Pushes table.env) operands types ∧
      (∀ node, SumOf operands node → Pushes table.env node (Rules.sumType types)) ∧
      ∀ node other, SumOf operands node → SumOf operands other →
        ∀ type, Pushes table.env node type ↔ Pushes table.env other type := by
  have each (operand : Node) : ∃ type, operand ∈ operands →
      Rules.HasType table.env operand type := by
    by_cases member : operand ∈ operands
    · obtain ⟨type, typed, _⟩ :=
        Inference.infer_yields (sorted operand member) (resolved operand member)
      exact ⟨type, fun _ => typed⟩
    · exact ⟨.unknown, fun present => absurd present member⟩
  choose types typed using each
  have pushed (node : Node) (sum : SumOf operands node) :
      Pushes table.env node (Rules.sumType (operands.map types)) :=
    pushes_of_hasType (sum.expression sorted) (sum.resolved resolved) (sum.hasType typed)
  refine ⟨operands.map types, ?_, pushed, ?_⟩
  · rw [List.forall₂_map_right_iff, List.forall₂_same]
    intro operand member
    exact pushes_of_hasType (sorted operand member) (resolved operand member)
      (typed operand member)
  · intro node other sum otherSum type
    constructor
    · intro pushes
      rw [pushes.unique (pushed node sum)]
      exact pushed other otherSum
    · intro pushes
      rw [pushes.unique (pushed other otherSum)]
      exact pushed node sum

def mixedOperands : List Node :=
  [.constant .int "1" none false, .constant .float "2.5" none false, .stringLiteral "m" none]

def mixedFromLeft : Node :=
  .binary "+"
    (.binary "+" (.constant .int "1" none false) (.constant .float "2.5" none false) none)
    (.stringLiteral "m" none) none

def mixedFromRight : Node :=
  .binary "+" (.constant .int "1" none false)
    (.binary "+" (.constant .float "2.5" none false) (.stringLiteral "m" none) none) none

/-- From the left the two numbers meet and are reported; from the right they do not. Both sums are
texts. -/
theorem mixed_sums_are_texts :
    SumOf mixedOperands mixedFromLeft ∧ SumOf mixedOperands mixedFromRight ∧
      (∀ operand ∈ mixedOperands, Expression operand) ∧
      (∀ type, Typing.Pushes .empty mixedFromLeft type ↔
        Typing.Pushes .empty mixedFromRight type) ∧
      Typing.Pushes .empty mixedFromLeft .string ∧
      (Entry.findings (Typing.visit .empty [] mixedFromLeft).emitted).length = 1 ∧
      (Entry.findings (Typing.visit .empty [] mixedFromRight).emitted).length = 0 := by
  have fromLeft : SumOf mixedOperands mixedFromLeft :=
    .add none (.add none (.operand _) (.operand _)) (.operand _)
  have fromRight : SumOf mixedOperands mixedFromRight :=
    .add none (.operand _) (.add none (.operand _) (.operand _))
  have sorted : ∀ operand ∈ mixedOperands, Expression operand := by
    simp only [mixedOperands, List.forall_mem_cons]
    exact ⟨.constant .., .constant .., .stringLiteral .., List.forall_mem_nil _⟩
  have resolved : ∀ operand ∈ mixedOperands,
      Inference.Resolved SymbolTable.empty.env operand.preorder := by
    simp only [mixedOperands, List.forall_mem_cons, Node.preorder, Inference.Resolved,
      Node.referenceText?]
    simp
  obtain ⟨types, _, _, same⟩ := sum_type_ignores_brackets .empty sorted resolved
  exact ⟨fromLeft, fromRight, sorted, same _ _ fromLeft fromRight, fun _ => rfl, rfl, rfl⟩

end SwarmCheck
