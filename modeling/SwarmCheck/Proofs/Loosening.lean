import SwarmCheck.Proofs.Journal
import SwarmCheck.Proofs.Sorts
import SwarmCheck.Proofs.Trail

/-!
# Trees, types and passes that know less

A tree knows less than another if one of its expressions is a call where the other has something
else. It still has the sorts that the other has, since a call may stand wherever an expression may.
A type is known less well if it is unknown. And a pass that goes along with one that knows more ends
like it and shows nothing that the other does not. Passes that go along step by step do so as a
whole.
-/

namespace SwarmCheck

set_option autoImplicit false

/-- One expression in a tree has been replaced by a call without arguments. -/
inductive Node.Loosened : Node → Node → Prop
  | here {node : Node} (sorted : Expression node) (name : String) (position : Option Position) :
      Loosened node (.call name [] position)
  | index {inner inner' : Node} (name : String) (position : Option Position)
      (below : Loosened inner inner') :
      Loosened (.reference name inner position) (.reference name inner' position)
  | argument {inner inner' : Node} (name : String) (before after : List Node)
      (position : Option Position) (below : Loosened inner inner') :
      Loosened (.call name (before ++ inner :: after) position)
        (.call name (before ++ inner' :: after) position)
  | left {inner inner' : Node} (op : String) (right : Node)
      (position : Option Position) (below : Loosened inner inner') :
      Loosened (.binary op inner right position) (.binary op inner' right position)
  | right {inner inner' : Node} (op : String) (left : Node)
      (position : Option Position) (below : Loosened inner inner') :
      Loosened (.binary op left inner position) (.binary op left inner' position)
  | operand {inner inner' : Node} (op : String) (before after : List Node)
      (position : Option Position) (below : Loosened inner inner') :
      Loosened (.logical op (before ++ inner :: after) position)
        (.logical op (before ++ inner' :: after) position)
  | assignedIndex {inner inner' : Node} (target : String) (value : Node)
      (position : Option Position) (below : Loosened inner inner') :
      Loosened (.assign target inner value position) (.assign target inner' value position)
  | assignedValue {inner inner' : Node} (target : String) (index : Node)
      (position : Option Position) (below : Loosened inner inner') :
      Loosened (.assign target index inner position) (.assign target index inner' position)
  | condition {inner inner' : Node} (thenBody elseBody : List Node)
      (position : Option Position) (below : Loosened inner inner') :
      Loosened (.conditional inner thenBody elseBody position)
        (.conditional inner' thenBody elseBody position)
  | thenStatement {inner inner' : Node} (condition : Node)
      (before after elseBody : List Node) (position : Option Position)
      (below : Loosened inner inner') :
      Loosened (.conditional condition (before ++ inner :: after) elseBody position)
        (.conditional condition (before ++ inner' :: after) elseBody position)
  | elseStatement {inner inner' : Node} (condition : Node)
      (thenBody before after : List Node) (position : Option Position)
      (below : Loosened inner inner') :
      Loosened (.conditional condition thenBody (before ++ inner :: after) position)
        (.conditional condition thenBody (before ++ inner' :: after) position)
  | initial {inner inner' : Node} (name typeName : String) (isRecord : Bool) (dims : Int)
      (position : Option Position) (below : Loosened inner inner') :
      Loosened (.decl name typeName isRecord dims inner position)
        (.decl name typeName isRecord dims inner' position)
  | decl {inner inner' : Node} (kind : GroupKind) (before after : List Node)
      (position : Option Position) (below : Loosened inner inner') :
      Loosened (.group kind (before ++ inner :: after) position)
        (.group kind (before ++ inner' :: after) position)
  | group {inner inner' : Node} (name : String) (before after : List Node)
      (position : Option Position) (below : Loosened inner inner') :
      Loosened (.moduleBlock name (before ++ inner :: after) position)
        (.moduleBlock name (before ++ inner' :: after) position)
  | field {inner inner' : Node} (name : String) (before after : List Node)
      (position : Option Position) (below : Loosened inner inner') :
      Loosened (.record name (before ++ inner :: after) position)
        (.record name (before ++ inner' :: after) position)
  | precondition {inner inner' : Node} (name : String) (effects : List Node)
      (position : Option Position) (below : Loosened inner inner') :
      Loosened (.event name inner effects position) (.event name inner' effects position)
  | effect {inner inner' : Node} (name : String) (precondition : Node)
      (before after : List Node) (position : Option Position)
      (below : Loosened inner inner') :
      Loosened (.event name precondition (before ++ inner :: after) position)
        (.event name precondition (before ++ inner' :: after) position)
  | item {inner inner' : Node} (name : String) (before after : List Node)
      (position : Option Position) (below : Loosened inner inner') :
      Loosened (.program name (before ++ inner :: after) position)
        (.program name (before ++ inner' :: after) position)

/-- One type is known less well than another: not at all, if they differ. -/
def Ty.Looser (loose strict : Ty) : Prop := loose = .unknown ∨ loose = strict

theorem Ty.looser_refl (type : Ty) : Looser type type := .inr rfl

section Sorts

variable {node node' : Node}

theorem Node.not_loosened_hole : ¬ Node.Loosened .hole node' := by
  intro loosened
  cases loosened with
  | here sorted name position => cases sorted

theorem forall_mem_replace {α : Type} {sort : α → Prop} {before after : List α} {inner inner' : α}
    (each : ∀ entry ∈ before ++ inner :: after, sort entry) (same : sort inner → sort inner') :
    ∀ entry ∈ before ++ inner' :: after, sort entry := by
  rw [List.forall_mem_append, List.forall_mem_cons] at each ⊢
  exact ⟨each.1, same each.2.1, each.2.2⟩

namespace Node.Loosened

theorem expression (sorted : Expression node) (loosened : Loosened node node') :
    Expression node' := by
  induction loosened with
  | here _ name position => exact .call name position (List.forall_mem_nil _)
  | index name position below ih =>
      cases sorted with
      | reference => exact absurd below not_loosened_hole
      | element _ _ sortedIndex => exact .element name position (ih sortedIndex)
  | argument name before after position below ih =>
      cases sorted with
      | call _ _ sortedArgs => exact .call name position (forall_mem_replace sortedArgs ih)
  | left op right position below ih =>
      cases sorted with
      | binary _ _ sortedLeft sortedRight => exact .binary op position (ih sortedLeft) sortedRight
  | right op left position below ih =>
      cases sorted with
      | binary _ _ sortedLeft sortedRight => exact .binary op position sortedLeft (ih sortedRight)
  | operand op before after position below ih =>
      cases sorted with
      | logical _ _ sortedOperands =>
          exact .logical op position (forall_mem_replace sortedOperands ih)
  | _ => cases sorted

theorem optional (sorted : OptionalExpression node) (loosened : Loosened node node') :
    OptionalExpression node' := by
  rcases sorted with empty | sorted
  · rw [empty] at loosened
    exact absurd loosened not_loosened_hole
  · exact .inr (loosened.expression sorted)

theorem statement (sorted : Statement node) (loosened : Loosened node node') :
    Statement node' := by
  induction loosened with
  | here _ name position => exact .call name position (List.forall_mem_nil _)
  | argument name before after position below _ =>
      cases sorted with
      | call _ _ sortedArgs =>
          exact .call name position
            (forall_mem_replace sortedArgs fun inner => below.expression inner)
  | assignedIndex target value position below _ =>
      cases sorted with
      | assign _ _ sortedIndex sortedValue =>
          exact .assign target position (below.optional sortedIndex) sortedValue
  | assignedValue target index position below _ =>
      cases sorted with
      | assign _ _ sortedIndex sortedValue =>
          exact .assign target position sortedIndex (below.expression sortedValue)
  | condition thenBody elseBody position below _ =>
      cases sorted with
      | conditional _ sortedCondition sortedThen sortedElse =>
          exact .conditional position (below.expression sortedCondition) sortedThen sortedElse
  | thenStatement condition before after elseBody position below ih =>
      cases sorted with
      | conditional _ sortedCondition sortedThen sortedElse =>
          exact .conditional position sortedCondition (forall_mem_replace sortedThen ih) sortedElse
  | elseStatement condition thenBody before after position below ih =>
      cases sorted with
      | conditional _ sortedCondition sortedThen sortedElse =>
          exact .conditional position sortedCondition sortedThen (forall_mem_replace sortedElse ih)
  | _ => cases sorted

theorem variableDecl (sorted : VariableDecl node) (loosened : Loosened node node') :
    VariableDecl node' := by
  cases sorted with
  | decl name typeName isRecord dims position sortedInitial =>
      cases loosened with
      | here sorted => cases sorted
      | initial _ _ _ _ _ below =>
          exact .decl name typeName isRecord dims position (below.optional sortedInitial)

theorem declGroup (sorted : DeclGroup node) (loosened : Loosened node node') :
    DeclGroup node' := by
  cases sorted with
  | group kind position sortedDecls =>
      cases loosened with
      | here sorted => cases sorted
      | decl _ before after _ below =>
          exact .group kind position (forall_mem_replace sortedDecls below.variableDecl)

theorem topItem (sorted : TopItem node) (loosened : Loosened node node') :
    TopItem node' := by
  cases sorted with
  | group sortedGroup => exact .group (loosened.declGroup sortedGroup)
  | moduleBlock name position sortedGroups =>
      cases loosened with
      | here sorted => cases sorted
      | group _ before after _ below =>
          exact .moduleBlock name position (forall_mem_replace sortedGroups below.declGroup)
  | record name position sortedFields =>
      cases loosened with
      | here sorted => cases sorted
      | field _ before after _ below =>
          exact .record name position (forall_mem_replace sortedFields below.variableDecl)
  | event name position sortedPrecondition sortedEffects =>
      cases loosened with
      | here sorted => cases sorted
      | precondition _ _ _ below =>
          exact .event name position (below.optional sortedPrecondition) sortedEffects
      | effect _ _ before after _ below =>
          exact .event name position sortedPrecondition
            (forall_mem_replace sortedEffects below.statement)

theorem wellSorted (sorted : WellSorted node) (loosened : Loosened node node') :
    WellSorted node' := by
  cases sorted with
  | program name position sortedItems =>
      cases loosened with
      | here sorted => cases sorted
      | item _ before after _ below =>
          exact .program name position (forall_mem_replace sortedItems below.topItem)

end Node.Loosened

end Sorts

/-- The diagnostics that a pass adds to a table. -/
def Pass.shown {α : Type} (pass : Pass α) : List Diagnostic :=
  (Entry.findings pass.emitted).map (·.diagnostic)

/-- How a pass that knows less goes along with another: it ends in the same way and shows nothing
that the other does not. Nothing is said if the other ends in a fault that is exempt. -/
inductive Pass.Eases {α : Type} (exempt : Fault → Prop) (related : α → α → Prop)
    (loose strict : Pass α) : Prop
  | exempted {fault : Fault} (allowed : exempt fault) (stopped : strict.outcome = .error fault)
  | failed {fault : Fault} (looseStopped : loose.outcome = .error fault)
      (strictStopped : strict.outcome = .error fault) (shown : loose.shown.Sublist strict.shown)
  | returned {value strictValue : α} (looseReturned : loose.outcome = .ok value)
      (strictReturned : strict.outcome = .ok strictValue) (values : related value strictValue)
      (shown : loose.shown.Sublist strict.shown)

namespace Pass

open Trail

variable {α β : Type} {exempt : Fault → Prop} {related : α → α → Prop} {related' : β → β → Prop}

theorem shown_bind_of_ok {first : Pass α} {value : α} (returned : first.outcome = .ok value)
    (next : α → Pass β) : Pass.shown (first >>= next) = first.shown ++ (next value).shown := by
  rw [shown, emitted_bind_of_ok returned, Entry.findings_append, List.map_append]
  rfl

theorem shown_bind_of_error {first : Pass α} {fault : Fault} (failed : first.outcome = .error fault)
    (next : α → Pass β) : Pass.shown (first >>= next) = first.shown := by
  rw [shown, emitted_bind_of_error failed]
  rfl

theorem Eases.bind {loose strict : Pass α} {next strictNext : α → Pass β}
    (first : Eases exempt related loose strict)
    (later : ∀ value strictValue, related value strictValue →
      Eases exempt related' (next value) (strictNext strictValue)) :
    Eases exempt related' (loose >>= next) (strict >>= strictNext) := by
  cases first with
  | exempted allowed stopped => exact .exempted allowed (outcome_bind_of_error stopped _)
  | failed looseStopped strictStopped shown =>
      apply Eases.failed (outcome_bind_of_error looseStopped _)
        (outcome_bind_of_error strictStopped _)
      rw [shown_bind_of_error looseStopped, shown_bind_of_error strictStopped]
      exact shown
  | @returned value strictValue looseReturned strictReturned values shown =>
      have strictOutcome := outcome_bind_of_ok strictReturned strictNext
      have looseOutcome := outcome_bind_of_ok looseReturned next
      have strictShown := shown_bind_of_ok strictReturned strictNext
      have looseShown := shown_bind_of_ok looseReturned next
      cases later value strictValue values with
      | exempted allowed stopped => exact .exempted allowed (strictOutcome.trans stopped)
      | failed looseStopped strictStopped shownLater =>
          apply Eases.failed (looseOutcome.trans looseStopped) (strictOutcome.trans strictStopped)
          rw [looseShown, strictShown]
          exact shown.append shownLater
      | returned looseEnded strictEnded ends shownLater =>
          apply Eases.returned (looseOutcome.trans looseEnded) (strictOutcome.trans strictEnded)
            ends
          rw [looseShown, strictShown]
          exact shown.append shownLater

theorem Eases.mono {wider : Fault → Prop} {loose strict : Pass α}
    (eases : Eases exempt related loose strict) (weaken : ∀ fault, exempt fault → wider fault) :
    Eases wider related loose strict := by
  cases eases with
  | exempted allowed stopped => exact .exempted (weaken _ allowed) stopped
  | failed looseStopped strictStopped shown => exact .failed looseStopped strictStopped shown
  | returned looseReturned strictReturned values shown =>
      exact .returned looseReturned strictReturned values shown

theorem eases_refl (reflexive : ∀ value, related value value) (pass : Pass α) :
    Eases exempt related pass pass := by
  cases ended : pass.outcome with
  | error fault => exact .failed ended ended (List.Sublist.refl _)
  | ok value => exact .returned ended ended (reflexive value) (List.Sublist.refl _)

theorem eases_of_returned {value strictValue : α} {strict : Pass α}
    (returned : strict.outcome = .ok strictValue) (values : related value strictValue) :
    Eases exempt related (pure value) strict :=
  .returned rfl returned values (List.nil_sublist _)

theorem eases_pure {value strictValue : α} (values : related value strictValue) :
    Eases exempt related (pure value) (pure strictValue) :=
  eases_of_returned rfl values

theorem eases_ite {condition : Prop} [Decidable condition] {loose strict other strictOther : Pass α}
    (positive : Eases exempt related loose strict)
    (negative : Eases exempt related other strictOther) :
    Eases exempt related (if condition then loose else other)
      (if condition then strict else strictOther) := by
  by_cases holds : condition
  · rw [if_pos holds, if_pos holds]
    exact positive
  · rw [if_neg holds, if_neg holds]
    exact negative

/-- What holds of one entry of a list holds of the list. The entry is only come to if all entries
before it return. -/
theorem eases_forM {γ : Type} {wider : Fault → Prop} {before after : List γ} {inner inner' : γ}
    {check : γ → Pass Unit} (entry : Eases exempt Eq (check inner') (check inner))
    (reached : (forM before check).outcome = .ok () → ∀ fault, exempt fault → wider fault) :
    Eases wider Eq (forM (before ++ inner' :: after) check)
      (forM (before ++ inner :: after) check) := by
  rw [List.forM_append, List.forM_append, List.forM_cons, List.forM_cons]
  cases passed : (forM before check).outcome with
  | error fault =>
      apply Eases.failed (outcome_bind_of_error passed _) (outcome_bind_of_error passed _)
      simp only [shown_bind_of_error passed, List.Sublist.refl]
  | ok done =>
      apply (eases_refl Eq.refl _).bind
      intro _ _ _
      apply (entry.mono (reached passed)).bind
      intro _ _ _
      exact eases_refl Eq.refl _

end Pass

end SwarmCheck
