import SwarmCheck.Analysis.Typing
import SwarmCheck.Proofs.Trail
import SwarmCheck.Proofs.Trees

/-!
# A checker with a stack of its own

The type pass hands its operands from one visit to the next. A checker that is used for several
programs has them in a place of its own instead: visits push and pop there, and a check that ends in
a fault leaves behind whatever was on the stack in the middle of an expression. Here such a checker
is spelled out, action by action. It emits what the pass emits and ends as the pass ends. A check
empties the stack before anything else, so it makes no difference what was left there.
-/

namespace SwarmCheck

set_option autoImplicit false

namespace Checker

open Typing (Operands)

structure State where
  operands : Operands := []
  entries : List Entry := []

/-- What a checker does. The state outlives a fault. -/
abbrev Action := ExceptT Fault (StateM State)

def Action.act {α : Type} (action : Action α) (state : State) : Except Fault α × State :=
  StateT.run (ExceptT.run action) state

def push (type : Ty) : Action Unit :=
  modify fun state => { state with operands := type :: state.operands }

def clear : Action Unit := modify fun state => { state with operands := [] }

/-- Does what a pass does that goes by no operands. -/
def along {α : Type} (pass : Pass α) : Action α := do
  modify fun state => { state with entries := state.entries ++ pass.emitted }
  match pass.outcome with
  | .ok value => return value
  | .error fault => throw fault

def pop : Action Ty := do
  match (← get).operands with
  | [] => do
      along (Typing.note "Type stack empty, treating operand as unknown")
      return .unknown
  | type :: rest => do
      modify fun state => { state with operands := rest }
      return type

def popMany : Nat → Action Unit
  | 0 => return ()
  | count + 1 => do
      let _ ← pop
      popMany count

def leaveBinary (site : Node) (op : String) : Action Unit := do
  let right ← pop
  let left ← pop
  let type ← along (Typing.binaryType site op left right)
  push type

def leaveReference (env : Environment) (site : Node) (name : String) (index : Node) :
    Action Unit := do
  let type ← along (Typing.typeOf env name)
  if index.isHole then push type
  else
    let indexType ← pop
    along (Typing.checkIndex site indexType)
    let element ← along (Typing.elementType site name type)
    push element

def popIndex (site index : Node) : Action Unit :=
  if index.isHole then return ()
  else do
    let indexType ← pop
    along (Typing.checkIndex site indexType)

def leaveAssign (env : Environment) (site : Node) (target : String) (index : Node) :
    Action Unit := do
  let actual ← pop
  popIndex site index
  if actual.isUnknown then return ()
  else
    let type ← along (Typing.typeOf env target)
    along (Typing.checkTarget site target (!index.isHole) type actual)

def leaveDecl (site : Node) (name typeName : String) (isRecord : Bool) (dims : Int)
    (initial : Node) : Action Unit :=
  if initial.isHole then return ()
  else do
    let actual ← pop
    if actual.isUnknown then return ()
    else
      match declaredType typeName isRecord dims with
      | .error fault => throw fault
      | .ok expected =>
          if expected = actual then return ()
          else
            along (Typing.mismatch site ("initializer of '" ++ name ++ "'") expected.text
              actual.text)

mutual

def visit (env : Environment) : Node → Action Unit
  | .hole | .stray _ | .otherwise _ => return ()
  | .bundle _ parts => visitIn env parts
  | .event _ precondition effects _ => do
      if precondition.isHole then pure ()
      else do
        if precondition.isBlank then throw .emptyPlace else visit env precondition
        clear
      visitStatements env effects
  | .conditional condition thenBody elseBody _ => do
      if condition.isBlank then throw .emptyPlace else visit env condition
      clear
      visitStatements env thenBody
      visitStatements env elseBody
  | .constant kind _ _ _ => push (Typing.constantType kind)
  | .stringLiteral .. => push .string
  | site@(.reference name index _) => do
      visit env index
      leaveReference env site name index
  | .call _ args _ => do
      visitIn env args
      popMany args.length
      push .unknown
  | site@(.binary op left right _) => do
      visit env left
      visit env right
      leaveBinary site op
  | .logical _ operands _ => do
      visitIn env operands
      popMany operands.length
      push .bool
  | .flag name _ => do
      let type ← along (Typing.typeOf env name)
      push type
  | site@(.assign target index value _) => do
      visit env index
      visit env value
      leaveAssign env site target index
  | site@(.stream channel _) => along (Typing.checkStream env site channel)
  | site@(.decl name typeName isRecord dims initial _) => do
      visit env initial
      leaveDecl site name typeName isRecord dims initial
      clear
  | .group _ decls _ => visitIn env decls
  | .moduleBlock _ groups _ => visitIn env groups
  | .record _ fields _ => visitIn env fields
  | .program _ items _ => visitIn env items

def visitIn (env : Environment) : List Node → Action Unit
  | [] => return ()
  | node :: rest => do
      if node.isBlank then pure () else visit env node
      visitIn env rest

def visitStatements (env : Environment) : List Node → Action Unit
  | [] => return ()
  | node :: rest => do
      if node.isBlank then throw .emptyPlace else visit env node
      clear
      visitStatements env rest

end

def check (env : Environment) (program : Node) : Action Unit := do
  clear
  if program.isBlank then throw .emptyPlace else visit env program

section Does

variable {α β : Type}

/-- An action does what a pass does that is handed the operands and hands them on. -/
def Does (action : Action α) (pass : Operands → Pass (α × Operands)) : Prop :=
  ∀ state : State,
    (action.act state).1 = (pass state.operands).outcome.map Prod.fst ∧
      (action.act state).2.entries = state.entries ++ (pass state.operands).emitted ∧
      ∀ value operands, (pass state.operands).outcome = .ok (value, operands) →
        (action.act state).2.operands = operands

theorem act_bind_of_ok {first : Action α} {state after : State} {value : α}
    (acted : first.act state = (.ok value, after)) (next : α → Action β) :
    (first >>= next).act state = (next value).act after := by
  change ExceptT.bindCont next (first.act state).1 (first.act state).2 = _
  rw [acted]
  rfl

theorem act_bind_of_error {first : Action α} {state after : State} {fault : Fault}
    (acted : first.act state = (.error fault, after)) (next : α → Action β) :
    (first >>= next).act state = (.error fault, after) := by
  change ExceptT.bindCont next (first.act state).1 (first.act state).2 = _
  rw [acted]
  rfl

theorem does_pure (value : α) : Does (pure value) fun operands => pure (value, operands) := by
  intro state
  refine ⟨rfl, (List.append_nil _).symm, ?_⟩
  rintro _ _ ⟨⟩
  rfl

theorem does_throw (fault : Fault) :
    Does (throw fault : Action α) fun _ => .fail fault := by
  intro state
  refine ⟨rfl, (List.append_nil _).symm, ?_⟩
  rintro _ _ ⟨⟩

theorem Does.bind {first : Action α} {pass : Operands → Pass (α × Operands)}
    {next : α → Action β} {later : α → Operands → Pass (β × Operands)}
    (firstDoes : Does first pass) (nextDoes : ∀ value, Does (next value) (later value)) :
    Does (first >>= next) fun operands =>
      pass operands >>= fun done => later done.1 done.2 := by
  intro state
  obtain ⟨outcome, entries, operands⟩ := firstDoes state
  obtain ⟨result, after, acted⟩ : ∃ result after, first.act state = (result, after) :=
    ⟨_, _, rfl⟩
  rw [acted] at outcome entries operands
  dsimp only
  cases ended : (pass state.operands).outcome with
  | error fault =>
      rw [ended] at outcome
      subst outcome
      rw [act_bind_of_error acted, Trail.outcome_bind_of_error ended,
        Trail.emitted_bind_of_error ended]
      refine ⟨rfl, entries, ?_⟩
      rintro _ _ ⟨⟩
  | ok done =>
      rw [ended] at outcome
      subst outcome
      obtain ⟨nextOutcome, nextEntries, nextOperands⟩ := nextDoes done.1 after
      rw [operands done.1 done.2 ended] at nextOutcome nextEntries nextOperands
      rw [act_bind_of_ok acted, Trail.outcome_bind_of_ok ended, Trail.emitted_bind_of_ok ended]
      refine ⟨nextOutcome, ?_, nextOperands⟩
      rw [nextEntries, entries, List.append_assoc]

theorem does_push (type : Ty) :
    Does (push type) fun operands => pure ((), type :: operands) := by
  intro state
  refine ⟨rfl, (List.append_nil _).symm, ?_⟩
  rintro _ _ ⟨⟩
  rfl

theorem does_clear : Does clear fun _ => pure ((), []) := by
  intro state
  refine ⟨rfl, (List.append_nil _).symm, ?_⟩
  rintro _ _ ⟨⟩
  rfl

theorem does_along (pass : Pass α) :
    Does (along pass) fun operands => pass >>= fun value => pure (value, operands) := by
  intro state
  dsimp only
  cases ended : pass.outcome with
  | error fault =>
      have acted : (along pass).act state =
          (.error fault, { state with entries := state.entries ++ pass.emitted }) := by
        rw [along, ended]
        rfl
      rw [acted, Trail.outcome_bind_of_error ended, Trail.emitted_bind_of_error ended]
      refine ⟨rfl, rfl, ?_⟩
      rintro _ _ ⟨⟩
  | ok value =>
      have acted : (along pass).act state =
          (.ok value, { state with entries := state.entries ++ pass.emitted }) := by
        rw [along, ended]
        rfl
      rw [acted, Trail.outcome_bind_of_ok ended, Trail.emitted_bind_of_ok ended]
      refine ⟨rfl, ?_, ?_⟩
      · simp
      · rintro _ _ ⟨⟩
        rfl

theorem does_pop : Does pop Typing.pop := by
  intro state
  obtain ⟨operands, entries⟩ := state
  cases operands with
  | nil => exact ⟨rfl, rfl, fun _ _ same => by cases same; rfl⟩
  | cons type rest => exact ⟨rfl, (List.append_nil _).symm, fun _ _ same => by cases same; rfl⟩

end Does

/-- An action does what a pass does that returns nothing besides the operands. -/
def Carries (action : Action Unit) (pass : Operands → Pass Operands) : Prop :=
  Does action fun operands => (fun left => ((), left)) <$> pass operands

section Carries

theorem carries_nothing : Carries (pure ()) pure := does_pure ()

theorem carries_throw (fault : Fault) : Carries (throw fault) fun _ => .fail fault :=
  does_throw fault

theorem carries_push (type : Ty) : Carries (push type) fun operands => pure (type :: operands) :=
  does_push type

theorem carries_clear : Carries clear fun _ => pure [] := does_clear

theorem Carries.bind {first next : Action Unit} {pass later : Operands → Pass Operands}
    (firstCarries : Carries first pass) (nextCarries : Carries next later) :
    Carries (do first; next) fun operands => pass operands >>= later := by
  have both := Does.bind firstCarries fun _ => nextCarries
  simp only [bind_map_left] at both
  unfold Carries
  simp only [map_bind]
  exact both

theorem carries_pop_bind {next : Ty → Action Unit} {later : Ty × Operands → Pass Operands}
    (each : ∀ type, Carries (next type) fun operands => later (type, operands)) :
    Carries (pop >>= next) fun operands => Typing.pop operands >>= later := by
  have both := does_pop.bind each
  unfold Carries
  simp only [map_bind]
  exact both

theorem carries_along_bind {α : Type} {pass : Pass α} {next : α → Action Unit}
    {later : α → Operands → Pass Operands} (each : ∀ value, Carries (next value) (later value)) :
    Carries (along pass >>= next) fun operands => pass >>= fun value => later value operands := by
  have both := (does_along pass).bind each
  simp only [bind_assoc, pure_bind] at both
  unfold Carries
  simp only [map_bind]
  exact both

theorem carries_along (pass : Pass Unit) :
    Carries (along pass) fun operands => pass >>= fun _ => pure operands := by
  have single := does_along pass
  unfold Carries
  simp only [map_bind, map_pure]
  exact single

theorem carries_ite {condition : Prop} [Decidable condition] {yes no : Action Unit}
    {pass other : Operands → Pass Operands} (yesCarries : condition → Carries yes pass)
    (noCarries : ¬condition → Carries no other) :
    Carries (if condition then yes else no) fun operands =>
      if condition then pass operands else other operands := by
  by_cases holds : condition
  · simp only [if_pos holds]
    exact yesCarries holds
  · simp only [if_neg holds]
    exact noCarries holds

theorem carries_popMany (count : Nat) : Carries (popMany count) (Typing.popMany count) := by
  induction count with
  | zero => exact carries_nothing
  | succ count ih => exact carries_pop_bind fun _ => ih

theorem carries_leaveBinary (site : Node) (op : String) :
    Carries (leaveBinary site op) (Typing.leaveBinary site op) := by
  apply carries_pop_bind
  intro right
  apply carries_pop_bind
  intro left
  apply carries_along_bind
  exact carries_push

theorem carries_leaveReference (env : Environment) (site : Node) (name : String) (index : Node) :
    Carries (leaveReference env site name index) (Typing.leaveReference env site name index) := by
  apply carries_along_bind
  intro type
  apply carries_ite
  · intro _
    exact carries_push type
  · intro _
    apply carries_pop_bind
    intro indexType
    apply carries_along_bind
    intro _
    apply carries_along_bind
    exact carries_push

theorem carries_popIndex (site index : Node) :
    Carries (popIndex site index) (Typing.popIndex site index) := by
  apply carries_ite
  · intro _
    exact carries_nothing
  · intro _
    apply carries_pop_bind
    intro indexType
    exact carries_along _

theorem carries_leaveAssign (env : Environment) (site : Node) (target : String) (index : Node) :
    Carries (leaveAssign env site target index) (Typing.leaveAssign env site target index) := by
  apply carries_pop_bind
  intro actual
  apply (carries_popIndex site index).bind
  apply carries_ite
  · intro _
    exact carries_nothing
  · intro _
    apply carries_along_bind
    intro type
    exact carries_along _

/-- The stack is emptied after a declaration, so it does not matter what is left of it. -/
theorem carries_leaveDecl (site : Node) (name typeName : String) (isRecord : Bool) (dims : Int)
    (initial : Node) :
    Carries (do leaveDecl site name typeName isRecord dims initial; clear) fun operands => do
      Typing.leaveDecl site name typeName isRecord dims initial operands
      return [] := by
  unfold leaveDecl Typing.leaveDecl
  cases initial.isHole with
  | true => exact carries_clear
  | false =>
      simp only [Bool.false_eq_true, if_false, bind_assoc]
      apply carries_pop_bind
      intro actual
      cases known : actual.isUnknown with
      | true =>
          simp only [known, if_true, pure_bind]
          exact carries_clear
      | false =>
          simp only [known, Bool.false_eq_true, if_false]
          cases declaredType typeName isRecord dims with
          | error fault => exact (carries_throw fault).bind carries_clear
          | ok expected =>
              by_cases same : expected = actual
              · simp only [if_pos same, pure_bind]
                exact carries_clear
              · simp only [if_neg same]
                exact carries_along_bind fun _ => carries_clear

section Visiting

variable {env : Environment}

theorem carries_visitIn {nodes : List Node}
    (each : ∀ node ∈ nodes,
      Carries (visit env node) fun operands => Typing.visit env operands node) :
    Carries (visitIn env nodes) fun operands => Typing.visitIn env operands nodes := by
  induction nodes with
  | nil => exact carries_nothing
  | cons node rest ih =>
      have later := ih fun other member => each other (by simp [member])
      simp only [visitIn, Typing.visitIn, pure_bind]
      apply carries_ite
      · intro _
        exact later
      · intro _
        exact (each node (by simp)).bind later

theorem carries_present {node : Node} {next : Action Unit} {later : Operands → Pass Operands}
    (visited : Carries (visit env node) fun operands => Typing.visit env operands node)
    (nextCarries : Carries next later) :
    Carries (if node.isBlank then do throw .emptyPlace; next else do visit env node; next)
      fun operands =>
        if node.isBlank then .fail .emptyPlace >>= later
        else Typing.visit env operands node >>= later := by
  apply carries_ite
  · intro _
    exact (carries_throw .emptyPlace).bind nextCarries
  · intro _
    exact visited.bind nextCarries

theorem carries_visitStatements {nodes : List Node}
    (each : ∀ node ∈ nodes,
      Carries (visit env node) fun operands => Typing.visit env operands node) :
    Carries (visitStatements env nodes) fun operands =>
      Typing.visitStatements env operands nodes := by
  induction nodes with
  | nil => exact carries_nothing
  | cons node rest ih =>
      have later := ih fun other member => each other (by simp [member])
      simp only [visitStatements, Typing.visitStatements]
      exact carries_present (each node (by simp)) (carries_clear.bind later)

theorem carries_visit (env : Environment) (node : Node) :
    Carries (visit env node) fun operands => Typing.visit env operands node := by
  induction node with
  | hole => exact carries_nothing
  | stray found => exact carries_nothing
  | otherwise statements ih => exact carries_nothing
  | constant kind text position parenthesised => exact carries_push _
  | stringLiteral value position => exact carries_push _
  | bundle serial parts ih =>
      simp only [visit, Typing.visit]
      exact carries_visitIn ih
  | reference name index position ih =>
      simp only [visit, Typing.visit]
      exact ih.bind (carries_leaveReference env _ name index)
  | call name args position ih =>
      simp only [visit, Typing.visit]
      exact (carries_visitIn ih).bind ((carries_popMany args.length).bind (carries_push .unknown))
  | binary op left right position leftIh rightIh =>
      simp only [visit, Typing.visit]
      exact leftIh.bind (rightIh.bind (carries_leaveBinary _ op))
  | logical op operands position ih =>
      simp only [visit, Typing.visit]
      exact (carries_visitIn ih).bind ((carries_popMany operands.length).bind (carries_push .bool))
  | flag name position =>
      simp only [visit, Typing.visit]
      exact carries_along_bind carries_push
  | assign target index value position indexIh valueIh =>
      simp only [visit, Typing.visit]
      exact indexIh.bind (valueIh.bind (carries_leaveAssign env _ target index))
  | stream channel position =>
      simp only [visit, Typing.visit]
      exact carries_along _
  | conditional condition thenBody elseBody position conditionIh thenIh elseIh =>
      simp only [visit, Typing.visit]
      apply carries_present conditionIh
      exact carries_clear.bind
        ((carries_visitStatements thenIh).bind (carries_visitStatements elseIh))
  | decl name typeName isRecord dims initial position ih =>
      simp only [visit, Typing.visit]
      exact ih.bind (carries_leaveDecl _ name typeName isRecord dims initial)
  | group kind decls position ih =>
      simp only [visit, Typing.visit]
      exact carries_visitIn ih
  | moduleBlock name groups position ih =>
      simp only [visit, Typing.visit]
      exact carries_visitIn ih
  | record name fields position ih =>
      simp only [visit, Typing.visit]
      exact carries_visitIn ih
  | event name precondition effects position preconditionIh effectsIh =>
      have rest := carries_visitStatements effectsIh
      simp only [visit, Typing.visit, pure_bind]
      apply carries_ite
      · intro _
        exact rest
      · intro _
        exact carries_present preconditionIh (carries_clear.bind rest)
  | program name items position ih =>
      simp only [visit, Typing.visit]
      exact carries_visitIn ih

end Visiting

end Carries

/-- What a check emits and how it ends, and the operands that it leaves behind. -/
def run (operands : Operands) (env : Environment) (program : Node) : Pass Unit × Operands :=
  let (outcome, state) := (check env program).act { operands }
  (⟨state.entries, outcome⟩, state.operands)

/-- The operands that a new checker is left with by checks in a row. -/
def leftBy (checks : List (Environment × Node)) : Operands :=
  checks.foldl (fun operands done => (run operands done.1 done.2).2) []

theorem run_eq_check (operands : Operands) (env : Environment) (program : Node) :
    (run operands env program).1 = Typing.check env program := by
  have visited : Carries (if program.isBlank then throw .emptyPlace else visit env program)
      fun operands =>
        if program.isBlank then .fail .emptyPlace else Typing.visit env operands program := by
    apply carries_ite
    · intro _
      exact carries_throw .emptyPlace
    · intro _
      exact carries_visit env program
  obtain ⟨outcome, entries, _⟩ := carries_clear.bind visited { operands }
  simp only [pure_bind, Trail.map_eq, List.nil_append] at outcome entries
  have ran : (run operands env program).1 =
      ⟨((check env program).act { operands }).2.entries,
        ((check env program).act { operands }).1⟩ := rfl
  have same : Typing.check env program =
      (fun _ => ()) <$>
        (if program.isBlank then .fail .emptyPlace else Typing.visit env [] program) := by
    unfold Typing.check
    cases program.isBlank <;> rfl
  rw [ran, check, outcome, entries, same, Trail.map_eq]
  cases (if program.isBlank then Trail.fail .emptyPlace
    else Typing.visit env [] program).outcome <;> rfl

end Checker

end SwarmCheck
