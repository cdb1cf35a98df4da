import SwarmCheck.Analysis.Phase
import SwarmCheck.Proofs.Journal
import SwarmCheck.Proofs.Trail

/-!
# What the last phase lists

Each of the three rules on write access is a condition on an assignment, and each of the three lists
of the last phase holds the targets of the assignments that break one rule, in the order of the
source. The rules do not depend on each other.
-/

namespace SwarmCheck

set_option autoImplicit false

namespace Node

def target? : Node → Option String
  | assign target _ _ _ => some target
  | _ => none

def assigned? : Node → Option Node
  | assign _ _ value _ => some value
  | _ => none

def assignsIdentity (node : Node) : Bool := (node.assigned?.map isOwnIdentity).getD false

end Node

namespace WriteAccess

/-- The scope of the variable that an assignment writes to, or to a field of. -/
def scopeWritten? (env : Environment) (node : Node) : Option Scope :=
  node.target?.bind fun target => (env.resolve? target).map (·.symbol.scope)

/-- The type of what an assignment overwrites. -/
def typeWritten? (env : Environment) : Node → Option Ty
  | .assign target index _ _ =>
      (env.resolve? target).map fun resolution => writtenType (!index.isHole) resolution.type
  | _ => none

def writesSensor (env : Environment) (node : Node) : Bool := scopeWritten? env node = some .sensor

def writesStream (env : Environment) (node : Node) : Bool := typeWritten? env node = some .stream

def writesAllRead (env : Environment) (node : Node) : Bool := scopeWritten? env node = some .allRead

def writesReadOnly (env : Environment) (node : Node) : Bool :=
  writesAllRead env node && !node.assignsIdentity

def targets (broken : Node → Bool) (nodes : List Node) : List String :=
  (nodes.filter broken).filterMap Node.target?

theorem targets_cons (broken : Node → Bool) (node : Node) (rest : List Node) :
    targets broken (node :: rest) = targets broken [node] ++ targets broken rest := by
  rw [targets, targets, targets, ← List.singleton_append, List.filter_append,
    List.filterMap_append]

theorem targets_singleton (broken : Node → Bool) (node : Node) :
    targets broken [node] = if broken node then node.target?.toList else [] := by
  rw [targets, List.filter_cons, List.filter_nil]
  split
  · rw [List.filterMap_cons]
    cases node.target? <;> rfl
  · rfl

section Violations

theorem findings_violation {broken : Prop} [Decidable broken] (text target : String)
    (finding : Finding) :
    Entry.findings (if broken then violation text target finding else []) =
      if broken then [finding] else [] := by
  split <;> rfl

theorem shown_finding {broken : Prop} [Decidable broken] (view : Finding → Option String)
    (finding : Finding) :
    (if broken then [finding] else []).filterMap view =
      if broken then (view finding).toList else [] := by
  split
  · rw [List.filterMap_cons]
    cases view finding <;> rfl
  · rfl

variable (site : Node) (target : String) (indexed : Bool) (value : Node) (resolution : Resolution)

theorem shown_violations (view : Finding → Option String) :
    (Entry.findings (violations site target indexed value resolution)).filterMap view =
      (if resolution.symbol.scope.writePolicy = .readOnly then
        (view (.sensorWrite target site)).toList else []) ++
      (if writtenType indexed resolution.type = .stream then
        (view (.streamWrite target site)).toList else []) ++
      (if resolution.symbol.scope.writePolicy = .ownIdentity && !value.isOwnIdentity then
        (view (.readOnlyWrite target site)).toList else []) := by
  simp only [violations, Entry.findings_append, findings_violation, List.filterMap_append,
    shown_finding]

end Violations

/-- One of the lists of a journal: what it shows of findings, and that it shows of assignments the
targets of those that break a rule. -/
structure Lists (list : Journal → List String) (view : Finding → Option String)
    (broken : Environment → Node → Bool) : Prop where
  empty : list .empty = []
  append : ∀ journal findings,
    list (journal ++ .ofFindings findings) = list journal ++ findings.filterMap view
  shown : ∀ {env : Environment} {target : String} {index value : Node}
    {position : Option Position} {resolution : Resolution}, env.resolve target = .ok resolution →
      (Entry.findings (violations (.assign target index value position) target (!index.isHole) value
        resolution)).filterMap view =
      if broken env (.assign target index value position) then [target] else []

theorem sensorWrites_list : Lists Journal.sensorWrites Finding.sensorWrite? writesSensor := by
  refine ⟨rfl, fun _ _ => rfl, ?_⟩
  intro env target index value position resolution found
  have readOnly : resolution.symbol.scope.writePolicy = .readOnly ↔
      resolution.symbol.scope = .sensor := by
    cases resolution.symbol.scope <;> simp [Scope.writePolicy]
  simp [shown_violations, Finding.sensorWrite?, writesSensor, scopeWritten?, Node.target?,
    Environment.resolve?, Except.toOption, found, readOnly]

theorem streamWrites_list : Lists Journal.streamWrites Finding.streamWrite? writesStream := by
  refine ⟨rfl, fun _ _ => rfl, ?_⟩
  intro env target index value position resolution found
  simp [shown_violations, Finding.streamWrite?, writesStream, typeWritten?,
    Environment.resolve?, Except.toOption, found]

theorem readOnlyWrites_list :
    Lists Journal.readOnlyWrites Finding.readOnlyWrite? writesReadOnly := by
  refine ⟨rfl, fun _ _ => rfl, ?_⟩
  intro env target index value position resolution found
  have own : resolution.symbol.scope.writePolicy = .ownIdentity ↔
      resolution.symbol.scope = .allRead := by
    cases resolution.symbol.scope <;> simp [Scope.writePolicy]
  simp [shown_violations, Finding.readOnlyWrite?, writesReadOnly, writesAllRead, scopeWritten?,
    Node.target?, Environment.resolve?, Except.toOption, found, own, Node.assignsIdentity,
    Node.assigned?]

section Passes

variable {env : Environment} {list : Journal → List String} {view : Finding → Option String}
  {broken : Environment → Node → Bool} (lists : Lists list view broken)

include lists

theorem shown_checkNode {node : Node} (returned : (checkNode env node).outcome = .ok ()) :
    (Entry.findings (checkNode env node).emitted).filterMap view =
      targets (broken env) [node] := by
  rw [targets_singleton]
  cases node with
  | assign target index value position =>
      rw [checkNode] at returned ⊢
      cases found : env.resolve target with
      | error cause =>
          rw [found] at returned
          cases returned
      | ok resolution => exact lists.shown found
  | _ => exact (ite_self []).symm

theorem shown_checkNodes {nodes : List Node}
    (returned : (checkNodes env nodes).outcome = .ok ()) :
    (Entry.findings (checkNodes env nodes).emitted).filterMap view =
      targets (broken env) nodes := by
  induction nodes with
  | nil => rfl
  | cons node rest ih =>
      rw [checkNodes] at returned ⊢
      obtain ⟨_, first, later⟩ := (Trail.outcome_bind_eq_ok_iff _ _ _).mp returned
      rw [Trail.emitted_bind_of_ok first, Entry.findings_append, List.filterMap_append,
        shown_checkNode lists first, ih later, ← targets_cons]

theorem shown_check {program : Node} (returned : (check env program).outcome = .ok ()) :
    (Entry.findings (check env program).emitted).filterMap view =
      targets (broken env) program.preorder := by
  rw [check] at returned ⊢
  split at returned
  · cases returned
  · rename_i present
    rw [if_neg present]
    exact shown_checkNodes lists returned

end Passes

end WriteAccess

end SwarmCheck
