import Mathlib.Logic.Function.Iterate
import SwarmCheck.Analysis.Declarations
import SwarmCheck.Proofs.Resolution

/-!
# The rules of the language

What makes a program correct, said of the program alone: what it declares can be read off its
items, and every rule is about a node and the types of what stands directly below it. No phase,
no table under construction and no stack is mentioned. A value of unknown type is let pass
wherever it stands.
-/

namespace SwarmCheck

set_option autoImplicit false

namespace Rules

/-- The type that a declaration names: a record or a primitive, in one array for each dimension. -/
def namedType (typeName : String) (isRecord : Bool) (dims : Int) : Ty :=
  Ty.array^[dims.toNat] (if isRecord then .record typeName else .primitive typeName)

/-- The full name of a variable: the name of its module, if that has one, and its own, with a dot
between them. -/
def fullName (block : Option String) (name : String) : String :=
  ".".intercalate (block.toList.filter (· ≠ "") ++ [name])

def groupScope : GroupKind → Scope
  | .sensors => .sensor
  | .actuators => .actuator
  | .allRead => .allRead
  | .allWrite => .allWrite
  | .locals => .locals

theorem ofGroup_eq_groupScope (kind : GroupKind) : Scope.ofGroup kind = groupScope kind := by
  cases kind <;> rfl

theorem qualifiedName_eq_fullName (name : String) (block : Option String) :
    qualifiedName name block = fullName block name := by
  cases block with
  | none => simp [qualifiedName, fullName]
  | some block =>
      by_cases nameless : block = ""
      · simp [qualifiedName, fullName, nameless]
      · simp [qualifiedName, fullName, nameless]

theorem arrayOf_eq_iterate (base : Ty) (dims : Int) :
    base.arrayOf dims = Ty.array^[dims.toNat] base := by
  rw [Ty.arrayOf]
  induction dims.toNat with
  | zero => rfl
  | succ layers ih => rw [Ty.wrap, ih, Function.iterate_succ_apply']

theorem namedType_of_declaredType {typeName : String} {isRecord : Bool} {dims : Int} {type : Ty}
    (known : declaredType typeName isRecord dims = .ok type) :
    type = namedType typeName isRecord dims := by
  unfold declaredType at known
  rw [namedType, ← arrayOf_eq_iterate]
  cases isRecord with
  | true => exact (Except.ok.inj known).symm
  | false =>
      simp only [Bool.false_eq_true, if_false] at known ⊢
      split at known
      · exact (Except.ok.inj known).symm
      · cases known

theorem declaredType_eq_error_iff {typeName : String} {isRecord : Bool} {dims : Int}
    {fault : Fault} :
    declaredType typeName isRecord dims = .error fault ↔
      isRecord = false ∧ typeName ∉ Ty.primitiveNames ∧ fault = .unknownType typeName := by
  unfold declaredType
  cases isRecord with
  | true => simp
  | false =>
      by_cases primitive : typeName ∈ Ty.primitiveNames
      · simp [primitive]
      · simp [primitive, eq_comm]

theorem known_of_declaredType {typeName : String} {isRecord : Bool} {dims : Int} {type : Ty}
    (declared : declaredType typeName isRecord dims = .ok type) :
    isRecord = true ∨ typeName ∈ Ty.primitiveNames := by
  cases isRecord with
  | true => exact .inl rfl
  | false =>
      by_cases known : typeName ∈ Ty.primitiveNames
      · exact .inr known
      · have undeclared : declaredType typeName false dims = .error (.unknownType typeName) :=
          declaredType_eq_error_iff.mpr ⟨rfl, known, rfl⟩
        rw [declared] at undeclared
        cases undeclared

/-- Some declaration names a type that is neither a record nor one of the primitives. -/
def NamesUnknownType (program : Node) : Prop :=
  ∃ name typeName dims initial position,
    Node.decl name typeName false dims initial position ∈ program.preorder ∧
      typeName ∉ ["int", "float", "bool", "pos", "string", "stream"]

section Declared

def declVariables (block : Option String) (scope : Scope) : Node → List Symbol
  | site@(.decl name typeName isRecord dims _ _) =>
      [{ name := fullName block name
         type := namedType typeName isRecord dims
         scope
         definedAt := site }]
  | _ => []

def groupVariables (block : Option String) : Node → List Symbol
  | .group kind decls _ => decls.flatMap (declVariables block (groupScope kind))
  | _ => []

def itemVariables : Node → List Symbol
  | .moduleBlock name groups _ => groups.flatMap (groupVariables (some name))
  | item => groupVariables none item

/-- The variables that a program declares, in source order. -/
def programVariables : Node → List Symbol
  | .program _ items _ => items.flatMap itemVariables
  | _ => []

def declFields : Node → List (String × Ty)
  | .decl name typeName isRecord dims _ _ => [(name, namedType typeName isRecord dims)]
  | _ => []

def itemRecords : Node → List (String × List (String × Ty))
  | .record name fields _ => [(name, fields.flatMap declFields)]
  | _ => []

/-- The record types that a program defines with their fields, in source order. -/
def programRecords : Node → List (String × List (String × Ty))
  | .program _ items _ => items.flatMap itemRecords
  | _ => []

/-- Everything a program declares. Of several definitions of one record the last counts. -/
def environment (program : Node) : Environment where
  symbols := .ofList ((programVariables program).map fun symbol => (symbol.name, symbol))
  registry := ⟨.ofList ((programRecords program).map fun record => (record.1, .ofList record.2))⟩

end Declared

section Types

def NameHasType (env : Environment) (name : String) (type : Ty) : Prop :=
  ∃ symbol fields, env.RefersTo name symbol fields type

def elementOf : Ty → Ty
  | .array inner => inner
  | _ => .unknown

def operationType (op : String) (left right : Ty) : Ty :=
  if left = .unknown ∨ right = .unknown then .unknown
  else if op = "+" ∧ (left = .primitive "string" ∨ right = .primitive "string") then
    .primitive "string"
  else left

/-- The type of an expression. A name has the type of what it refers to, and nothing is known of
what a call returns. -/
inductive HasType (env : Environment) : Node → Ty → Prop
  | fraction (text : String) (position : Option Position) (parenthesised : Bool) :
      HasType env (.constant .float text position parenthesised) (.primitive "float")
  | number {kind : ConstantKind} (whole : kind ≠ .float) (text : String)
      (position : Option Position) (parenthesised : Bool) :
      HasType env (.constant kind text position parenthesised) (.primitive "int")
  | stringLiteral (value : String) (position : Option Position) :
      HasType env (.stringLiteral value position) (.primitive "string")
  | reference {name : String} {type : Ty} (position : Option Position)
      (named : NameHasType env name type) : HasType env (.reference name .hole position) type
  | element {name : String} {index : Node} {type : Ty} (position : Option Position)
      (indexed : index ≠ .hole) (named : NameHasType env name type) :
      HasType env (.reference name index position) (elementOf type)
  | call (name : String) (args : List Node) (position : Option Position) :
      HasType env (.call name args position) .unknown
  | binary {left right : Node} {leftType rightType : Ty} (op : String)
      (position : Option Position) (leftTyped : HasType env left leftType)
      (rightTyped : HasType env right rightType) :
      HasType env (.binary op left right position) (operationType op leftType rightType)
  | logical (op : String) (operands : List Node) (position : Option Position) :
      HasType env (.logical op operands position) (.primitive "bool")
  | flag {name : String} {type : Ty} (position : Option Position)
      (named : NameHasType env name type) : HasType env (.flag name position) type

def MayCombine (op : String) (left right : Ty) : Prop :=
  left = .unknown ∨ right = .unknown ∨
    (op = "+" ∧ (left = .primitive "string" ∨ right = .primitive "string")) ∨ left = right

def MayIndex (type : Ty) : Prop := type = .unknown ∨ type = .primitive "int"

/-- The typing rule for a node, if there is one for its kind. -/
def WellTyped (env : Environment) : Node → Prop
  | .binary op left right _ =>
      ∃ leftType rightType, HasType env left leftType ∧ HasType env right rightType ∧
        MayCombine op leftType rightType
  | .reference name index _ =>
      index ≠ .hole → (∃ type, HasType env index type ∧ MayIndex type) ∧
        ∃ inner, NameHasType env name (.array inner)
  | .assign target index value _ =>
      (index ≠ .hole → ∃ type, HasType env index type ∧ MayIndex type) ∧
        ∃ type, HasType env value type ∧
          (type = .unknown ∨ (index = .hole ∧ NameHasType env target type) ∨
            (index ≠ .hole ∧ NameHasType env target (.array type)))
  | .stream (some channel) _ => NameHasType env channel (.primitive "stream")
  | .decl _ typeName isRecord dims initial _ =>
      initial ≠ .hole → ∃ type, HasType env initial type ∧
        (type = .unknown ∨ type = namedType typeName isRecord dims)
  | _ => True

variable {env : Environment} {type other : Ty}

theorem NameHasType.unique {name : String} (named : NameHasType env name type)
    (namedOther : NameHasType env name other) : type = other := by
  obtain ⟨symbol, fields, refers⟩ := named
  obtain ⟨symbol', fields', refers'⟩ := namedOther
  have found := (@Environment.resolve_eq_ok_iff env name ⟨symbol, type, fields⟩).mpr refers
  have found' := (@Environment.resolve_eq_ok_iff env name ⟨symbol', other, fields'⟩).mpr refers'
  rw [found] at found'
  cases found'
  rfl

theorem HasType.unique {node : Node} (typed : HasType env node type)
    (typedOther : HasType env node other) : type = other := by
  induction typed generalizing other with
  | fraction =>
      cases typedOther with
      | fraction => rfl
      | number whole => exact absurd rfl whole
  | number whole =>
      cases typedOther with
      | fraction => exact absurd rfl whole
      | number => rfl
  | stringLiteral | call | logical =>
      cases typedOther
      rfl
  | reference position named =>
      cases typedOther with
      | reference _ namedOther => exact named.unique namedOther
      | element _ indexed _ => exact absurd rfl indexed
  | element position indexed named =>
      cases typedOther with
      | reference _ _ => exact absurd rfl indexed
      | element _ _ namedOther => rw [named.unique namedOther]
  | binary op position leftTyped rightTyped leftIh rightIh =>
      cases typedOther with
      | binary _ _ leftOther rightOther => rw [leftIh leftOther, rightIh rightOther]
  | flag position named =>
      cases typedOther with
      | flag _ namedOther => exact named.unique namedOther

theorem HasType.exists_and_iff {node : Node} (typed : HasType env node type) {asked : Ty → Prop} :
    (∃ type, HasType env node type ∧ asked type) ↔ asked type := by
  constructor
  · rintro ⟨other, typedOther, holds⟩
    rw [typed.unique typedOther]
    exact holds
  · intro holds
    exact ⟨type, typed, holds⟩

theorem NameHasType.iff_eq {name : String} (named : NameHasType env name type) :
    NameHasType env name other ↔ type = other := by
  constructor
  · exact named.unique
  · rintro rfl
    exact named

end Types

def Resolves (env : Environment) : Node → Prop
  | .reference name _ _ | .flag name _ | .assign name _ _ _ | .stream (some name) _ =>
      ∃ symbol fields type, env.RefersTo name symbol fields type
  | _ => True

/-- An assignment is not to a sensor, not to a stream or an element of an array of streams, and
to a variable that all agents read only of the agent's own identity, not in parentheses. -/
def PermittedWrite (env : Environment) : Node → Prop
  | .assign target index value _ =>
      ∀ symbol fields type, env.RefersTo target symbol fields type →
        symbol.scope ≠ .sensor ∧
        (type ≠ .primitive "stream" ∧
          (index ≠ .hole → type ≠ .array (.primitive "stream"))) ∧
        (symbol.scope = .allRead → ∃ text position, value = .constant .pid text position false)
  | _ => True

/-- No name is declared twice. Records may be where a later definition replaces an earlier
one. -/
structure NamesDistinct (policy : RedefinitionPolicy) (program : Node) : Prop where
  variableNames : ((programVariables program).map (·.name)).Nodup
  fieldNames : ∀ record ∈ programRecords program, (record.2.map (·.1)).Nodup
  recordNames : policy = .reject → ((programRecords program).map (·.1)).Nodup

structure Acceptable (policy : RedefinitionPolicy) (program : Node) : Prop where
  distinct : NamesDistinct policy program
  resolved : ∀ node ∈ program.preorder, Resolves (environment program) node
  typed : ∀ node ∈ program.preorder, WellTyped (environment program) node
  permitted : ∀ node ∈ program.preorder, PermittedWrite (environment program) node

end Rules

end SwarmCheck
