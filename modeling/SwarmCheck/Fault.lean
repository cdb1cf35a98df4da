import SwarmCheck.Types.Ty

/-!
# Faults

Why an analysis had to stop. A fault says that the tree is not one the analysis understands; a
program that is merely wrong gives findings instead.
-/

namespace SwarmCheck

set_option autoImplicit false

inductive Fault where
  -- reading a parse tree
  | unknownRule (rule : String)
  | reservedName (name : String)
  | unnamedModule
  | unnamedDeclaration
  | unnamedRecord
  | statementParts (count : Nat)
  | malformedAssignment
  | missingCondition
  | missingOperator
  | unrecognizedNumber (listing : String)
  | unrecognizedValue (listing : String)
  -- analysing a program
  | unknownType (typeName : String)
  | outsideGroup (name : String)
  | unresolvedReference (text : String)
  | unresolvedTarget (text : String)
  | emptyPlace
  | namelessRoot (phrase : String)
  -- asking for the element type of something else than an array
  | notAnArray (type : Ty)
  deriving DecidableEq, Repr

/-- What a fault blames: the tree, a type name in it, the name of a rule or token, or a use of
the library that no tree read from source can cause. -/
inductive FaultKind where
  | tree
  | typeName (name : String)
  | name
  | value
  | root
  deriving DecidableEq, Repr

namespace Fault

def kind : Fault → FaultKind
  | unknownType typeName => .typeName typeName
  | reservedName _ => .name
  | emptyPlace => .value
  | notAnArray _ => .value
  | namelessRoot _ => .root
  | unknownRule _ | unnamedModule | unnamedDeclaration | unnamedRecord | statementParts _
  | malformedAssignment | missingCondition | missingOperator | unrecognizedNumber _
  | unrecognizedValue _ | outsideGroup _ | unresolvedReference _ | unresolvedTarget _ => .tree

def message : Fault → String
  | unknownRule rule => "unrecognized grammar rule '" ++ rule ++ "'"
  | reservedName name => "reserved name '" ++ name ++ "'"
  | unnamedModule => "module block without a name"
  | unnamedDeclaration => "declaration without a variable name"
  | unnamedRecord => "record type definition without a name"
  | statementParts count => "statement with " ++ toString count ++ " parts"
  | malformedAssignment => "malformed assignment"
  | missingCondition => "conditional without a condition"
  | missingOperator => "binary expression without an operator"
  | unrecognizedNumber listing => "unable to recognize number " ++ listing
  | unrecognizedValue listing => "unrecognized value expression " ++ listing
  | unknownType typeName => "unable to determine type '" ++ typeName ++ "'"
  | outsideGroup name => "declaration of '" ++ name ++ "' outside a declaration group"
  | unresolvedReference text =>
      "reference '" ++ text ++ "' was not resolved before type checking"
  | unresolvedTarget text => "assignment target '" ++ text ++ "' was not resolved"
  | emptyPlace => "must be called with a dataclass type or instance"
  | namelessRoot phrase => phrase ++ " has no attribute 'name'"
  | notAnArray type => "type '" ++ type.text ++ "' is not an array"

end Fault

def Ty.inner (type : Ty) : Except Fault Ty :=
  match type.inner? with
  | some inner => .ok inner
  | none => .error (.notAnArray type)

end SwarmCheck
