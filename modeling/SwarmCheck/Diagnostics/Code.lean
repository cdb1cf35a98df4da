import SwarmCheck.Log.Record
import SwarmCheck.Text.Quoted

/-!
# Error codes

Each kind of problem has a code and a message template with named slots. Codes below `E0100`
are about names and types, codes from `E0100` about writes that a variable does not permit.
-/

namespace SwarmCheck

set_option autoImplicit false

inductive Code where
  | unresolved
  | redeclared
  | mismatch
  | sensorWrite
  | streamWrite
  | readOnlyWrite
  deriving DecidableEq, Repr

/-- A piece of a message template: fixed text, or a slot to be filled by name. -/
inductive Piece where
  | text (text : String)
  | slot (name : String)
  deriving DecidableEq, Repr

abbrev Template := List Piece

abbrev Params := List (String × String)

/-- A parameter has the name of something that a message or a diagnostic is given besides its
parameters. -/
inductive ParamClash where
  | inMessage (name : String)
  | inDiagnostic (name : String)
  | withPart (name : String)
  deriving DecidableEq, Repr

def ParamClash.message : ParamClash → String
  | inMessage name => "format_error_message() got multiple values for argument '" ++ name ++ "'"
  | inDiagnostic name => "Diagnostic.for_code() got multiple values for argument '" ++ name ++ "'"
  | withPart name =>
      "koord.dsl.errors.diagnostics.Diagnostic.for_code() got multiple values for keyword " ++
        "argument '" ++ name ++ "'"

def Params.firstNamed? (params : Params) (names : List String) : Option String :=
  (params.map Prod.fst).find? (names.contains ·)

namespace Template

def slotText (name : String) : String := "\x7b" ++ name ++ "\x7d"

def fillPiece (params : Params) : Piece → String
  | .text text => text
  | .slot name => (params.lookup name).getD (slotText name)

/-- Fills the slots of a template. A slot without a value is kept as written. -/
def fill (template : Template) (params : Params) : String :=
  String.join (template.map (fillPiece params))

def source (template : Template) : String := template.fill []

def missing (template : Template) (params : Params) : List String :=
  template.filterMap fun
    | .text _ => none
    | .slot name => if (params.lookup name).isSome then none else some name

end Template

namespace Code

def text : Code → String
  | unresolved => "E0001"
  | redeclared => "E0003"
  | mismatch => "E0004"
  | sensorWrite => "E0101"
  | streamWrite => "E0102"
  | readOnlyWrite => "E0103"

def ofText? : String → Option Code
  | "E0001" => some unresolved
  | "E0003" => some redeclared
  | "E0004" => some mismatch
  | "E0101" => some sensorWrite
  | "E0102" => some streamWrite
  | "E0103" => some readOnlyWrite
  | _ => none

def category : Code → String
  | unresolved | redeclared => "reference"
  | mismatch => "type"
  | sensorWrite | streamWrite | readOnlyWrite => "scope"

def template : Code → Template
  | unresolved => [.text "unresolved symbol '", .slot "name", .text "'"]
  | redeclared => [.text "'", .slot "name", .text "' is declared more than once"]
  | mismatch =>
      [.text "type mismatch in ", .slot "construct", .text ": expected ", .slot "expected",
        .text ", got ", .slot "actual"]
  | sensorWrite => [.text "cannot assign to sensor '", .slot "name", .text "'"]
  | streamWrite => [.text "cannot assign to stream '", .slot "name", .text "'"]
  | readOnlyWrite =>
      [.text "allread variable '", .slot "name", .text "' may only be assigned pid"]

def message (code : Code) (params : Params) : String := code.template.fill params

def messageFor (code : Code) (params : Params) : Except ParamClash String :=
  match params.firstNamed? ["code"] with
  | some name => .error (.inMessage name)
  | none => .ok (code.message params)

def messageNotes (code : Code) (params : Params) : List Log.Record :=
  (code.template.missing params).map fun name =>
    Log.warning .messages ("Missing parameter for error message: " ++ name)

def invalidText (text : String) : String := Text.quoted text ++ " is not a valid ErrorCode"

end Code

end SwarmCheck
