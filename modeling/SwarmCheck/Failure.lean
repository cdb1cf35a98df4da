import SwarmCheck.Diagnostics.Diagnostic
import SwarmCheck.Fault

/-!
# Failures

What a tool that embeds the analysis reports to its user: a failure of the tool in general, a
tree that the analysis does not understand, or a program that it rejects.
-/

namespace SwarmCheck

set_option autoImplicit false

structure Rejection where
  text : String
  filename : Option String
  diagnostics : List Diagnostic
  deriving DecidableEq, Repr

namespace Rejection

def diagnosticLine (diagnostic : Diagnostic) : String :=
  let location :=
    match diagnostic.line with
    | none => ""
    | some line => " at line " ++ toString line
  "  - [" ++ diagnostic.code.text ++ "] " ++ diagnostic.message ++ location

def message (rejection : Rejection) : String :=
  if rejection.diagnostics.isEmpty then rejection.text
  else
    "semantic analysis failed:\n" ++
      String.intercalate "\n" (rejection.diagnostics.map diagnosticLine)

end Rejection

inductive Failure where
  | general (text : String) (filename : Option String)
  | internal (text : String) (filename : Option String)
  | unknownType (typeName : String) (filename : Option String)
  | rejected (rejection : Rejection)
  deriving DecidableEq, Repr

namespace Failure

def message : Failure → String
  | general text _ => text
  | internal text _ => text
  | unknownType typeName _ => (Fault.unknownType typeName).message
  | rejected rejection => rejection.message

def filename : Failure → Option String
  | general _ filename => filename
  | internal _ filename => filename
  | unknownType _ filename => filename
  | rejected rejection => rejection.filename

def isInternal : Failure → Bool
  | internal .. => true
  | unknownType .. => true
  | general .. => false
  | rejected .. => false

end Failure

/-- The failure that a fault is reported as, if a tree read from source can cause it. -/
def Fault.failure? (fault : Fault) : Option Failure :=
  match fault.kind with
  | .tree => some (.internal fault.message none)
  | .typeName typeName => some (.unknownType typeName none)
  | .name | .value | .root => none

end SwarmCheck
