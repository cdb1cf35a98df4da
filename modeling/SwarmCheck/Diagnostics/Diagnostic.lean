import SwarmCheck.Diagnostics.Code
import SwarmCheck.Syntax.Position

/-!
# Diagnostics

One problem found in a program, ready to be shown: its code, the message, the name it is about,
where it was found and what may help.
-/

namespace SwarmCheck

set_option autoImplicit false

structure Diagnostic where
  code : Code
  message : String
  subject : Option String := none
  position : Option Position := none
  help : Option String := none
  deriving DecidableEq, Repr

namespace Diagnostic

def severity : String := "error"

def ofCode (code : Code) (params : Params) (subject : Option String)
    (position : Option Position) (help : Option String) : Diagnostic :=
  ⟨code, code.message params, subject, position, help⟩

/-- A diagnostic for parameters of any names. Its own parts are looked for among them first. -/
def ofParams (code : Code) (params : Params) (subject : Option String)
    (position : Option Position) (help : Option String) : Except ParamClash Diagnostic :=
  match params.firstNamed? ["subject", "position", "help_text"] with
  | some name => .error (.withPart name)
  | none =>
      match params.firstNamed? ["cls", "code"] with
      | some name => .error (.inDiagnostic name)
      | none => .ok (.ofCode code params subject position help)

def line (diagnostic : Diagnostic) : Option Int := diagnostic.position.bind (·.line)

def column (diagnostic : Diagnostic) : Option Int := diagnostic.position.bind (·.column)

def header (diagnostic : Diagnostic) : String :=
  severity ++ "[" ++ diagnostic.code.text ++ "]: " ++ diagnostic.message

def locationLine (position : Position) : String :=
  "  --> line " ++ coordinateText position.line ++ ":" ++ coordinateText position.column

def helpLine (help : String) : String := "  = help: " ++ help

/-- The header, then a line for the position and one for the help, where there are any. -/
def format (diagnostic : Diagnostic) : String :=
  String.intercalate "\n"
    (diagnostic.header ::
      ((diagnostic.position.map locationLine).toList ++
        (diagnostic.help.map helpLine).toList))

end Diagnostic

end SwarmCheck
