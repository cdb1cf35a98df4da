import SwarmCheck.Analysis.Analyzer
import SwarmCheck.Failure
import SwarmCheck.Syntax.Lowering

/-!
# Analysis of a parse tree

Three ways to analyse the parse tree of a program: for its symbol table, for its diagnostics, or
strictly, where anything but a valid program is an error.
-/

namespace SwarmCheck

set_option autoImplicit false

namespace FrontEnd

def fileLabel : Option String → String
  | none => "<tree>"
  | some filename => if filename = "" then "<tree>" else filename

def note (text : String) : Log.Record := Log.debug .frontEnd text

end FrontEnd

def analyzeTree (settings : Settings) (filename : Option String) (tree : ParseTree) :
    Logged SymbolTable := do
  .emit [FrontEnd.note ("Analyzing Koord file: " ++ FrontEnd.fileLabel filename)]
  match tree.lower with
  | .error fault => .fail fault
  | .ok item => analyze settings item.part

def validateTree (settings : Settings) (filename : Option String) (tree : ParseTree) :
    Logged (List Diagnostic) := do
  let table ← analyzeTree settings filename tree
  let diagnostics := table.diagnostics
  if !diagnostics.isEmpty then
    .emit [FrontEnd.note ("Semantic errors in " ++ FrontEnd.fileLabel filename ++ ": " ++
      toString diagnostics.length ++ " diagnostics")]
  return diagnostics

/-- Why a strict check does not return a table. -/
inductive CheckError where
  | fault (fault : Fault)
  | rejected (rejection : Rejection)
  deriving DecidableEq, Repr

def checkTree (settings : Settings) (filename : Option String) (tree : ParseTree) :
    Trail Log.Record CheckError SymbolTable :=
  let analysed := analyzeTree settings filename tree
  { emitted := analysed.emitted
    outcome :=
      match analysed.outcome with
      | .error fault => .error (.fault fault)
      | .ok table =>
          if table.isValid then .ok table
          else .error (.rejected ⟨"semantic analysis failed", filename, table.diagnostics⟩) }

end SwarmCheck
