import SwarmCheck.Fault
import SwarmCheck.Settings.Basic
import SwarmCheck.Symbols.Table
import SwarmCheck.Trail

/-!
# Declarations

The first pass walks a program once and lists what it declares: variables, each qualified by its
module and scoped by its group, and record types with their fields. Only then are the
declarations entered into a table, one after another. The first declaration of a name stays; a
later one becomes a finding.
-/

namespace SwarmCheck

set_option autoImplicit false

def declaredType (typeName : String) (isRecord : Bool) (dims : Int) : Except Fault Ty :=
  if isRecord then .ok ((Ty.record typeName).arrayOf dims)
  else if typeName ∈ Ty.primitiveNames then .ok ((Ty.primitive typeName).arrayOf dims)
  else .error (.unknownType typeName)

/-- The name of a variable declared in a module. No module, or one without a name, adds
nothing. -/
def qualifiedName (name : String) (block : Option String) : String :=
  match block with
  | none => name
  | some block => if block = "" then name else block ++ "." ++ name

inductive Declaration where
  | symbol (symbol : Symbol)
  | repeatedField (record field : String) (site : Node)
  | record (name : String) (fields : Fields) (site : Node)

namespace Declarations

/-- What surrounds a node: the nearest module, declaration group and record definition. -/
structure Context where
  block : Option String := none
  scope : Option Scope := none
  record : Option String := none

abbrev Collect := Trail Declaration Fault

/-- A declaration is a field inside a record definition and a variable elsewhere. `fields` are
the fields that the record has so far. -/
def collectDecl (context : Context) (fields : Fields) (site : Node)
    (name typeName : String) (isRecord : Bool) (dims : Int) : Collect Fields :=
  match declaredType typeName isRecord dims with
  | .error fault => .fail fault
  | .ok type =>
      match context.record with
      | some record =>
          if fields.contains name then do
            .emit [.repeatedField record name site]
            return fields
          else return fields.insert name type
      | none =>
          match context.scope with
          | none => .fail (.outsideGroup name)
          | some scope => do
              .emit [.symbol
                { name := qualifiedName name context.block, type, scope, definedAt := site }]
              return fields

mutual

/-- The declarations at and below a place. Takes and returns the fields of the record definition
around it. -/
def collect (context : Context) (fields : Fields) : Node → Collect Fields
  | .hole | .stray _ | .otherwise _ => return fields
  | .bundle _ parts => collectIn context fields parts
  | .moduleBlock name groups _ =>
      collectAll { context with block := some name } fields groups
  | .group kind decls _ =>
      collectAll { context with scope := some (Scope.ofGroup kind) } fields decls
  | site@(.record name decls _) => do
      let own ← collectAll { context with record := some name } .empty decls
      .emit [.record name own site]
      return fields
  | site@(.decl name typeName isRecord dims _ _) =>
      collectDecl context fields site name typeName isRecord dims
  | .constant .. | .stringLiteral .. | .flag .. | .stream .. => return fields
  | .reference _ index _ => collect context fields index
  | .call _ args _ => collectIn context fields args
  | .binary _ left right _ => do
      let fields ← collect context fields left
      collect context fields right
  | .logical _ operands _ => collectIn context fields operands
  | .assign _ index value _ => do
      let fields ← collect context fields index
      collect context fields value
  | .conditional condition thenBody elseBody _ => do
      let fields ← collect context fields condition
      let fields ← collectIn context fields thenBody
      collectIn context fields elseBody
  | .event _ precondition effects _ => do
      let fields ← collect context fields precondition
      collectIn context fields effects
  | .program _ items _ => collectIn context fields items

def collectAll (context : Context) (fields : Fields) : List Node → Collect Fields
  | [] => return fields
  | node :: rest => do
      let fields ← if node.isBlank then .fail .emptyPlace else collect context fields node
      collectAll context fields rest

def collectIn (context : Context) (fields : Fields) : List Node → Collect Fields
  | [] => return fields
  | node :: rest => do
      let fields ← if node.isBlank then pure fields else collect context fields node
      collectIn context fields rest

end

def ofProgram (program : Node) : Collect Fields :=
  if program.isBlank then .fail .emptyPlace else collect {} .empty program

end Declarations

namespace SymbolTable

def enter (policy : RedefinitionPolicy) (table : SymbolTable) : Declaration → SymbolTable
  | .symbol symbol =>
      if table.env.symbols.contains symbol.name then
        table.report (.redeclared symbol.name symbol.definedAt)
      else table.declare symbol
  | .repeatedField record field site => table.report (.redeclared (record ++ "." ++ field) site)
  | .record name fields site =>
      match table.env.registry.verdict name (policy = .replace) with
      | .refused => table.report (.redeclared name site)
      | .added | .replaced =>
          { table with env := table.env.defineRecord name fields (policy = .replace) }

def enterNotes (policy : RedefinitionPolicy) (table : SymbolTable) :
    Declaration → List Log.Record
  | .symbol symbol => table.env.declareNotes symbol
  | .repeatedField .. => []
  | .record name fields _ =>
      table.env.registry.defineNotes name fields (policy = .replace)

def enterAll (policy : RedefinitionPolicy) (table : SymbolTable)
    (declarations : List Declaration) : SymbolTable :=
  declarations.foldl (enter policy) table

def enterAllNotes (policy : RedefinitionPolicy) : SymbolTable → List Declaration →
    List Log.Record
  | _, [] => []
  | table, declaration :: rest =>
      table.enterNotes policy declaration ++
        enterAllNotes policy (table.enter policy declaration) rest

end SymbolTable

end SwarmCheck
