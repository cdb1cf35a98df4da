import SwarmCheck.Analysis.Declarations
import SwarmCheck.Analysis.Entry
import SwarmCheck.Symbols.Resolution

/-!
# Typing

The third pass infers types bottom-up with a stack of operand types: the children of a node are
visited before the node itself, every expression leaves one type, and its parent takes it up. The
stack is emptied after each declaration and after each statement of an event or a conditional.
An operand that is not there counts as unknown.
-/

namespace SwarmCheck

set_option autoImplicit false

namespace Typing

/-- Operand types, the most recent first. -/
abbrev Operands := List Ty

def note (text : String) : Pass Unit := .emit [.note (Log.debug .typing text)]

def mismatch (site : Node) (construct expected actual : String) : Pass Unit := do
  note ("Type mismatch in " ++ construct ++ ": " ++ expected ++ " vs " ++ actual)
  .emit [.report (.mismatch site construct expected actual)]

def pop : Operands → Pass (Ty × Operands)
  | [] => do
      note "Type stack empty, treating operand as unknown"
      return (.unknown, [])
  | type :: rest => return (type, rest)

def popMany : Nat → Operands → Pass Operands
  | 0, stack => return stack
  | count + 1, stack => do
      let (_, stack) ← pop stack
      popMany count stack

def typeOf (env : Environment) (text : String) : Pass Ty :=
  match env.resolve text with
  | .ok resolution => return resolution.type
  | .error cause => do
      .emit (cause.notes.map .note)
      .fail (.unresolvedReference text)

def constantType : ConstantKind → Ty
  | .float => .float
  | .int | .pid | .numAgents => .int

/-- An index has to be an integer, if its type is known at all. -/
def checkIndex (site : Node) (index : Ty) : Pass Unit :=
  if index.isUnknown || index = .int then return ()
  else mismatch site "array index" Ty.int.text index.text

/-- The type of an operation. An unknown operand makes it unknown, `+` with a string joins
texts, and otherwise both sides have to agree. -/
def binaryType (site : Node) (op : String) (left right : Ty) : Pass Ty :=
  if left.isUnknown || right.isUnknown then return .unknown
  else if op = "+" && (left = .string || right = .string) then return .string
  else do
    if left ≠ right then
      mismatch site ("'" ++ op ++ "' expression") left.text right.text
    return left

def elementType (site : Node) (name : String) : Ty → Pass Ty
  | .array inner => return inner
  | type => do
      mismatch site ("indexing '" ++ name ++ "'") "array" type.text
      return .unknown

def leaveBinary (site : Node) (op : String) (stack : Operands) : Pass Operands := do
  let (right, stack) ← pop stack
  let (left, stack) ← pop stack
  let type ← binaryType site op left right
  return type :: stack

def leaveReference (env : Environment) (site : Node) (name : String) (index : Node)
    (stack : Operands) : Pass Operands := do
  let type ← typeOf env name
  if index.isHole then return type :: stack
  else
    let (indexType, stack) ← pop stack
    checkIndex site indexType
    let element ← elementType site name type
    return element :: stack

/-- Whether a value fits the variable it is assigned to, or an element of it. -/
def checkTarget (site : Node) (target : String) (indexed : Bool) (type actual : Ty) : Pass Unit :=
  if !indexed then
    if type = actual then return ()
    else mismatch site ("assignment to '" ++ target ++ "'") type.text actual.text
  else
    match type with
    | .array inner =>
        if inner = actual then return ()
        else mismatch site ("assignment to '" ++ target ++ "[...]'") inner.text actual.text
    | other => mismatch site ("indexing '" ++ target ++ "'") "array" other.text

def popIndex (site : Node) (index : Node) (stack : Operands) : Pass Operands :=
  if index.isHole then return stack
  else do
    let (indexType, stack) ← pop stack
    checkIndex site indexType
    return stack

def leaveAssign (env : Environment) (site : Node) (target : String) (index : Node)
    (stack : Operands) : Pass Operands := do
  let (actual, stack) ← pop stack
  let stack ← popIndex site index stack
  if actual.isUnknown then return stack
  else
    let type ← typeOf env target
    checkTarget site target (!index.isHole) type actual
    return stack

def checkStream (env : Environment) (site : Node) : Option String → Pass Unit
  | none => return ()
  | some channel => do
      let type ← typeOf env channel
      if type = .stream then return ()
      else mismatch site ("stream statement on '" ++ channel ++ "'") Ty.stream.text type.text

def leaveDecl (site : Node) (name typeName : String) (isRecord : Bool) (dims : Int)
    (initial : Node) (stack : Operands) : Pass Unit :=
  if initial.isHole then return ()
  else do
    let (actual, _) ← pop stack
    if actual.isUnknown then return ()
    else
      match declaredType typeName isRecord dims with
      | .error fault => .fail fault
      | .ok expected =>
          if expected = actual then return ()
          else mismatch site ("initializer of '" ++ name ++ "'") expected.text actual.text

mutual

def visit (env : Environment) (stack : Operands) : Node → Pass Operands
  | .hole | .stray _ | .otherwise _ => return stack
  | .bundle _ parts => visitIn env stack parts
  | .event _ precondition effects _ => do
      let stack ←
        if precondition.isHole then pure stack
        else if precondition.isBlank then .fail .emptyPlace
        else do
          let _ ← visit env stack precondition
          pure []
      visitStatements env stack effects
  | .conditional condition thenBody elseBody _ => do
      let _ ← if condition.isBlank then .fail .emptyPlace else visit env stack condition
      let stack ← visitStatements env [] thenBody
      visitStatements env stack elseBody
  | .constant kind _ _ _ => return constantType kind :: stack
  | .stringLiteral .. => return .string :: stack
  | site@(.reference name index _) => do
      let stack ← visit env stack index
      leaveReference env site name index stack
  | .call _ args _ => do
      let stack ← visitIn env stack args
      let stack ← popMany args.length stack
      return .unknown :: stack
  | site@(.binary op left right _) => do
      let stack ← visit env stack left
      let stack ← visit env stack right
      leaveBinary site op stack
  | .logical _ operands _ => do
      let stack ← visitIn env stack operands
      let stack ← popMany operands.length stack
      return .bool :: stack
  | .flag name _ => do
      let type ← typeOf env name
      return type :: stack
  | site@(.assign target index value _) => do
      let stack ← visit env stack index
      let stack ← visit env stack value
      leaveAssign env site target index stack
  | site@(.stream channel _) => do
      checkStream env site channel
      return stack
  | site@(.decl name typeName isRecord dims initial _) => do
      let stack ← visit env stack initial
      leaveDecl site name typeName isRecord dims initial stack
      return []
  | .group _ decls _ => visitIn env stack decls
  | .moduleBlock _ groups _ => visitIn env stack groups
  | .record _ fields _ => visitIn env stack fields
  | .program _ items _ => visitIn env stack items

def visitIn (env : Environment) (stack : Operands) : List Node → Pass Operands
  | [] => return stack
  | node :: rest => do
      let stack ← if node.isBlank then pure stack else visit env stack node
      visitIn env stack rest

/-- Visits statements one by one, none of which may be blank; each leaves an empty stack
behind. -/
def visitStatements (env : Environment) (stack : Operands) : List Node → Pass Operands
  | [] => return stack
  | node :: rest => do
      let _ ← if node.isBlank then .fail .emptyPlace else visit env stack node
      visitStatements env [] rest

end

def check (env : Environment) (program : Node) : Pass Unit := do
  let _ ← if program.isBlank then .fail .emptyPlace else visit env [] program
  return ()

end Typing

end SwarmCheck
