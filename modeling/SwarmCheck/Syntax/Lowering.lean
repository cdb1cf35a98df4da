import SwarmCheck.Syntax.ParseTree
import SwarmCheck.Syntax.Reader
import SwarmCheck.Text.LowerCase

/-!
# From parse trees to syntax nodes

A tree is read bottom-up, children from left to right, so the first fault in that order is the
one that counts. A rule picks the tokens and nodes it needs from its children and ignores the
rest. A token that has the name of a rule is read by that rule as well, its characters taking
the place of children; few rules can do with that.
-/

namespace SwarmCheck

set_option autoImplicit false

namespace Lowering

open Item

def primitiveTokens : List (String × String) :=
  [("INT", "int"), ("FLOAT", "float"), ("BOOL", "bool"), ("POS", "pos"),
    ("STRINGTYPE", "string"), ("STREAM", "stream")]

def constantTokens : List (String × ConstantKind) :=
  [("FNUM", .float), ("INUM", .int), ("PID", .pid), ("NUMAGENTS", .numAgents)]

/-- Takes off a pair of equal quotes around a text, if there is one. -/
def unquote (text : String) : String :=
  match text.toList with
  | first :: rest =>
      if (first = '"' || first = '\'') && rest.getLast? = some first then
        String.ofList rest.dropLast
      else text
  | [] => text

def nameOrBlank (kinds : List String) (items : List Item) : String :=
  (firstText? kinds items).getD ""

def readProgram (mark : Mark) (items : List Item) : Node :=
  .program (nameOrBlank ["VARNAME", "UPPER"] items) (nodes items) mark.position

def readModule (mark : Mark) (items : List Item) : Except Fault Node :=
  match firstText? ["UPPER", "VARNAME"] items with
  | none => .error .unnamedModule
  | some name => .ok (.moduleBlock name ((nodes items).filter (·.isGroup)) mark.position)

def readGroup (kind : GroupKind) (mark : Mark) (items : List Item) : Node :=
  .group kind ((nodes items).filter (·.isDecl)) mark.position

/-- The type a declaration names, and whether it is a record type. A record name goes before a
primitive type; a declaration with neither is blamed on its first token besides the name. -/
def readTypeName (items : List Item) : Except Fault (String × Bool) :=
  match firstText? ["UPPER"] items with
  | some typeName => .ok (typeName, true)
  | none =>
      match (tokens items).findSome? (primitiveTokens.lookup ·.kind) with
      | some typeName => .ok (typeName, false)
      | none =>
          let others := (tokens items).eraseP (·.kind == "VARNAME")
          .error (.unknownType ((others.head?.map (·.text)).getD ""))

def readDecl (mark : Mark) (items : List Item) : Except Fault Node :=
  match firstText? ["VARNAME"] items with
  | none => .error .unnamedDeclaration
  | some name =>
      match readTypeName items with
      | .error fault => .error fault
      | .ok (typeName, isRecord) =>
          .ok (.decl name typeName isRecord (items.countP (·.isDimension))
            ((nodes items).head?.getD .hole) mark.position)

def readRecord (mark : Mark) (items : List Item) : Except Fault Node :=
  match firstText? ["UPPER"] items with
  | none => .error .unnamedRecord
  | some name => .ok (.record name ((nodes items).filter (·.isDecl)) mark.position)

/-- A leading condition is the precondition of an event. -/
def readEvent (mark : Mark) (items : List Item) : Node :=
  let name := nameOrBlank ["VARNAME", "UPPER"] items
  match nodes items with
  | [] => .event name .hole [] mark.position
  | first :: rest =>
      if first.isCondition then .event name first rest mark.position
      else .event name .hole (first :: rest) mark.position

def readStatement (items : List Item) : Except Fault Node :=
  match nodes items with
  | [statement] => .ok statement
  | others => .error (.statementParts others.length)

def readAssign (mark : Mark) (items : List Item) : Except Fault Node :=
  match firstText? ["VARNAME"] items, nodes items with
  | some target, [value] => .ok (.assign target .hole value mark.position)
  | some target, index :: next :: rest =>
      .ok (.assign target index ((next :: rest).getLast (List.cons_ne_nil _ _)) mark.position)
  | _, _ => .error .malformedAssignment

def readStream (mark : Mark) (items : List Item) : Node :=
  .stream (firstText? ["VARNAME"] items) mark.position

/-- Of several else branches the last one counts. -/
def elseStatements (items : List Item) : List Node :=
  (items.filterMap otherwise?).getLast?.getD []

def readConditional (mark : Mark) (items : List Item) : Except Fault Node :=
  match nodes items with
  | [] => .error .missingCondition
  | condition :: thenBody =>
      .ok (.conditional condition thenBody (elseStatements items) mark.position)

def readConstant (list : List Item → String) (mark : Mark) (items : List Item) :
    Except Fault Node :=
  let found := (tokens items).findSome? fun token =>
    (constantTokens.lookup token.kind).map fun kind => (kind, token.text)
  match found with
  | some (kind, text) => .ok (.constant kind text mark.position false)
  | none => .error (.unrecognizedNumber (list items))

def readCall (mark : Mark) (items : List Item) : Node :=
  .call (nameOrBlank ["VARNAME", "UPPER"] items) (nodes items) mark.position

/-- Whether the first opening parenthesis among the tokens has any text. -/
def opensParenthesis (items : List Item) : Bool :=
  match firstText? ["LPAR"] items with
  | some text => text ≠ ""
  | none => false

/-- Parentheses leave no node of their own: a constant remembers them, every other expression
stands for itself. -/
def readValue (list : List Item → String) (mark : Mark) (items : List Item) :
    Except Fault Node :=
  match nodes items with
  | [left, right] =>
      match operator? items with
      | some op => .ok (.binary op left right mark.position)
      | none => .error .missingOperator
  | parts =>
      match firstText? ["VARNAME"] items with
      | some name => .ok (.reference name (parts.head?.getD .hole) mark.position)
      | none =>
          match firstText? ["STRING"] items with
          | some text => .ok (.stringLiteral (unquote text) mark.position)
          | none =>
              match parts with
              | [inner] => .ok (if opensParenthesis items then inner.parenthesise else inner)
              | _ => .error (.unrecognizedValue (list items))

def readOperation (mark : Mark) (items : List Item) : Node :=
  match operator? items, nodes items with
  | none, [inner] =>
      if inner.isCondition then inner else .logical "" [inner] mark.position
  | op, operands => .logical (op.getD "") operands mark.position

def readCondition (mark : Mark) (items : List Item) : Node :=
  match nodes items with
  | [] =>
      match firstText? ["VARNAME"] items with
      | some name => .flag name mark.position
      | none =>
          match firstText? ["TRUE", "FALSE"] items with
          | some text => .logical (Text.lower text) [] mark.position
          | none => readOperation mark items
  | _ => readOperation mark items

end Lowering

open Lowering in
/-- What a rule makes of its children. `list` is how a fault lists them. -/
def Rule.read (list : List Item → String) (mark : Mark) (items : List Item) :
    Rule → Except Fault Item
  | program => .ok (.node (readProgram mark items))
  | moduleBlock => (readModule mark items).map .node
  | group kind => .ok (.node (readGroup kind mark items))
  | dimension => .ok .dimension
  | decl => (readDecl mark items).map .node
  | record => (readRecord mark items).map .node
  | event => .ok (.node (readEvent mark items))
  | statement => (readStatement items).map .node
  | assign => (readAssign mark items).map .node
  | stream => .ok (.node (readStream mark items))
  | elseBlock => .ok (.otherwise (Item.nodes items))
  | conditional => (readConditional mark items).map .node
  | constant => (readConstant list mark items).map .node
  | call => .ok (.node (readCall mark items))
  | value => (readValue list mark items).map .node
  | condition => .ok (.node (readCondition mark items))

def Token.strays (token : Token) : List Node :=
  token.text.toList.map fun c => .stray (.text (String.ofList [c]))

def Rule.readToken (token : Token) : Rule → Except Fault Item
  | dimension => .ok .dimension
  | elseBlock => .ok (.otherwise token.strays)
  | statement => (Lowering.readStatement (token.strays.map .node)).map .node
  | _ => .error (.reservedName token.kind)

namespace Reader

def readRule (reader : Reader) (name : String) (mark : Mark) (items : List Item) :
    Except Fault (Item × Reader) :=
  match Rule.ofName? name with
  | some rule =>
      if reader.bars rule then .error (.reservedName name)
      else (rule.read reader.list mark items).map (·, reader)
  | none =>
      match Reserved.ofName? name with
      | some reserved => reader.answerRule name items reserved.request
      | none => .error (.unknownRule name)

/-- A token stands for itself, unless its kind is the name of a rule or reserved. -/
def readToken (reader : Reader) (token : Token) : Except Fault (Item × Reader) :=
  if !reader.readsTokens then .ok (.token token, reader)
  else
    match Rule.ofName? token.kind with
    | some rule => (rule.readToken token).map (·, reader)
    | none =>
        match Reserved.ofName? token.kind with
        | some reserved => reader.answerToken token reserved.request
        | none => .ok (.token token, reader)

mutual

/-- Reads a tree. Returns what the rest is to be read by as well. -/
def read (reader : Reader) : ParseTree → Except Fault (Item × Reader)
  | .token found => reader.readToken found
  | .placeholder => .ok (.node .hole, reader)
  | .rule name children mark =>
      match readAll reader children with
      | .error fault => .error fault
      | .ok (items, reader) => reader.readRule name mark items

def readAll (reader : Reader) : List ParseTree → Except Fault (List Item × Reader)
  | [] => .ok ([], reader)
  | tree :: rest =>
      match read reader tree with
      | .error fault => .error fault
      | .ok (item, reader) =>
          match readAll reader rest with
          | .error fault => .error fault
          | .ok (items, reader) => .ok (item :: items, reader)

end

end Reader

namespace ParseTree

def readFresh (tree : ParseTree) : Except Fault (Item × Reader) := ({} : Reader).read tree

/-- What a parse tree is read as. -/
def lower (tree : ParseTree) : Except Fault Item := tree.readFresh.map (·.1)

end ParseTree

end SwarmCheck
