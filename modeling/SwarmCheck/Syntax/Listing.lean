import SwarmCheck.Syntax.Node
import SwarmCheck.Text.Quoted

/-!
# Listings

The text of a tree as it stands in an error message: the kind of a node, then every field by
name, in order, in parentheses. A bundle that is met again inside itself is only hinted at.
-/

namespace SwarmCheck

set_option autoImplicit false

namespace Listing

def none : String := "None"

def truth : Bool → String
  | true => "True"
  | false => "False"

def bracketed (parts : List String) : String :=
  "[" ++ String.intercalate ", " parts ++ "]"

def fields (kind : String) (parts : List (String × String)) : String :=
  kind ++ "(" ++
    String.intercalate ", " (parts.map fun part => part.1 ++ "=" ++ part.2) ++ ")"

def optionalText : Option String → String
  | .none => none
  | .some text => Text.quoted text

end Listing

def Position.listing (position : Position) : String :=
  Listing.fields "SourcePosition"
    [("line", coordinateText position.line), ("column", coordinateText position.column),
      ("end_line", coordinateText position.endLine),
      ("end_column", coordinateText position.endColumn)]

def optionalPositionListing : Option Position → String
  | none => Listing.none
  | some position => position.listing

def ConstantKind.name : ConstantKind → String
  | float => "FLOAT"
  | int => "INT"
  | pid => "PID"
  | numAgents => "NUMAGENTS"

def ConstantKind.rank : ConstantKind → Nat
  | float => 1
  | int => 2
  | pid => 3
  | numAgents => 4

def GroupKind.name : GroupKind → String
  | sensors => "SENSORS"
  | actuators => "ACTUATORS"
  | allRead => "ALLREAD"
  | allWrite => "ALLWRITE"
  | locals => "LOCAL"

def GroupKind.rank : GroupKind → Nat
  | sensors => 1
  | actuators => 2
  | allRead => 3
  | allWrite => 4
  | locals => 5

def ConstantKind.listing (kind : ConstantKind) : String :=
  "<ConstantKind." ++ kind.name ++ ": " ++ toString kind.rank ++ ">"

def GroupKind.listing (kind : GroupKind) : String :=
  "<DeclGroupKind." ++ kind.name ++ ": " ++ toString kind.rank ++ ">"

def Token.listing (token : Token) : String :=
  "Token(" ++ Text.quoted token.kind ++ ", " ++ Text.quoted token.text ++ ")"

def Stray.kindName : Stray → String
  | text _ => "str"
  | truth _ => "bool"
  | empty => "tuple"
  | token _ => "Token"
  | dimension => "_ArrayDim"
  | settings _ => "dict"
  | object found => found.kind

/-- How a table of settings is listed, given its number and the bundles around it. -/
abbrev TableListing := List Nat → Nat → String

def Stray.listing (table : TableListing) (around : List Nat) : Stray → String
  | text found => Text.quoted found
  | truth value => Listing.truth value
  | empty => "()"
  | token found => found.listing
  | dimension => "<koord.dsl.ast.transformer._ArrayDim object>"
  | settings number => table around number
  | object found => found.listing

namespace Node

def kindName : Node → String
  | hole => "NoneType"
  | stray found => found.kindName
  | bundle .. => "list"
  | otherwise _ => "_ElseBody"
  | constant .. => "Constant"
  | stringLiteral .. => "StringLiteral"
  | reference .. => "VarExpr"
  | call .. => "FuncCall"
  | binary .. => "BinaryExpr"
  | logical .. => "BoolExpr"
  | flag .. => "BoolVar"
  | assign .. => "Assign"
  | stream .. => "IoStream"
  | conditional .. => "IfStmt"
  | decl .. => "Decl"
  | group .. => "DeclGroup"
  | moduleBlock .. => "ModuleBlock"
  | record .. => "AdtDef"
  | event .. => "EventDef"
  | program .. => "Program"

/-- How a message speaks of what is in a place. -/
def phrase : Node → String
  | stray (.object found) => found.phrase
  | node => "'" ++ node.kindName ++ "' object"

private def metaField (position : Option Position) : String × String :=
  ("meta", optionalPositionListing position)

mutual

/-- The text of a node inside the bundles `around` it. -/
def listing (table : TableListing) (around : List Nat) : Node → String
  | hole => Listing.none
  | stray found => found.listing table around
  | bundle serial parts =>
      if serial ∈ around then "[...]"
      else Listing.bracketed (listingAll table (serial :: around) parts)
  | otherwise _ => "<koord.dsl.ast.transformer._ElseBody object>"
  | constant kind text position parenthesised =>
      Listing.fields "Constant"
        [("kind", kind.listing), ("text", Text.quoted text), metaField position,
          ("parenthesised", Listing.truth parenthesised)]
  | stringLiteral value position =>
      Listing.fields "StringLiteral" [("value", Text.quoted value), metaField position]
  | reference name index position =>
      Listing.fields "VarExpr"
        [("name", Text.quoted name), ("index", index.listing table around), metaField position]
  | call name args position =>
      Listing.fields "FuncCall"
        [("name", Text.quoted name), ("args", Listing.bracketed (listingAll table around args)),
          metaField position]
  | binary op left right position =>
      Listing.fields "BinaryExpr"
        [("op", Text.quoted op), ("left", left.listing table around),
          ("right", right.listing table around), metaField position]
  | logical op operands position =>
      Listing.fields "BoolExpr"
        [("op", Text.quoted op), ("operands", Listing.bracketed (listingAll table around operands)),
          metaField position]
  | flag name position =>
      Listing.fields "BoolVar" [("name", Text.quoted name), metaField position]
  | assign target index value position =>
      Listing.fields "Assign"
        [("target", Text.quoted target), ("index", index.listing table around),
          ("value", value.listing table around), metaField position]
  | stream channel position =>
      Listing.fields "IoStream" [("var", Listing.optionalText channel), metaField position]
  | conditional condition thenBody elseBody position =>
      Listing.fields "IfStmt"
        [("condition", condition.listing table around),
          ("then_body", Listing.bracketed (listingAll table around thenBody)),
          ("else_body", Listing.bracketed (listingAll table around elseBody)), metaField position]
  | decl name typeName isRecord dims initial position =>
      Listing.fields "Decl"
        [("name", Text.quoted name), ("type_name", Text.quoted typeName),
          ("is_custom", Listing.truth isRecord), ("array_dims", toString dims),
          ("initializer", initial.listing table around), metaField position]
  | group kind decls position =>
      Listing.fields "DeclGroup"
        [("kind", kind.listing), ("decls", Listing.bracketed (listingAll table around decls)),
          metaField position]
  | moduleBlock name groups position =>
      Listing.fields "ModuleBlock"
        [("name", Text.quoted name), ("groups", Listing.bracketed (listingAll table around groups)),
          metaField position]
  | record name fields position =>
      Listing.fields "AdtDef"
        [("name", Text.quoted name), ("fields", Listing.bracketed (listingAll table around fields)),
          metaField position]
  | event name precondition effects position =>
      Listing.fields "EventDef"
        [("name", Text.quoted name), ("precondition", precondition.listing table around),
          ("effects", Listing.bracketed (listingAll table around effects)), metaField position]
  | program name items position =>
      Listing.fields "Program"
        [("name", Text.quoted name), ("items", Listing.bracketed (listingAll table around items)),
          metaField position]

def listingAll (table : TableListing) (around : List Nat) : List Node → List String
  | [] => []
  | node :: rest => node.listing table around :: listingAll table around rest

end

end Node

end SwarmCheck
