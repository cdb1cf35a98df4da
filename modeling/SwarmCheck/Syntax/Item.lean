import SwarmCheck.Syntax.Listing

/-!
# Items

What a grammar rule sees of its children once they have been read: tokens as they came, nodes,
and two marks that only make sense to the rule above them, an array dimension and the statements
of an else branch.
-/

namespace SwarmCheck

set_option autoImplicit false

inductive Item where
  | token (token : Token)
  | node (node : Node)
  | dimension
  | otherwise (statements : List Node)

namespace Item

def token? : Item → Option Token
  | token found => some found
  | _ => none

def node? : Item → Option Node
  | node found => some found
  | _ => none

def otherwise? : Item → Option (List Node)
  | otherwise statements => some statements
  | _ => none

def isDimension : Item → Bool
  | dimension => true
  | _ => false

def part : Item → Node
  | token found => .stray (.token found)
  | node found => found
  | dimension => .stray .dimension
  | otherwise statements => .otherwise statements

def tokens (items : List Item) : List Token := items.filterMap token?

def nodes (items : List Item) : List Node := items.filterMap node?

def firstToken? (kinds : List String) (items : List Item) : Option Token :=
  (tokens items).find? (kinds.contains ·.kind)

def firstText? (kinds : List String) (items : List Item) : Option String :=
  (firstToken? kinds items).map (·.text)

def structuralKinds : List String :=
  ["VARNAME", "UPPER", "STRING", "LBRACE", "RBRACE", "LPAR", "RPAR", "ASGN", "COMMA", "COLON"]

def operator? (items : List Item) : Option String :=
  ((tokens items).find? (!structuralKinds.contains ·.kind)).map (·.text)

end Item

end SwarmCheck
