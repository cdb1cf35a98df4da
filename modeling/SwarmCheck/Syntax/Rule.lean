import SwarmCheck.Syntax.Node

/-!
# Grammar rules

The rules of the grammar and the names that parse trees give them.
-/

namespace SwarmCheck

set_option autoImplicit false

inductive Rule where
  | program
  | moduleBlock
  | group (kind : GroupKind)
  | dimension
  | decl
  | record
  | event
  | statement
  | assign
  | stream
  | elseBlock
  | conditional
  | constant
  | call
  | value
  | condition
  deriving DecidableEq, Repr

namespace Rule

def ofName? : String → Option Rule
  | "program" => some program
  | "module" => some moduleBlock
  | "sensordecls" => some (group .sensors)
  | "actuatordecls" => some (group .actuators)
  | "allreadvars" => some (group .allRead)
  | "allwritevars" => some (group .allWrite)
  | "localvars" => some (group .locals)
  | "arraydec" => some dimension
  | "decl" => some decl
  | "adtdef" => some record
  | "event" => some event
  | "stmt" => some statement
  | "assign" => some assign
  | "iostream" => some stream
  | "elseblock" => some elseBlock
  | "ifblock" => some conditional
  | "constant" => some constant
  | "funccall" => some call
  | "aexpr" => some value
  | "bexpr" => some condition
  | _ => none

/-- Whether a rule goes by its children alone and not by where they stand in the source. -/
def isBare : Rule → Bool
  | dimension | statement | elseBlock => true
  | _ => false

end Rule

end SwarmCheck
