import SwarmCheck.Syntax.Node
import SwarmCheck.Types.Ty

/-!
# Symbols

A declared variable: its qualified name, its type, the scope it was declared in and the
declaration itself. The scope decides what may be assigned to the variable.
-/

namespace SwarmCheck

set_option autoImplicit false

/-- What an assignment to a variable may do: anything well typed, nothing at all, or only store
the writing agent's own identity. -/
inductive WritePolicy where
  | free
  | readOnly
  | ownIdentity
  deriving DecidableEq, Repr

inductive Scope where
  | locals
  | sensor
  | actuator
  | allRead
  | allWrite
  deriving DecidableEq, Repr

def WritePolicy.name : WritePolicy → String
  | free => "FREE"
  | readOnly => "READ_ONLY"
  | ownIdentity => "OWN_IDENTITY"

namespace Scope

def writePolicy : Scope → WritePolicy
  | sensor => .readOnly
  | allRead => .ownIdentity
  | locals | actuator | allWrite => .free

def ofGroup : GroupKind → Scope
  | .sensors => sensor
  | .actuators => actuator
  | .allRead => allRead
  | .allWrite => allWrite
  | .locals => locals

def name : Scope → String
  | locals => "LOCAL"
  | sensor => "SENSOR"
  | actuator => "ACTUATOR"
  | allRead => "ALLREAD"
  | allWrite => "ALLWRITE"

def ofName? : String → Option Scope
  | "LOCAL" => some locals
  | "SENSOR" => some sensor
  | "ACTUATOR" => some actuator
  | "ALLREAD" => some allRead
  | "ALLWRITE" => some allWrite
  | _ => none

end Scope

structure Symbol where
  name : String
  type : Ty
  scope : Scope
  definedAt : Node := .hole

namespace Symbol

/-- Equality of symbols, wherever they were declared. -/
def sameAs (left right : Symbol) : Bool :=
  left.name == right.name && left.type == right.type && left.scope == right.scope

def text (symbol : Symbol) : String :=
  "\x7bname: " ++ symbol.name ++ ", type: " ++ symbol.type.text ++ ", scope: " ++
    symbol.scope.name ++ "\x7d"

def distinct (symbols : List Symbol) : List Symbol :=
  symbols.foldl
    (fun seen symbol => if seen.any (·.sameAs symbol) then seen else seen ++ [symbol]) []

end Symbol

end SwarmCheck
