import SwarmCheck.Settings.Decimal

/-!
# Configuration values

The values that a configuration can hold before anything is known about what they ought to be.
-/

namespace SwarmCheck

set_option autoImplicit false

inductive Value where
  | null
  | boolean (value : Bool)
  | integer (value : Int)
  | decimal (value : Decimal)
  | nonFinite
  | text (value : String)
  | moment
  | list (values : List Value)
  | table (entries : List (String × Value))
  deriving Inhabited

namespace Value

def entries? : Value → Option (List (String × Value))
  | table entries => some entries
  | _ => none

def isContainer : Value → Bool
  | list _ => true
  | table _ => true
  | _ => false

end Value

end SwarmCheck
