import SwarmCheck.Text.Quoted

/-!
# Settings

What a user may choose about an analysis.
-/

namespace SwarmCheck

set_option autoImplicit false

/-- What to do with a second definition of a record type: reject it as a redeclaration, or let
it replace the first. -/
inductive RedefinitionPolicy where
  | reject
  | replace
  deriving DecidableEq, Repr

structure Settings where
  recordRedefinition : RedefinitionPolicy := .reject
  verbose : Bool := false
  deriving DecidableEq, Repr

def RedefinitionPolicy.text : RedefinitionPolicy → String
  | reject => "reject"
  | replace => "replace"

def RedefinitionPolicy.ofText? : String → Option RedefinitionPolicy
  | "reject" => some reject
  | "replace" => some replace
  | _ => none

def RedefinitionPolicy.invalidText (text : String) : String :=
  Text.quoted text ++ " is not a valid RedefinitionPolicy"

end SwarmCheck
