import SwarmCheck.OrderedMap
import SwarmCheck.Types.Ty

/-!
# Record types

The record types of a program, each with its fields, in the order in which they were first
defined. A record may be named before it is defined.
-/

namespace SwarmCheck

set_option autoImplicit false

abbrev Fields := OrderedMap Ty

structure Registry where
  records : OrderedMap Fields := .empty

namespace Registry

def empty : Registry := {}

def isDefined (registry : Registry) (name : String) : Bool :=
  registry.records.contains name

def fieldsOf? (registry : Registry) (name : String) : Option Fields :=
  registry.records.get? name

def fieldType? (registry : Registry) (name field : String) : Option Ty :=
  (registry.records.get? name).bind (·.get? field)

def names (registry : Registry) : List String := registry.records.keys

/-- What becomes of a definition: a name that is taken is refused, unless later definitions
replace earlier ones. -/
inductive Verdict where
  | added
  | replaced
  | refused
  deriving DecidableEq, Repr

def verdict (registry : Registry) (name : String) (replace : Bool) : Verdict :=
  if registry.isDefined name then
    if replace then .replaced else .refused
  else .added

def define (registry : Registry) (name : String) (fields : Fields) (replace : Bool) : Registry :=
  match registry.verdict name replace with
  | .refused => registry
  | .added | .replaced => ⟨registry.records.insert name fields⟩

def sameFields (left right : Fields) : Bool := left.equivalent (· == ·) right

/-- Equality of registries, whatever the order of records and of fields. -/
def sameAs (left right : Registry) : Bool := left.records.equivalent sameFields right.records

end Registry

end SwarmCheck
