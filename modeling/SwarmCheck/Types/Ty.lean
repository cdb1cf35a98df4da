/-!
# Types

The types of variables: primitives, records by name, arrays of either to any depth, and the
unknown type of whatever cannot be determined, such as the result of a call. Records compare by
name alone; their fields live in a registry.
-/

namespace SwarmCheck

set_option autoImplicit false

inductive Ty where
  | primitive (name : String)
  | array (inner : Ty)
  | record (name : String)
  | unknown
  deriving DecidableEq, Repr

namespace Ty

def int : Ty := primitive "int"
def float : Ty := primitive "float"
def bool : Ty := primitive "bool"
def pos : Ty := primitive "pos"
def string : Ty := primitive "string"
def stream : Ty := primitive "stream"

def primitiveNames : List String := ["int", "float", "bool", "pos", "string", "stream"]

def text : Ty → String
  | primitive name => name
  | array inner => inner.text ++ "[]"
  | record name => name
  | unknown => "?"

def isArray : Ty → Bool
  | array _ => true
  | _ => false

def isUnknown : Ty → Bool
  | unknown => true
  | _ => false

def inner? : Ty → Option Ty
  | array inner => some inner
  | _ => none

def wrap (base : Ty) : Nat → Ty
  | 0 => base
  | layers + 1 => array (base.wrap layers)

/-- Wraps a type once per dimension; a negative number of dimensions counts as none. -/
def arrayOf (base : Ty) (dims : Int) : Ty := base.wrap dims.toNat

end Ty

end SwarmCheck
