import SwarmCheck.Symbols.Environment
import SwarmCheck.Text.Dotted

/-!
# Resolution of references

A reference is a declared name, possibly followed by field accesses: `Motion.target.x`. The
longest dotted beginning that is a declared name is the root, and the remaining segments are
walked as record fields. A walk that fails is not tried again from a shorter root.
-/

namespace SwarmCheck

set_option autoImplicit false

structure Resolution where
  symbol : Symbol
  type : Ty
  fields : List String := []

inductive Unresolved where
  | noRoot
  | notRecord (field : String) (type : Ty)
  | undefinedRecord (name : String)
  | noField (name field : String)
  deriving DecidableEq, Repr

def Unresolved.notes : Unresolved → List Log.Record
  | noRoot => []
  | notRecord field type =>
      [Log.debug .resolution
        ("Field " ++ field ++ " accessed on non-record type " ++ type.text)]
  | undefinedRecord name =>
      [Log.debug .resolution ("Record type " ++ name ++ " is not defined")]
  | noField name field =>
      [Log.debug .resolution ("Record type " ++ name ++ " has no field " ++ field)]

def Registry.step (registry : Registry) (type : Ty) (field : String) : Except Unresolved Ty :=
  match type with
  | .record name =>
      match registry.fieldsOf? name with
      | none => .error (.undefinedRecord name)
      | some fields =>
          match fields.get? field with
          | none => .error (.noField name field)
          | some fieldType => .ok fieldType
  | other => .error (.notRecord field other)

def Registry.walk (registry : Registry) : Ty → List String → Except Unresolved Ty
  | type, [] => .ok type
  | type, field :: rest =>
      match registry.step type field with
      | .ok next => registry.walk next rest
      | .error cause => .error cause

namespace Environment

/-- The declared symbol named by the longest dotted beginning of at most `length` segments, and
how many segments it takes up. -/
def root? (env : Environment) (segments : List String) : (length : Nat) → Option (Symbol × Nat)
  | 0 => none
  | length + 1 =>
      match env.lookup? (Text.joinDots (segments.take (length + 1))) with
      | some symbol => some (symbol, length + 1)
      | none => env.root? segments length

def resolve (env : Environment) (text : String) : Except Unresolved Resolution :=
  match env.lookup? text with
  | some symbol => .ok { symbol, type := symbol.type }
  | none =>
      let segments := Text.segments text
      match env.root? segments segments.length with
      | none => .error .noRoot
      | some (symbol, used) =>
          let fields := segments.drop used
          match env.registry.walk symbol.type fields with
          | .ok type => .ok { symbol, type, fields }
          | .error cause => .error cause

def resolve? (env : Environment) (text : String) : Option Resolution :=
  (env.resolve text).toOption

def resolveNotes (env : Environment) (text : String) : List Log.Record :=
  match env.resolve text with
  | .ok _ => []
  | .error cause => cause.notes

end Environment

end SwarmCheck
