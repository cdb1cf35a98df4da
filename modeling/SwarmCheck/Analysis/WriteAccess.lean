import SwarmCheck.Analysis.Entry
import SwarmCheck.Symbols.Resolution

/-!
# Write access

The last pass checks every assignment against the scope of its target. Sensors are never
written, streams only by stream statements, and a variable that all agents read takes nothing
but the writing agent's own identity. A field has the scope of the variable it belongs to.
-/

namespace SwarmCheck

set_option autoImplicit false

namespace WriteAccess

/-- The type that an assignment overwrites: that of its target, or of an element of it. -/
def writtenType (indexed : Bool) : Ty → Ty
  | .array inner => if indexed then inner else .array inner
  | type => type

def violation (note : String) (target : String) (finding : Finding) : List Entry :=
  [.note (Log.debug .access (note ++ target)), .report finding]

def violations (site : Node) (target : String) (indexed : Bool) (value : Node)
    (resolution : Resolution) : List Entry :=
  let policy := resolution.symbol.scope.writePolicy
  (if policy = .readOnly then
      violation "Assignment to sensor " target (.sensorWrite target site)
    else []) ++
  (if writtenType indexed resolution.type = .stream then
      violation "Assignment to stream " target (.streamWrite target site)
    else []) ++
  (if policy = .ownIdentity && !value.isOwnIdentity then
      violation "Non-pid assignment to allread " target (.readOnlyWrite target site)
    else [])

def checkNode (env : Environment) : Node → Pass Unit
  | site@(.assign target index value _) =>
      match env.resolve target with
      | .error cause => do
          .emit (cause.notes.map .note)
          .fail (.unresolvedTarget target)
      | .ok resolution => .emit (violations site target (!index.isHole) value resolution)
  | _ => return ()

def checkNodes (env : Environment) : List Node → Pass Unit
  | [] => return ()
  | node :: rest => do
      checkNode env node
      checkNodes env rest

def check (env : Environment) (program : Node) : Pass Unit :=
  if program.isBlank then .fail .emptyPlace else checkNodes env program.preorder

end WriteAccess

end SwarmCheck
