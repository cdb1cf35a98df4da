/-!
# Source positions

Where a piece of source text starts and ends. Coordinates are what a parser recorded, so any of
them may be unknown.
-/

namespace SwarmCheck

set_option autoImplicit false

structure Position where
  line : Option Int
  column : Option Int
  endLine : Option Int := none
  endColumn : Option Int := none
  deriving DecidableEq, Repr

/-- What a parser noted about a subtree. A column that was never noted counts as 0. -/
structure Mark where
  line : Option Int := none
  column : Option Int := some 0
  endLine : Option Int := none
  endColumn : Option Int := none
  deriving DecidableEq, Repr

/-- A mark without a line gives no position. -/
def Mark.position (mark : Mark) : Option Position :=
  match mark.line with
  | none => none
  | some line => some ⟨some line, mark.column, mark.endLine, mark.endColumn⟩

/-- An unknown coordinate is written `None`. -/
def coordinateText : Option Int → String
  | none => "None"
  | some value => toString value

end SwarmCheck
