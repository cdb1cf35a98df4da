/-!
# Ranges of code points

A class of characters is given by the code points it holds: closed ranges, ascending and apart
from each other.
-/

namespace SwarmCheck.Text

set_option autoImplicit false

abbrev Ranges := List (Nat × Nat)

namespace Ranges

/-- The search ends at the first range that lies beyond the code point. -/
def holds (code : Nat) : Ranges → Bool
  | [] => false
  | (first, last) :: rest =>
      if code < first then false else if code ≤ last then true else holds code rest

end Ranges

end SwarmCheck.Text
