import SwarmCheck.Diagnostics.Finding
import SwarmCheck.Fault
import SwarmCheck.Log.Record
import SwarmCheck.Trail

/-!
# What a pass over a program leaves behind

The passes that look at a program without declaring anything emit findings, with notes for the
log between them, and may stop at a fault.
-/

namespace SwarmCheck

set_option autoImplicit false

inductive Entry where
  | note (record : Log.Record)
  | report (finding : Finding)

namespace Entry

def note? : Entry → Option Log.Record
  | note record => some record
  | report _ => none

def finding? : Entry → Option Finding
  | note _ => none
  | report finding => some finding

def notes (entries : List Entry) : List Log.Record := entries.filterMap note?

def findings (entries : List Entry) : List Finding := entries.filterMap finding?

end Entry

abbrev Pass := Trail Entry Fault

end SwarmCheck
