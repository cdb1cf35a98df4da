import SwarmCheck.Diagnostics.Finding

/-!
# Journals

What has been found wrong so far is written down twice: by name or node in one list for each kind of
finding, and as a diagnostic in a list that all kinds share. Each kind is reported by a function of
its own, which writes to both. Nothing else keeps the seven lists together.
-/

namespace SwarmCheck

set_option autoImplicit false

@[ext] structure Journal where
  unresolved : List String := []
  redeclared : List String := []
  mismatches : List Node := []
  sensorWrites : List String := []
  streamWrites : List String := []
  readOnlyWrites : List String := []
  diagnostics : List Diagnostic := []

namespace Journal

def empty : Journal := {}

def add (journal : Journal) (code : Code) (params : Params) (subject : Option String) (site : Node)
    (help : Option String) : Journal :=
  { journal with
    diagnostics := journal.diagnostics ++ [.ofCode code params subject site.position help] }

def reportUnresolved (journal : Journal) (name : String) (site : Node) (help : Option String) :
    Journal :=
  let noted := { journal with unresolved := journal.unresolved ++ [name] }
  noted.add .unresolved [("name", name)] (some name) site help

def reportRedeclared (journal : Journal) (name : String) (site : Node) : Journal :=
  let noted := { journal with redeclared := journal.redeclared ++ [name] }
  noted.add .redeclared [("name", name)] (some name) site none

def reportMismatch (journal : Journal) (site : Node) (construct expected actual : String) :
    Journal :=
  let noted := { journal with mismatches := journal.mismatches ++ [site] }
  noted.add .mismatch [("construct", construct), ("expected", expected), ("actual", actual)] none
    site none

def reportSensorWrite (journal : Journal) (target : String) (site : Node) : Journal :=
  let noted := { journal with sensorWrites := journal.sensorWrites ++ [target] }
  noted.add .sensorWrite [("name", target)] (some target) site (some "sensors are read-only inputs")

def reportStreamWrite (journal : Journal) (target : String) (site : Node) : Journal :=
  let noted := { journal with streamWrites := journal.streamWrites ++ [target] }
  noted.add .streamWrite [("name", target)] (some target) site
    (some "write streams with a stream statement")

def reportReadOnlyWrite (journal : Journal) (target : String) (site : Node) : Journal :=
  let noted := { journal with readOnlyWrites := journal.readOnlyWrites ++ [target] }
  noted.add .readOnlyWrite [("name", target)] (some target) site none

def report (journal : Journal) : Finding → Journal
  | .unresolved name site help => journal.reportUnresolved name site help
  | .redeclared name site => journal.reportRedeclared name site
  | .mismatch site construct expected actual =>
      journal.reportMismatch site construct expected actual
  | .sensorWrite target site => journal.reportSensorWrite target site
  | .streamWrite target site => journal.reportStreamWrite target site
  | .readOnlyWrite target site => journal.reportReadOnlyWrite target site

def reportAll (journal : Journal) (findings : List Finding) : Journal :=
  findings.foldl report journal

/-- Nothing is wrong when none of the six lists of names and nodes has an entry. The diagnostics are
not asked. -/
def isValid (journal : Journal) : Bool :=
  journal.unresolved.isEmpty && journal.redeclared.isEmpty && journal.mismatches.isEmpty &&
    journal.sensorWrites.isEmpty && journal.streamWrites.isEmpty && journal.readOnlyWrites.isEmpty

end Journal

end SwarmCheck
