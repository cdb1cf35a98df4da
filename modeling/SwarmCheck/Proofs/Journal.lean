import SwarmCheck.Diagnostics.Journal

/-!
# What a journal says of findings

The seven lists of a journal are written one report at a time. Here they are given at once, for any
findings: which of the six lists shows a finding, and as which diagnostic it is shown. To report
findings is to append what is given for them, so a journal that was empty at first holds just that,
and its lists agree with its diagnostics.
-/

namespace SwarmCheck

set_option autoImplicit false

namespace Finding

def diagnostic : Finding → Diagnostic
  | unresolved name site help =>
      .ofCode .unresolved [("name", name)] (some name) site.position help
  | redeclared name site => .ofCode .redeclared [("name", name)] (some name) site.position none
  | mismatch site construct expected actual =>
      .ofCode .mismatch
        [("construct", construct), ("expected", expected), ("actual", actual)]
        none site.position none
  | sensorWrite target site =>
      .ofCode .sensorWrite [("name", target)] (some target) site.position
        (some "sensors are read-only inputs")
  | streamWrite target site =>
      .ofCode .streamWrite [("name", target)] (some target) site.position
        (some "write streams with a stream statement")
  | readOnlyWrite target site =>
      .ofCode .readOnlyWrite [("name", target)] (some target) site.position none

def unresolved? : Finding → Option String
  | unresolved name _ _ => some name
  | _ => none

def redeclared? : Finding → Option String
  | redeclared name _ => some name
  | _ => none

def mismatch? : Finding → Option Node
  | mismatch site _ _ _ => some site
  | _ => none

def sensorWrite? : Finding → Option String
  | sensorWrite target _ => some target
  | _ => none

def streamWrite? : Finding → Option String
  | streamWrite target _ => some target
  | _ => none

def readOnlyWrite? : Finding → Option String
  | readOnlyWrite target _ => some target
  | _ => none

end Finding

namespace Journal

/-- What is to be said of some findings. -/
def ofFindings (findings : List Finding) : Journal where
  unresolved := findings.filterMap (·.unresolved?)
  redeclared := findings.filterMap (·.redeclared?)
  mismatches := findings.filterMap (·.mismatch?)
  sensorWrites := findings.filterMap (·.sensorWrite?)
  streamWrites := findings.filterMap (·.streamWrite?)
  readOnlyWrites := findings.filterMap (·.readOnlyWrite?)
  diagnostics := findings.map (·.diagnostic)

def append (earlier later : Journal) : Journal where
  unresolved := earlier.unresolved ++ later.unresolved
  redeclared := earlier.redeclared ++ later.redeclared
  mismatches := earlier.mismatches ++ later.mismatches
  sensorWrites := earlier.sensorWrites ++ later.sensorWrites
  streamWrites := earlier.streamWrites ++ later.streamWrites
  readOnlyWrites := earlier.readOnlyWrites ++ later.readOnlyWrites
  diagnostics := earlier.diagnostics ++ later.diagnostics

instance : Append Journal := ⟨append⟩

variable {journal : Journal} {findings : List Finding}

theorem append_empty (journal : Journal) : journal ++ empty = journal :=
  Journal.ext (List.append_nil _) (List.append_nil _) (List.append_nil _) (List.append_nil _)
    (List.append_nil _) (List.append_nil _) (List.append_nil _)

theorem empty_append (journal : Journal) : empty ++ journal = journal := rfl

theorem append_assoc (first second third : Journal) :
    first ++ second ++ third = first ++ (second ++ third) :=
  Journal.ext (List.append_assoc ..) (List.append_assoc ..) (List.append_assoc ..)
    (List.append_assoc ..) (List.append_assoc ..) (List.append_assoc ..) (List.append_assoc ..)

theorem ofFindings_nil : ofFindings [] = empty := rfl

theorem ofFindings_append (earlier later : List Finding) :
    ofFindings (earlier ++ later) = ofFindings earlier ++ ofFindings later :=
  Journal.ext List.filterMap_append List.filterMap_append List.filterMap_append
    List.filterMap_append List.filterMap_append List.filterMap_append List.map_append

theorem ofFindings_eq_empty_iff : ofFindings findings = empty ↔ findings = [] := by
  constructor
  · intro nothing
    exact List.map_eq_nil_iff.mp (congrArg diagnostics nothing)
  · rintro rfl
    rfl

/-- A report writes to the list of its kind and to the diagnostics, and to no other list. -/
theorem report_eq_append (journal : Journal) (finding : Finding) :
    journal.report finding = journal ++ ofFindings [finding] := by
  cases finding with
  | unresolved name site help =>
      exact Journal.ext rfl (List.append_nil _).symm (List.append_nil _).symm
        (List.append_nil _).symm (List.append_nil _).symm (List.append_nil _).symm rfl
  | redeclared name site =>
      exact Journal.ext (List.append_nil _).symm rfl (List.append_nil _).symm
        (List.append_nil _).symm (List.append_nil _).symm (List.append_nil _).symm rfl
  | mismatch site construct expected actual =>
      exact Journal.ext (List.append_nil _).symm (List.append_nil _).symm rfl
        (List.append_nil _).symm (List.append_nil _).symm (List.append_nil _).symm rfl
  | sensorWrite target site =>
      exact Journal.ext (List.append_nil _).symm (List.append_nil _).symm (List.append_nil _).symm
        rfl (List.append_nil _).symm (List.append_nil _).symm rfl
  | streamWrite target site =>
      exact Journal.ext (List.append_nil _).symm (List.append_nil _).symm (List.append_nil _).symm
        (List.append_nil _).symm rfl (List.append_nil _).symm rfl
  | readOnlyWrite target site =>
      exact Journal.ext (List.append_nil _).symm (List.append_nil _).symm (List.append_nil _).symm
        (List.append_nil _).symm (List.append_nil _).symm rfl rfl

theorem reportAll_eq_append (journal : Journal) (findings : List Finding) :
    journal.reportAll findings = journal ++ ofFindings findings := by
  induction findings generalizing journal with
  | nil => exact journal.append_empty.symm
  | cons finding rest ih =>
      calc journal.reportAll (finding :: rest)
          = (journal.report finding).reportAll rest := rfl
        _ = journal ++ ofFindings [finding] ++ ofFindings rest := by rw [ih, report_eq_append]
        _ = journal ++ ofFindings (finding :: rest) := by
            rw [append_assoc, ← ofFindings_append, List.singleton_append]

theorem isValid_ofFindings_iff : (ofFindings findings).isValid = true ↔ findings = [] := by
  cases findings with
  | nil => exact iff_of_true rfl rfl
  | cons finding rest =>
      refine iff_of_false ?_ (List.cons_ne_nil _ _)
      cases finding <;>
        simp [isValid, ofFindings, Finding.unresolved?, Finding.redeclared?, Finding.mismatch?,
          Finding.sensorWrite?, Finding.streamWrite?, Finding.readOnlyWrite?]

def Clean (journal : Journal) : Prop := journal = empty

theorem Clean.isValid (clean : journal.Clean) : journal.isValid = true := by
  rw [clean]
  rfl

theorem clean_ofFindings_iff : (ofFindings findings).Clean ↔ findings = [] :=
  ofFindings_eq_empty_iff

/-- Nothing that was written is taken back. -/
theorem clean_append_iff {earlier later : Journal} :
    (earlier ++ later).Clean ↔ earlier.Clean ∧ later.Clean := by
  have lists : earlier ++ later = earlier.append later := rfl
  simp only [Clean, Journal.ext_iff, lists, append, empty, List.append_eq_nil_iff]
  grind

theorem not_clean_report (journal : Journal) (finding : Finding) :
    ¬ (journal.report finding).Clean := by
  rw [report_eq_append, clean_append_iff, clean_ofFindings_iff]
  exact fun nothing => List.cons_ne_nil _ _ nothing.2

end Journal

end SwarmCheck
