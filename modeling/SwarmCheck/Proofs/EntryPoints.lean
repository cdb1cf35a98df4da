import Mathlib.Data.List.Forall2
import SwarmCheck.Analysis.FrontEnd
import SwarmCheck.Proofs.Gating

/-!
# The ways to analyse a parse tree

A parse tree can be analysed for its table, for its diagnostics, or strictly. The strict way goes by
the lists of the table, the second way by the diagnostics, and what a rejection says goes by the
diagnostics as well. They agree because a table without entries has no diagnostics and the other way
round: no program is rejected without a reason, and none is let through that has one.
-/

namespace SwarmCheck

set_option autoImplicit false

/-- A line of a rejection gives the code and the message of a diagnostic, and the line of its
position if there is one. -/
def Diagnostic.ShownAs (diagnostic : Diagnostic) (text : String) : Prop :=
  match diagnostic.position.bind (·.line) with
  | none => text = "  - [" ++ diagnostic.code.text ++ "] " ++ diagnostic.message
  | some line =>
      text = "  - [" ++ diagnostic.code.text ++ "] " ++ diagnostic.message ++ " at line " ++
        toString line

/-- A rejection reads as its header and then one line for each of the diagnostics. -/
def Rejection.Reads (rejection : Rejection) (diagnostics : List Diagnostic) : Prop :=
  ∃ lines : List String,
    rejection.message = String.intercalate "\n" ("semantic analysis failed:" :: lines) ∧
      List.Forall₂ Diagnostic.ShownAs diagnostics lines

namespace Rejection

theorem shownAs_diagnosticLine (diagnostic : Diagnostic) :
    diagnostic.ShownAs (diagnosticLine diagnostic) := by
  unfold Diagnostic.ShownAs diagnosticLine Diagnostic.line
  cases diagnostic.position.bind (·.line) with
  | none => simp only [String.append_empty]
  | some line => simp only [String.append_assoc]

theorem reads_of_ne_nil {rejection : Rejection} (found : rejection.diagnostics ≠ []) :
    rejection.Reads rejection.diagnostics := by
  refine ⟨rejection.diagnostics.map diagnosticLine, ?_, ?_⟩
  · have shown : rejection.diagnostics.map diagnosticLine ≠ [] := by simpa using found
    rw [message, if_neg (by simpa using found), String.intercalate_cons_of_ne_nil shown]
    rfl
  · rw [List.forall₂_map_right_iff, List.forall₂_same]
    intro diagnostic _
    exact shownAs_diagnosticLine diagnostic

end Rejection

theorem outcome_analyzeTree (settings : Settings) (filename : Option String) (tree : ParseTree) :
    (analyzeTree settings filename tree).outcome =
      match tree.lower with
      | .error fault => .error fault
      | .ok item => (analyze settings item.part).outcome := by
  rw [analyzeTree, Trail.outcome_emit_bind]
  cases tree.lower <;> rfl

theorem analyzeTree_eq_ok_iff {settings : Settings} {filename : Option String} {tree : ParseTree}
    {table : SymbolTable} :
    (analyzeTree settings filename tree).outcome = .ok table ↔
      ∃ program, tree.lower = .ok (.node program) ∧
        (analyze settings program).outcome = .ok table := by
  rw [outcome_analyzeTree]
  cases tree.lower with
  | error fault => simp
  | ok item =>
      cases item with
      | node found => simp [Item.part]
      | _ => simp [Analyzer.analyze_eq_ok_iff, Item.part, Node.name?]

theorem diagnostics_eq_nil_iff_of_analyzeTree {settings : Settings} {filename : Option String}
    {tree : ParseTree} {table : SymbolTable}
    (returned : (analyzeTree settings filename tree).outcome = .ok table) :
    table.diagnostics = [] ↔ table.isValid = true := by
  obtain ⟨program, _, analyzed⟩ := analyzeTree_eq_ok_iff.mp returned
  obtain ⟨phase, only⟩ := (Analyzer.gated_of_analyze analyzed).single
  exact only.diagnostics_eq_nil_iff

section EntryPoints

variable (settings : Settings) (filename : Option String) (tree : ParseTree)

theorem validateTree_of_fault {fault : Fault}
    (failed : (analyzeTree settings filename tree).outcome = .error fault) :
    (validateTree settings filename tree).outcome = .error fault :=
  Trail.outcome_bind_of_error failed _

theorem validateTree_of_table {table : SymbolTable}
    (returned : (analyzeTree settings filename tree).outcome = .ok table) :
    (validateTree settings filename tree).outcome = .ok table.diagnostics := by
  rw [validateTree, Trail.outcome_bind_of_ok returned]
  cases table.diagnostics <;> rfl

theorem checkTree_of_fault {fault : Fault}
    (failed : (analyzeTree settings filename tree).outcome = .error fault) :
    (checkTree settings filename tree).outcome = .error (.fault fault) := by
  simp only [checkTree, failed]

theorem checkTree_of_table {table : SymbolTable}
    (returned : (analyzeTree settings filename tree).outcome = .ok table) :
    (checkTree settings filename tree).outcome =
      if table.isValid then .ok table
      else .error (.rejected ⟨"semantic analysis failed", filename, table.diagnostics⟩) := by
  simp only [checkTree, returned]

end EntryPoints

/-- The three ways to analyse a tree agree. A fault of the analysis is the fault of all three. If
there is a table, the strict way returns it exactly when there are no diagnostics; otherwise it
rejects the program with the file name it was given and with just those diagnostics, and the
rejection reads as a header followed by a line for each of them. -/
theorem entry_points_agree (settings : Settings) (filename : Option String) (tree : ParseTree) :
    match (analyzeTree settings filename tree).outcome with
    | .error fault =>
        (validateTree settings filename tree).outcome = .error fault ∧
          (checkTree settings filename tree).outcome = .error (.fault fault)
    | .ok table =>
        ∃ diagnostics, (validateTree settings filename tree).outcome = .ok diagnostics ∧
          ((checkTree settings filename tree).outcome = .ok table ↔ diagnostics = []) ∧
          ((checkTree settings filename tree).outcome ≠ .ok table →
            diagnostics ≠ [] ∧
              ∃ rejection,
                (checkTree settings filename tree).outcome = .error (.rejected rejection) ∧
                  rejection.filename = filename ∧ rejection.diagnostics = diagnostics ∧
                  rejection.Reads diagnostics) := by
  cases ended : (analyzeTree settings filename tree).outcome with
  | error fault =>
      exact ⟨validateTree_of_fault settings filename tree ended,
        checkTree_of_fault settings filename tree ended⟩
  | ok table =>
      have checked := checkTree_of_table settings filename tree ended
      refine ⟨table.diagnostics, validateTree_of_table settings filename tree ended, ?_⟩
      have shown := diagnostics_eq_nil_iff_of_analyzeTree ended
      rw [checked]
      by_cases valid : table.isValid = true
      · have clean := shown.mpr valid
        rw [if_pos valid]
        exact ⟨iff_of_true rfl clean, fun rejected => absurd rfl rejected⟩
      · have found : table.diagnostics ≠ [] := fun clean => valid (shown.mp clean)
        rw [if_neg valid]
        refine ⟨iff_of_false (by simp) found, fun _ => ⟨found, _, rfl, rfl, rfl, ?_⟩⟩
        exact Rejection.reads_of_ne_nil found

end SwarmCheck
