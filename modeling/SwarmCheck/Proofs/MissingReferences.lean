import Mathlib.Data.List.Basic
import SwarmCheck.Proofs.Agreement
import SwarmCheck.Proofs.Frames
import SwarmCheck.Proofs.Preorder
import SwarmCheck.Proofs.Resolution

/-!
# What the second phase lists

A node refers to a variable by a text, and the text may resolve to nothing. The second phase lists
every such text, once for each address where it stands and in pre-order, and says which declared
name may have been meant: the least of those that begin as the text does, up to case. It does so
over any tree and comes to an end over any tree.
-/

namespace SwarmCheck

set_option autoImplicit false

inductive Node.Mentions : Node → String → Prop
  | reference (name : String) (index : Node) (position : Option Position) :
      Mentions (.reference name index position) name
  | flag (name : String) (position : Option Position) : Mentions (.flag name position) name
  | assign (target : String) (index value : Node) (position : Option Position) :
      Mentions (.assign target index value position) target
  | stream (channel : String) (position : Option Position) :
      Mentions (.stream (some channel) position) channel

theorem Node.referenceText?_eq_some_iff {node : Node} {text : String} :
    node.referenceText? = some text ↔ node.Mentions text := by
  constructor
  · intro mentioned
    cases node with
    | reference name index position => cases mentioned; exact .reference ..
    | flag name position => cases mentioned; exact .flag ..
    | assign target index value position => cases mentioned; exact .assign ..
    | stream channel position => cases mentioned; exact .stream ..
    | _ => cases mentioned
  · intro mentions
    cases mentions <;> rfl

namespace References

variable {env : Environment} {text : String}

/-- A declared name begins as a reference does: in lower case, its beginning is the first segment of
the reference, or the first three characters of a longer one. -/
def Similar (env : Environment) (text candidate : String) : Prop :=
  (env.lookup? candidate).isSome = true ∧
    ∃ first rest, Text.Splits text (first :: rest) ∧
      (Text.lower first).toList.take 3 <+: (Text.lower candidate).toList

/-- What is suggested for a reference: the least similar name by code points, if there is one. -/
inductive Suggests (env : Environment) (text : String) : Option String → Prop
  | least {candidate : String} (similar : Similar env text candidate)
      (least : ∀ other, Similar env text other → candidate ≤ other) :
      Suggests env text (some ("did you mean '" ++ candidate ++ "'?"))
  | nothing (dissimilar : ∀ candidate, ¬ Similar env text candidate) : Suggests env text none

def Missing (env : Environment) (node : Node) (text : String) : Prop :=
  node.Mentions text ∧ env.resolve? text = none

/-- A diagnostic says what is missing at a node, where that is, and what may have been meant. -/
def Describes (env : Environment) (node : Node) (diagnostic : Diagnostic) : Prop :=
  ∃ text help, Missing env node text ∧ Suggests env text help ∧
    diagnostic =
      { code := .unresolved
        message := "unresolved symbol '" ++ text ++ "'"
        subject := some text
        position := node.position
        help }

section Suggestions

theorem similar_iff {candidate : String} :
    Similar env text candidate ↔
      candidate ∈ env.sortedNames ∧ resembles text candidate = true := by
  rw [Environment.mem_sortedNames]
  apply and_congr_right
  intro _
  have begins : stem text = (Text.lower ((Text.segments text).head?.getD "")).toList.take 3 := rfl
  rw [resembles, List.isPrefixOf_iff_prefix, begins]
  constructor
  · rintro ⟨first, rest, split, similar⟩
    rw [← Text.splits_iff.mp split]
    exact similar
  · intro similar
    cases split : Text.segments text with
    | nil => exact absurd split (Text.segments_ne_nil text)
    | cons first rest =>
        rw [split] at similar
        exact ⟨first, rest, Text.splits_iff.mpr split.symm, similar⟩

theorem similar?_eq_some {candidate : String} (found : similar? env text = some candidate) :
    Similar env text candidate ∧ ∀ other, Similar env text other → candidate ≤ other := by
  obtain ⟨alike, front, back, split, unlike⟩ := List.find?_eq_some_iff_append.mp found
  have ordered := env.sortedNames_ordered
  rw [split, List.pairwise_append, List.pairwise_cons] at ordered
  constructor
  · rw [similar_iff, split]
    exact ⟨by simp, alike⟩
  · intro other similar
    rw [similar_iff, split, List.mem_append, List.mem_cons] at similar
    obtain ⟨inFront | rfl | behind, similar⟩ := similar
    · have differs := unlike other inFront
      rw [similar] at differs
      cases differs
    · exact String.le_refl _
    · exact ordered.2.1.1 other behind

theorem suggests_suggestion? (env : Environment) (text : String) :
    Suggests env text (suggestion? env text) := by
  rw [suggestion?]
  cases found : similar? env text with
  | some candidate =>
      obtain ⟨similar, least⟩ := similar?_eq_some found
      exact .least similar least
  | none =>
      apply Suggests.nothing
      intro candidate similar
      obtain ⟨member, alike⟩ := similar_iff.mp similar
      exact List.find?_eq_none.mp found candidate member alike

theorem Suggests.unique {help help' : Option String} (suggests : Suggests env text help)
    (suggests' : Suggests env text help') : help = help' := by
  cases suggests with
  | least similar least =>
      cases suggests' with
      | least similar' least' =>
          rw [String.le_antisymm (least _ similar') (least' _ similar)]
      | nothing dissimilar => exact absurd similar (dissimilar _)
  | nothing dissimilar =>
      cases suggests' with
      | least similar' least' => exact absurd similar' (dissimilar _)
      | nothing => rfl

end Suggestions

section Findings

def findingAt? (env : Environment) (node : Node) : Option Finding :=
  node.referenceText?.bind fun text =>
    if (env.resolve? text).isNone then some (.unresolved text node (suggestion? env text)) else none

theorem findingAt?_eq_some_iff {node : Node} {finding : Finding} :
    findingAt? env node = some finding ↔
      ∃ text, Missing env node text ∧ .unresolved text node (suggestion? env text) = finding := by
  simp only [findingAt?, Option.bind_eq_some_iff, Option.ite_none_right_eq_some, Missing,
    Node.referenceText?_eq_some_iff, Option.isNone_iff_eq_none, Option.some.injEq, and_assoc]

theorem findings_entriesAt (env : Environment) (node : Node) :
    Entry.findings (entriesAt env node) = (findingAt? env node).toList := by
  unfold entriesAt findingAt?
  cases node.referenceText? with
  | none => rfl
  | some text =>
      rw [Option.bind_some, Environment.resolve?]
      cases found : env.resolve text with
      | ok resolution =>
          simp only [found]
          rfl
      | error cause =>
          simp only [found, Entry.findings_append, Entry.findings_map_note, List.nil_append]
          rfl

theorem findings_check {program : Node} (present : program.isBlank = false) (env : Environment) :
    Entry.findings (check env program).emitted = program.preorder.filterMap (findingAt? env) := by
  calc Entry.findings (check env program).emitted
      = Entry.findings (program.preorder.flatMap (entriesAt env)) := by rw [check, present]; rfl
    _ = program.preorder.flatMap fun node => (findingAt? env node).toList := by
        simp only [Entry.findings_flatMap, findings_entriesAt]
    _ = program.preorder.filterMap (findingAt? env) :=
        (List.filterMap_eq_flatMap_toList _ _).symm

theorem collects_findings {program : Node} (present : program.isBlank = false) {α : Type}
    {view : Finding → Option α} {shows : Node → α → Prop}
    (each : ∀ node value, (findingAt? env node).bind view = some value ↔ shows node value) :
    program.Collects (fun _ => shows)
      ((Entry.findings (check env program).emitted).filterMap view) := by
  rw [findings_check present, List.filterMap_filterMap]
  exact Node.collects_preorder present each

theorem missing_iff (node : Node) (text : String) :
    (findingAt? env node).bind Finding.unresolved? = some text ↔ Missing env node text := by
  simp only [Option.bind_eq_some_iff, findingAt?_eq_some_iff]
  constructor
  · rintro ⟨finding, ⟨other, missing, rfl⟩, shown⟩
    cases shown
    exact missing
  · intro missing
    exact ⟨_, ⟨text, missing, rfl⟩, rfl⟩

theorem diagnostic_unresolved (text : String) (node : Node) (help : Option String) :
    (Finding.unresolved text node help).diagnostic =
      { code := .unresolved
        message := "unresolved symbol '" ++ text ++ "'"
        subject := some text
        position := node.position
        help } := by
  have message :
      Code.unresolved.message [("name", text)] = "unresolved symbol '" ++ text ++ "'" := by
    simp [Code.message, Code.template, Template.fill, Template.fillPiece,
      String.append_assoc]
  rw [Finding.diagnostic, Diagnostic.ofCode, message]

theorem describes_iff (node : Node) (diagnostic : Diagnostic) :
    (findingAt? env node).bind (some ·.diagnostic) = some diagnostic ↔
      Describes env node diagnostic := by
  simp only [Option.bind_eq_some_iff, findingAt?_eq_some_iff, Option.some.injEq]
  constructor
  · rintro ⟨finding, ⟨text, missing, rfl⟩, rfl⟩
    exact ⟨text, _, missing, suggests_suggestion? env text, diagnostic_unresolved ..⟩
  · rintro ⟨text, help, missing, suggests, rfl⟩
    rw [suggests.unique (suggests_suggestion? env text)]
    exact ⟨_, ⟨text, missing, rfl⟩, diagnostic_unresolved ..⟩

end Findings

end References

/-- The second phase lists exactly the references that do not resolve. Over every tree, on every
table, it returns. To the list of unresolved names it appends the texts by which nodes refer to
something that does not resolve, in pre-order and once for each address. To the diagnostics it
appends one for each of these, in the same order, with the position of the node and with the least
similar name as a suggestion, or with none if no declared name is similar. -/
theorem resolve_phase_lists_missing_references (policy : RedefinitionPolicy) (table : SymbolTable)
    (name : String) (items : List Node) (position : Option Position) :
    let program := Node.program name items position
    let ended := Phase.resolve.run policy program table
    (∃ result, ended.outcome = .ok result) ∧
    (∃ texts, program.Collects (fun _ => References.Missing table.env) texts ∧
      ended.table.unresolved = table.unresolved ++ texts) ∧
    ∃ diagnostics, program.Collects (fun _ => References.Describes table.env) diagnostics ∧
      ended.table.diagnostics = table.diagnostics ++ diagnostics := by
  intro program ended
  have journal : ended.table.toJournal = table.toJournal ++
      .ofFindings (Entry.findings (References.check table.env program).emitted) :=
    Phase.inspect_journal
  refine ⟨⟨_, rfl⟩, ⟨_, References.collects_findings rfl References.missing_iff, ?_⟩,
    ⟨_, References.collects_findings rfl References.describes_iff, ?_⟩⟩
  · rw [journal]
    rfl
  · rw [journal, List.filterMap_eq_map']
    rfl

end SwarmCheck
