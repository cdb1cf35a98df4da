import SwarmCheck.Analysis.Entry

/-!
# How trails compose

A step that returns hands its value on and keeps what it emitted; a step that fails ends the
whole trail. What is asked about trails elsewhere is settled here once for each way of building
one: what it returns, what it may emit, and how it may fail.
-/

namespace SwarmCheck

set_option autoImplicit false

namespace Trail

variable {ω ε α β : Type}

@[simp] theorem outcome_pure (value : α) : (pure value : Trail ω ε α).outcome = .ok value := rfl

@[simp] theorem emitted_pure (value : α) : (pure value : Trail ω ε α).emitted = [] := rfl

@[simp] theorem outcome_emit (entries : List ω) :
    (emit entries : Trail ω ε Unit).outcome = .ok () := rfl

@[simp] theorem emitted_emit (entries : List ω) :
    (emit entries : Trail ω ε Unit).emitted = entries := rfl

@[simp] theorem outcome_fail (error : ε) :
    (fail error : Trail ω ε α).outcome = .error error := rfl

@[simp] theorem emitted_fail (error : ε) : (fail error : Trail ω ε α).emitted = [] := rfl

@[simp] theorem fail_bind (error : ε) (next : α → Trail ω ε β) :
    (fail error >>= next) = fail error := rfl

theorem outcome_bind_of_ok {first : Trail ω ε α} {value : α}
    (returned : first.outcome = .ok value) (next : α → Trail ω ε β) :
    (first >>= next).outcome = (next value).outcome := by
  change (andThen first next).outcome = _
  rw [andThen, returned]

theorem emitted_bind_of_ok {first : Trail ω ε α} {value : α}
    (returned : first.outcome = .ok value) (next : α → Trail ω ε β) :
    (first >>= next).emitted = first.emitted ++ (next value).emitted := by
  change (andThen first next).emitted = _
  rw [andThen, returned]

theorem outcome_bind_of_error {first : Trail ω ε α} {error : ε}
    (failed : first.outcome = .error error) (next : α → Trail ω ε β) :
    (first >>= next).outcome = .error error := by
  change (andThen first next).outcome = _
  rw [andThen, failed]

theorem emitted_bind_of_error {first : Trail ω ε α} {error : ε}
    (failed : first.outcome = .error error) (next : α → Trail ω ε β) :
    (first >>= next).emitted = first.emitted := by
  change (andThen first next).emitted = _
  rw [andThen, failed]

theorem outcome_bind_eq_ok_iff (first : Trail ω ε α) (next : α → Trail ω ε β) (result : β) :
    (first >>= next).outcome = .ok result ↔
      ∃ value, first.outcome = .ok value ∧ (next value).outcome = .ok result := by
  cases returned : first.outcome with
  | ok value => simp [outcome_bind_of_ok returned]
  | error error => simp [outcome_bind_of_error returned]

@[simp] theorem outcome_emit_bind (entries : List ω) (next : Unit → Trail ω ε β) :
    (emit entries >>= next).outcome = (next ()).outcome := rfl

@[simp] theorem emitted_emit_bind (entries : List ω) (next : Unit → Trail ω ε β) :
    (emit entries >>= next).emitted = entries ++ (next ()).emitted := rfl

theorem map_eq (f : α → β) (trail : Trail ω ε α) :
    f <$> trail = ⟨trail.emitted, trail.outcome.map f⟩ := by
  change (andThen trail fun value => pure (f value)) = _
  rw [andThen]
  cases trail.outcome with
  | error error => rfl
  | ok value => simp only [emitted_pure, outcome_pure, List.append_nil, Except.map]

@[simp] theorem outcome_map_emit (f : Unit → β) (entries : List ω) :
    (f <$> (emit entries : Trail ω ε Unit)).outcome = .ok (f ()) := rfl

@[simp] theorem emitted_map_emit (f : Unit → β) (entries : List ω) :
    (f <$> (emit entries : Trail ω ε Unit)).emitted = entries :=
  List.append_nil entries

/-- Whatever the trail emits is allowed, and if it fails, then by one of the given errors. -/
structure Within (allowed : ω → Prop) (errors : ε → Prop) (trail : Trail ω ε α) : Prop where
  entries : ∀ entry ∈ trail.emitted, allowed entry
  failure : ∀ error, trail.outcome = .error error → errors error

section Within

variable {allowed : ω → Prop} {errors : ε → Prop}

theorem within_pure (value : α) : (pure value : Trail ω ε α).Within allowed errors := by
  constructor
  · intro entry member
    cases member
  · intro error failed
    cases failed

theorem within_fail {error : ε} (expected : errors error) :
    (fail error : Trail ω ε α).Within allowed errors := by
  constructor
  · intro entry member
    cases member
  · intro other failed
    cases failed
    exact expected

theorem within_emit {entries : List ω} (each : ∀ entry ∈ entries, allowed entry) :
    (emit entries : Trail ω ε Unit).Within allowed errors := by
  constructor
  · exact each
  · intro error failed
    cases failed

theorem Within.bind {first : Trail ω ε α} {next : α → Trail ω ε β}
    (firstWithin : first.Within allowed errors)
    (nextWithin : ∀ value, (next value).Within allowed errors) :
    (first >>= next).Within allowed errors := by
  cases ended : first.outcome with
  | error error =>
      have stopped : (first >>= next) = ⟨first.emitted, .error error⟩ := by
        change andThen first next = _
        rw [andThen, ended]
      rw [stopped]
      constructor
      · exact firstWithin.entries
      · intro other failed
        cases failed
        exact firstWithin.failure error ended
  | ok value =>
      constructor
      · intro entry member
        rw [emitted_bind_of_ok ended] at member
        rcases List.mem_append.mp member with earlier | later
        · exact firstWithin.entries entry earlier
        · exact (nextWithin value).entries entry later
      · intro error failed
        rw [outcome_bind_of_ok ended] at failed
        exact (nextWithin value).failure error failed

theorem Within.returns {trail : Trail ω ε α} (within : trail.Within allowed fun _ => False) :
    ∃ value, trail.outcome = .ok value := by
  cases ended : trail.outcome with
  | ok value => exact ⟨value, rfl⟩
  | error error => exact (within.failure error ended).elim

end Within

theorem returned_of_forM {items : List α} {step : α → Trail ω ε Unit}
    (returned : (forM items step).outcome = .ok ()) :
    ∀ item ∈ items, (step item).outcome = .ok () := by
  induction items with
  | nil => exact List.forall_mem_nil _
  | cons item rest ih =>
      rw [List.forM_cons] at returned
      obtain ⟨done, first, later⟩ := (outcome_bind_eq_ok_iff _ _ _).mp returned
      exact List.forall_mem_cons.mpr ⟨first, ih later⟩

end Trail

namespace Entry

@[simp] theorem findings_nil : findings [] = [] := rfl

@[simp] theorem findings_append (first second : List Entry) :
    findings (first ++ second) = findings first ++ findings second :=
  List.filterMap_append

@[simp] theorem findings_note_cons (record : Log.Record) (rest : List Entry) :
    findings (.note record :: rest) = findings rest := rfl

@[simp] theorem findings_report_cons (finding : Finding) (rest : List Entry) :
    findings (.report finding :: rest) = finding :: findings rest := rfl

@[simp] theorem findings_map_note (records : List Log.Record) :
    findings (records.map .note) = [] := by
  induction records with
  | nil => rfl
  | cons record rest ih => exact ih

theorem findings_flatMap {α : Type} (items : List α) (entriesOf : α → List Entry) :
    findings (items.flatMap entriesOf) = items.flatMap fun item => findings (entriesOf item) := by
  induction items with
  | nil => rfl
  | cons item rest ih => simp only [List.flatMap_cons, findings_append, ih]

theorem mem_findings {finding : Finding} {entries : List Entry} :
    finding ∈ findings entries ↔ .report finding ∈ entries := by
  unfold findings
  rw [List.mem_filterMap]
  constructor
  · rintro ⟨entry, member, found⟩
    cases entry with
    | note record => cases found
    | report other => cases found; exact member
  · intro member
    exact ⟨.report finding, member, rfl⟩

end Entry

/-- A pass that returns a value, and that reports nothing exactly under a condition. -/
structure Pass.Yields {α : Type} (pass : Pass α) (value : α) (quiet : Prop) : Prop where
  outcome : pass.outcome = .ok value
  findings : Entry.findings pass.emitted = [] ↔ quiet

namespace Pass

open Trail

variable {α β : Type}

theorem yields_pure (value : α) : Yields (pure value) value True :=
  ⟨rfl, by simp⟩

theorem Yields.bind {first : Pass α} {next : α → Pass β} {value : α} {result : β}
    {firstQuiet nextQuiet : Prop} (firstYields : first.Yields value firstQuiet)
    (nextYields : (next value).Yields result nextQuiet) :
    Yields (first >>= next) result (firstQuiet ∧ nextQuiet) := by
  constructor
  · rw [outcome_bind_of_ok firstYields.outcome]
    exact nextYields.outcome
  · rw [emitted_bind_of_ok firstYields.outcome, Entry.findings_append, List.append_eq_nil_iff,
      firstYields.findings, nextYields.findings]

theorem Yields.of_iff {pass : Pass α} {value : α} {quiet other : Prop}
    (yields : pass.Yields value quiet) (same : quiet ↔ other) : pass.Yields value other :=
  ⟨yields.outcome, yields.findings.trans same⟩

theorem yields_forM {items : List α} {check : α → Pass Unit} {quiet : α → Prop}
    (each : ∀ item ∈ items, (check item).Yields () (quiet item)) :
    Yields (forM items check) () (∀ item ∈ items, quiet item) := by
  induction items with
  | nil => exact (yields_pure ()).of_iff (by simp)
  | cons item rest ih =>
      rw [List.forM_cons]
      have later := ih fun other member => each other (by simp [member])
      exact ((each item (by simp)).bind later).of_iff (by simp)

end Pass

end SwarmCheck
