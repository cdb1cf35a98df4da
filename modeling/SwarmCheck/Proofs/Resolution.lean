import SwarmCheck.Symbols.Resolution

/-!
# What a reference means

A reference names a variable by its longest dotted beginning that is declared, and the segments
after it name fields, each of the record type that the one before it has. The look-up of a
reference finds exactly this meaning, if there is one.
-/

namespace SwarmCheck

set_option autoImplicit false

/-- `fields` lead from one type to another, each a field of the record type it is applied to. -/
inductive Registry.Leads (registry : Registry) : Ty → List String → Ty → Prop
  | stop (type : Ty) : Leads registry type [] type
  | field {name field : String} {next last : Ty} {rest : List String}
      (found : registry.fieldType? name field = some next)
      (onward : Leads registry next rest last) :
      Leads registry (.record name) (field :: rest) last

/-- The segments of a text, cut in two: those in front are the longest beginning that is declared,
and name a symbol; the others are left for fields. -/
structure LongestBeginning (declared : String → Option Symbol) (text : String)
    (front fields : List String) (symbol : Symbol) : Prop where
  split : Text.Splits text (front ++ fields)
  nonempty : front ≠ []
  named : declared (Text.joinDots front) = some symbol
  longest : ∀ longer, longer <+: front ++ fields → front.length < longer.length →
    declared (Text.joinDots longer) = none

namespace Environment

/-- A reference means a variable, accessed at fields that lead to a type. -/
def RefersTo (env : Environment) (text : String) (symbol : Symbol) (fields : List String)
    (type : Ty) : Prop :=
  ∃ front, LongestBeginning env.symbols.get? text front fields symbol ∧
    env.registry.Leads symbol.type fields type

def lookupFirst? (env : Environment) (segments : List String) (count : Nat) : Option Symbol :=
  env.lookup? (Text.joinDots (segments.take count))

end Environment

namespace Registry

variable {registry : Registry}

theorem step_eq_ok_iff {type next : Ty} {field : String} :
    registry.step type field = .ok next ↔
      ∃ name, type = .record name ∧ registry.fieldType? name field = some next := by
  unfold step fieldType? fieldsOf?
  cases type with
  | primitive name => simp
  | array inner => simp
  | unknown => simp
  | record name =>
      cases defined : registry.records.get? name with
      | none => simp [defined]
      | some fields =>
          cases found : fields.get? field with
          | none => simp [defined, found]
          | some fieldType => simp [defined, found]

theorem walk_eq_ok_iff {type last : Ty} {fields : List String} :
    registry.walk type fields = .ok last ↔ registry.Leads type fields last := by
  induction fields generalizing type with
  | nil =>
      constructor
      · intro walked
        cases walked
        exact .stop _
      · intro leads
        cases leads
        rfl
  | cons field rest ih =>
      constructor
      · intro walked
        rw [walk] at walked
        split at walked
        · rename_i next stepped
          obtain ⟨name, rfl, found⟩ := step_eq_ok_iff.mp stepped
          exact .field found (ih.mp walked)
        · cases walked
      · intro leads
        cases leads with
        | field found onward =>
            rw [walk, step_eq_ok_iff.mpr ⟨_, rfl, found⟩]
            exact ih.mpr onward

end Registry

namespace Environment

variable {env : Environment} {segments : List String}

/-- The longer beginnings of a reference are what is taken from its segments by larger counts. -/
theorem longer_absent_iff {count : Nat} :
    (∀ longer, longer <+: segments → count < longer.length →
      env.lookup? (Text.joinDots longer) = none) ↔
      ∀ above, count < above → above ≤ segments.length →
        env.lookupFirst? segments above = none := by
  constructor
  · intro absent above higher bounded
    apply absent _ (List.take_prefix above segments)
    rw [List.length_take, Nat.min_eq_left bounded]
    exact higher
  · intro absent longer begins higher
    rw [List.prefix_iff_eq_take.mp begins]
    exact absent longer.length higher begins.length_le

/-- What a reference means, said of how many of its segments name the variable. -/
theorem refersTo_iff {text : String} {symbol : Symbol} {fields : List String} {type : Ty} :
    env.RefersTo text symbol fields type ↔
      ∃ used, 0 < used ∧ used ≤ (Text.segments text).length ∧
        env.lookupFirst? (Text.segments text) used = some symbol ∧
        (∀ longer, used < longer → longer ≤ (Text.segments text).length →
          env.lookupFirst? (Text.segments text) longer = none) ∧
        fields = (Text.segments text).drop used ∧ env.registry.Leads symbol.type fields type := by
  constructor
  · rintro ⟨front, found, leads⟩
    have whole : front ++ fields = Text.segments text := Text.splits_iff.mp found.split
    refine ⟨front.length, List.length_pos_iff.mpr found.nonempty, ?_, ?_, ?_, ?_, leads⟩
    · rw [← whole, List.length_append]
      omega
    · rw [lookupFirst?, ← whole, List.take_left]
      exact found.named
    · rw [← whole]
      exact longer_absent_iff.mp found.longest
    · rw [← whole, List.drop_left]
  · rintro ⟨used, positive, bounded, named, absent, rfl, leads⟩
    refine ⟨(Text.segments text).take used, ?_, leads⟩
    have whole := List.take_append_drop used (Text.segments text)
    have length : ((Text.segments text).take used).length = used := by
      rw [List.length_take, Nat.min_eq_left bounded]
    constructor
    · exact Text.splits_iff.mpr whole
    · exact List.ne_nil_of_length_pos (length.symm ▸ positive)
    · exact named
    · rw [whole, length]
      exact longer_absent_iff.mpr absent

theorem root?_eq_some_iff {length used : Nat} {symbol : Symbol} :
    env.root? segments length = some (symbol, used) ↔
      0 < used ∧ used ≤ length ∧ env.lookupFirst? segments used = some symbol ∧
        ∀ longer, used < longer → longer ≤ length →
          env.lookupFirst? segments longer = none := by
  induction length with
  | zero =>
      simp only [root?, reduceCtorEq, false_iff]
      omega
  | succ length ih =>
      rw [root?]
      cases found : env.lookup? (Text.joinDots (segments.take (length + 1))) with
      | some first =>
          simp only [Option.some.injEq, Prod.mk.injEq]
          constructor
          · rintro ⟨rfl, rfl⟩
            exact ⟨by omega, by omega, found, fun longer above bounded => by omega⟩
          · rintro ⟨positive, bounded, named, absent⟩
            by_cases whole : used = length + 1
            · subst whole
              rw [lookupFirst?, found] at named
              exact ⟨Option.some.inj named, rfl⟩
            · have missing := absent (length + 1) (by omega) (by omega)
              rw [lookupFirst?, found] at missing
              cases missing
      | none =>
          simp only [ih]
          constructor
          · rintro ⟨positive, bounded, named, absent⟩
            refine ⟨positive, by omega, named, ?_⟩
            intro longer above within
            by_cases whole : longer = length + 1
            · rw [whole, lookupFirst?, found]
            · exact absent longer above (by omega)
          · rintro ⟨positive, bounded, named, absent⟩
            have short : used ≠ length + 1 := by
              intro whole
              rw [whole, lookupFirst?, found] at named
              cases named
            exact ⟨positive, by omega, named,
              fun longer above within => absent longer above (by omega)⟩

theorem lookupFirst?_all (env : Environment) (text : String) :
    env.lookupFirst? (Text.segments text) (Text.segments text).length = env.lookup? text := by
  rw [lookupFirst?, List.take_length, Text.joinDots_segments]

theorem resolve_eq_root (env : Environment) (text : String) :
    env.resolve text =
      match env.root? (Text.segments text) (Text.segments text).length with
      | none => .error .noRoot
      | some (symbol, used) =>
          match env.registry.walk symbol.type ((Text.segments text).drop used) with
          | .ok type => .ok ⟨symbol, type, (Text.segments text).drop used⟩
          | .error cause => .error cause := by
  unfold resolve
  cases whole : env.lookup? text with
  | none => rfl
  | some symbol =>
      have nonempty := List.length_pos_iff.mpr (Text.segments_ne_nil text)
      have root : env.root? (Text.segments text) (Text.segments text).length =
          some (symbol, (Text.segments text).length) := by
        rw [root?_eq_some_iff, lookupFirst?_all]
        exact ⟨nonempty, Nat.le_refl _, whole, fun longer above bounded => by omega⟩
      rw [root]
      simp [Registry.walk]

/-- The look-up of a reference finds its meaning and nothing else. -/
theorem resolve_eq_ok_iff {text : String} {resolution : Resolution} :
    env.resolve text = .ok resolution ↔
      env.RefersTo text resolution.symbol resolution.fields resolution.type := by
  rw [resolve_eq_root, refersTo_iff]
  constructor
  · intro found
    split at found
    · cases found
    rename_i symbol used root
    split at found
    · rename_i type walked
      cases found
      obtain ⟨positive, bounded, named, absent⟩ := root?_eq_some_iff.mp root
      exact ⟨used, positive, bounded, named, absent, rfl, Registry.walk_eq_ok_iff.mp walked⟩
    · cases found
  · rintro ⟨used, positive, bounded, named, absent, onward, leads⟩
    rw [root?_eq_some_iff.mpr ⟨positive, bounded, named, absent⟩]
    dsimp only
    rw [← onward, Registry.walk_eq_ok_iff.mpr leads]

theorem resolve?_eq_some_iff {text : String} {resolution : Resolution} :
    env.resolve? text = some resolution ↔ env.resolve text = .ok resolution := by
  rw [resolve?]
  cases env.resolve text <;> simp [Except.toOption]

theorem resolve?_eq_none_iff {text : String} :
    env.resolve? text = none ↔ ∃ cause, env.resolve text = .error cause := by
  rw [resolve?]
  cases env.resolve text <;> simp [Except.toOption]

theorem resolves_iff {text : String} :
    (∃ resolution, env.resolve text = .ok resolution) ↔
      ∃ symbol fields type, env.RefersTo text symbol fields type := by
  constructor
  · rintro ⟨resolution, found⟩
    exact ⟨_, _, _, resolve_eq_ok_iff.mp found⟩
  · rintro ⟨symbol, fields, type, refers⟩
    exact ⟨⟨symbol, type, fields⟩, resolve_eq_ok_iff.mpr refers⟩

end Environment

end SwarmCheck
