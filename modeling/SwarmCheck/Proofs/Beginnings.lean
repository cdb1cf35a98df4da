import SwarmCheck.Proofs.Resolution

/-!
# Beginnings of references

A reference belongs to the variable that its longest declared beginning names, and to no other one:
neither a walk that fails nor a look at the whole text first changes that. So a new variable takes
a reference over exactly when its name is a longer beginning than all that were declared. A new
record type takes nothing over, since no walk that went through can have asked for it.
-/

namespace SwarmCheck

set_option autoImplicit false

namespace LongestBeginning

variable {declared : String → Option Symbol} {text : String}
  {front front' fields fields' : List String} {symbol symbol' : Symbol}

theorem length_le (found : LongestBeginning declared text front fields symbol)
    (found' : LongestBeginning declared text front' fields' symbol') :
    front'.length ≤ front.length := by
  have whole : front ++ fields = front' ++ fields' :=
    (Text.splits_iff.mp found.split).trans (Text.splits_iff.mp found'.split).symm
  apply Nat.le_of_not_lt
  intro above
  have absent := found.longest front' (whole ▸ List.prefix_append front' fields') above
  rw [found'.named] at absent
  cases absent

theorem unique (found : LongestBeginning declared text front fields symbol)
    (found' : LongestBeginning declared text front' fields' symbol') :
    front = front' ∧ fields = fields' ∧ symbol = symbol' := by
  have whole : front ++ fields = front' ++ fields' :=
    (Text.splits_iff.mp found.split).trans (Text.splits_iff.mp found'.split).symm
  have sameLength := Nat.le_antisymm (found'.length_le found) (found.length_le found')
  obtain ⟨rfl, sameFields⟩ := List.append_inj whole sameLength
  have sameSymbol := found.named.symm.trans found'.named
  exact ⟨rfl, sameFields, Option.some.inj sameSymbol⟩

end LongestBeginning

namespace Environment

def declareAll (env : Environment) (symbols : List Symbol) : Environment :=
  symbols.foldl declare env

/-- Resolution by the search for a beginning alone, without a look at the whole text first. -/
def search (env : Environment) (text : String) : Except Unresolved Resolution :=
  match env.root? (Text.segments text) (Text.segments text).length with
  | none => .error .noRoot
  | some (symbol, used) =>
      match env.registry.walk symbol.type ((Text.segments text).drop used) with
      | .ok type => .ok ⟨symbol, type, (Text.segments text).drop used⟩
      | .error cause => .error cause

/-- A name overtakes a reference: it is a beginning of the reference, and longer than all that are
declared. -/
def Overtakes (env : Environment) (text name : String) : Prop :=
  ∃ front rest, Text.Splits text (front ++ rest) ∧ front ≠ [] ∧ Text.joinDots front = name ∧
    ∀ other, other <+: front ++ rest → other ≠ [] →
      (env.lookup? (Text.joinDots other)).isSome = true → other.length < front.length

section Declaring

variable (env : Environment)

theorem lookup?_declare (symbol : Symbol) (name : String) :
    (env.declare symbol).lookup? name =
      if name = symbol.name ∧ env.lookup? symbol.name = none then some symbol
      else env.lookup? name :=
  OrderedMap.get?_insertNew env.symbols symbol.name symbol name

/-- Of several declarations of one name the first counts. -/
theorem lookup?_declareAll (symbols : List Symbol) (name : String) :
    (env.declareAll symbols).lookup? name =
      (env.lookup? name).or (symbols.find? (·.name == name)) := by
  induction symbols generalizing env with
  | nil => exact (Option.or_none).symm
  | cons symbol rest ih =>
      have onward : env.declareAll (symbol :: rest) = (env.declare symbol).declareAll rest := rfl
      rw [onward, ih, lookup?_declare, List.find?_cons]
      by_cases same : symbol.name = name
      · subst same
        cases known : env.lookup? symbol.name <;> simp
      · have other : (symbol.name == name) = false := beq_false_of_ne same
        rw [if_neg fun both => same both.1.symm, other]

theorem registry_declareAll (symbols : List Symbol) :
    (env.declareAll symbols).registry = env.registry := by
  induction symbols generalizing env with
  | nil => rfl
  | cons symbol rest ih => exact ih (env.declare symbol)

end Declaring

section Overtaking

variable {env : Environment} {segments : List String} {symbol : Symbol}

/-- The search finds what it found before, if wherever the new name is a beginning, a longer one was
declared. -/
theorem root?_declare_of_longer {length : Nat}
    (longer : ∀ count, 0 < count → count ≤ length →
      Text.joinDots (segments.take count) = symbol.name →
      ∃ above, count < above ∧ above ≤ length ∧
        (env.lookupFirst? segments above).isSome = true) :
    (env.declare symbol).root? segments length = env.root? segments length := by
  induction length with
  | zero => rfl
  | succ length ih =>
      have other : Text.joinDots (segments.take (length + 1)) ≠ symbol.name := by
        intro same
        obtain ⟨above, higher, bounded, _⟩ :=
          longer (length + 1) (Nat.succ_pos length) (Nat.le_refl _) same
        omega
      rw [root?, root?, lookup?_declare, if_neg fun both => other both.1]
      cases found : env.lookup? (Text.joinDots (segments.take (length + 1))) with
      | some first => rfl
      | none =>
          apply ih
          intro count positive bounded same
          obtain ⟨above, higher, within, declared⟩ := longer count positive (by omega) same
          have short : above ≠ length + 1 := by
            intro whole
            rw [whole, lookupFirst?, found] at declared
            cases declared
          exact ⟨above, higher, by omega, declared⟩

/-- The search finds the new symbol, if its name is a beginning and no longer one was declared. -/
theorem root?_declare_of_longest {length count : Nat} (fresh : env.lookup? symbol.name = none)
    (positive : 0 < count) (bounded : count ≤ length)
    (same : Text.joinDots (segments.take count) = symbol.name)
    (longest : ∀ above, count < above → above ≤ length →
      env.lookupFirst? segments above = none) :
    ∃ used, (env.declare symbol).root? segments length = some (symbol, used) := by
  induction length with
  | zero => omega
  | succ length ih =>
      rw [root?, lookup?_declare]
      by_cases named : Text.joinDots (segments.take (length + 1)) = symbol.name
      · rw [if_pos ⟨named, fresh⟩]
        exact ⟨length + 1, rfl⟩
      · have short : count ≠ length + 1 := by
          intro whole
          exact named (whole ▸ same)
        have absent : env.lookup? (Text.joinDots (segments.take (length + 1))) = none :=
          longest (length + 1) (by omega) (Nat.le_refl _)
        rw [if_neg fun both => named both.1, absent]
        apply ih (by omega)
        intro above higher within
        exact longest above higher (by omega)

variable {text : String}

theorem overtakes_iff {name : String} (fresh : env.lookup? name = none) :
    env.Overtakes text name ↔
      ∃ count, 0 < count ∧ count ≤ (Text.segments text).length ∧
        Text.joinDots ((Text.segments text).take count) = name ∧
        ∀ above, count < above → above ≤ (Text.segments text).length →
          env.lookupFirst? (Text.segments text) above = none := by
  constructor
  · rintro ⟨front, rest, split, nonempty, joined, longest⟩
    have whole : front ++ rest = Text.segments text := Text.splits_iff.mp split
    rw [← whole]
    refine ⟨front.length, List.length_pos_iff.mpr nonempty, ?_, ?_, longer_absent_iff.mp ?_⟩
    · rw [List.length_append]
      omega
    · rw [List.take_left]
      exact joined
    · intro longer begins higher
      rw [← Option.not_isSome_iff_eq_none]
      intro declared
      have filled := List.ne_nil_of_length_pos (Nat.zero_lt_of_lt higher)
      exact Nat.lt_asymm higher (longest longer begins filled declared)
  · rintro ⟨count, positive, bounded, joined, longest⟩
    have whole := List.take_append_drop count (Text.segments text)
    have length : ((Text.segments text).take count).length = count := by
      rw [List.length_take, Nat.min_eq_left bounded]
    refine ⟨_, _, Text.splits_iff.mpr whole, ?_, joined, ?_⟩
    · exact List.ne_nil_of_length_pos (length.symm ▸ positive)
    · intro other begins _ declared
      rw [whole] at begins
      rw [length]
      rcases Nat.lt_trichotomy other.length count with shorter | same | longer
      · exact shorter
      · rw [List.prefix_iff_eq_take.mp begins, same, joined, fresh] at declared
        cases declared
      · rw [longer_absent_iff.mpr longest other begins longer] at declared
        cases declared

end Overtaking

/-- To look up the whole text first makes no difference. -/
theorem resolve_eq_search (env : Environment) (text : String) :
    env.resolve text = env.search text :=
  env.resolve_eq_root text

section Stability

variable {env : Environment} {text : String} {symbol : Symbol}

theorem resolve_declare_of_not_overtakes (fresh : env.lookup? symbol.name = none)
    (behind : ¬ env.Overtakes text symbol.name) :
    (env.declare symbol).resolve text = env.resolve text := by
  have root : (env.declare symbol).root? (Text.segments text) (Text.segments text).length =
      env.root? (Text.segments text) (Text.segments text).length := by
    apply root?_declare_of_longer
    intro count positive bounded joined
    refine Classical.byContradiction fun none => behind ?_
    refine (overtakes_iff fresh).mpr ⟨count, positive, bounded, joined, ?_⟩
    intro above higher within
    rw [← Option.not_isSome_iff_eq_none]
    intro declared
    exact none ⟨above, higher, within, declared⟩
  rw [resolve_eq_search, resolve_eq_search, search, root]
  rfl

/-- What a reference resolves to after its name was overtaken, if to anything. -/
theorem resolve_declare_of_overtakes (fresh : env.lookup? symbol.name = none)
    (overtakes : env.Overtakes text symbol.name) {resolution : Resolution}
    (found : (env.declare symbol).resolve text = .ok resolution) :
    resolution.symbol = symbol := by
  obtain ⟨count, positive, bounded, joined, longest⟩ := (overtakes_iff fresh).mp overtakes
  obtain ⟨used, root⟩ := root?_declare_of_longest fresh positive bounded joined longest
  rw [resolve_eq_search, search, root] at found
  dsimp only at found
  split at found
  · cases found
    rfl
  · cases found

end Stability

end Environment

namespace Registry

variable {registry : Registry} {name : String}

theorem fieldType?_define_of_new (new : registry.isDefined name = false) (fields : Fields)
    (replace : Bool) {other field : String} {type : Ty}
    (found : registry.fieldType? other field = some type) :
    (registry.define name fields replace).fieldType? other field = some type := by
  have unknown : registry.records.get? name = none := by
    rw [← Option.not_isSome_iff_eq_none]
    exact Bool.eq_false_iff.mp new
  have different : other ≠ name := by
    rintro rfl
    rw [fieldType?, unknown] at found
    cases found
  have added : registry.verdict name replace = .added := by
    rw [verdict, new]
    rfl
  rw [define, added]
  change ((registry.records.insert name fields).get? other).bind _ = _
  rw [OrderedMap.get?_insert, if_neg different]
  exact found

theorem Leads.define_of_new (new : registry.isDefined name = false) (fields : Fields)
    (replace : Bool) {first last : Ty} {path : List String}
    (leads : registry.Leads first path last) :
    (registry.define name fields replace).Leads first path last := by
  induction leads with
  | stop type => exact .stop type
  | field found _ ih => exact .field (fieldType?_define_of_new new fields replace found) ih

end Registry

/-- A reference resolves by its longest beginning. Whatever variables were declared one after the
other, and whatever record types there are: a text resolves if and only if a beginning of it is a
declared name and the segments after the longest such beginning lead from field to field, each a
field of a record type that is defined. It resolves to the first variable declared under that name,
these segments and the type they lead to; name and segments together are the text again. If the
segments lead nowhere, no shorter beginning is tried. The look at the whole text first changes
nothing, not even why a text does not resolve. -/
theorem resolve_by_longest_beginning (registry : Registry) (symbols : List Symbol)
    (text : String) :
    let env := Environment.declareAll { registry } symbols
    let declared := fun name => symbols.find? (·.name == name)
    (∀ resolution, env.resolve? text = some resolution ↔
      ∃ front, LongestBeginning declared text front resolution.fields resolution.symbol ∧
        registry.Leads resolution.symbol.type resolution.fields resolution.type) ∧
    (∀ resolution, env.resolve? text = some resolution →
      Text.joinDots (resolution.symbol.name :: resolution.fields) = text) ∧
    (∀ front fields symbol, LongestBeginning declared text front fields symbol →
      (∀ type, ¬ registry.Leads symbol.type fields type) → env.resolve? text = none) ∧
    env.resolve text = env.search text := by
  intro env declared
  have lookup : env.symbols.get? = declared := by
    funext name
    exact Environment.lookup?_declareAll _ symbols name
  have sameRegistry : env.registry = registry := Environment.registry_declareAll _ symbols
  have resolves (resolution : Resolution) : env.resolve? text = some resolution ↔
      ∃ front, LongestBeginning declared text front resolution.fields resolution.symbol ∧
        registry.Leads resolution.symbol.type resolution.fields resolution.type := by
    rw [Environment.resolve?_eq_some_iff, Environment.resolve_eq_ok_iff,
      Environment.RefersTo, lookup, sameRegistry]
  refine ⟨resolves, ?_, ?_, env.resolve_eq_search text⟩
  · intro resolution found
    obtain ⟨front, beginning, _⟩ := (resolves resolution).mp found
    have name : resolution.symbol.name = Text.joinDots front := by
      simpa using List.find?_some beginning.named
    rw [name, ← Text.joinDots_append beginning.nonempty]
    exact beginning.split.joined
  · intro front fields symbol beginning stuck
    rw [Option.eq_none_iff_forall_ne_some]
    intro resolution found
    obtain ⟨front', beginning', leads⟩ := (resolves resolution).mp found
    obtain ⟨_, sameFields, sameSymbol⟩ := beginning.unique beginning'
    rw [← sameFields, ← sameSymbol] at leads
    exact stuck _ leads

/-- A record of a pose, and a variable in a module that has the name of a field in it. -/
def poses : Environment :=
  Environment.declareAll
    { registry := ⟨.ofList [("Pose", .ofList [("target", .record "Pose"), ("x", .float)])]⟩ }
    [{ name := "robot", type := .record "Pose", scope := .sensor },
      { name := "robot.target", type := .int, scope := .locals }]

example : (poses.resolve? "robot.x").map (·.type) = some .float := rfl

-- From the shorter beginning `robot` the fields `target` and `x` would lead to a type.
example : (poses.resolve? "robot.target.x").isNone = true := rfl

/-- Definitions elsewhere do not change what a reference resolves to. A new variable does so only if
its name is a beginning of the reference that is longer than all that were declared before, and then
the reference resolves to the new variable or not at all. A record type under a new name changes no
resolution that there was. -/
theorem resolution_outlasts_definitions (env : Environment) (text : String) :
    (∀ symbol, env.lookup? symbol.name = none →
      (¬ env.Overtakes text symbol.name →
        (env.declare symbol).resolve? text = env.resolve? text) ∧
      (env.Overtakes text symbol.name →
        (env.declare symbol).resolve? text = none ∨
          ∃ resolution, (env.declare symbol).resolve? text = some resolution ∧
            resolution.symbol = symbol)) ∧
    ∀ name fields replace resolution, env.registry.isDefined name = false →
      env.resolve? text = some resolution →
      (env.defineRecord name fields replace).resolve? text = some resolution := by
  constructor
  · intro symbol fresh
    constructor
    · intro behind
      rw [Environment.resolve?, Environment.resolve?,
        Environment.resolve_declare_of_not_overtakes fresh behind]
    · intro overtakes
      cases found : (env.declare symbol).resolve? text with
      | none => exact .inl rfl
      | some resolution =>
          have resolved := Environment.resolve?_eq_some_iff.mp found
          exact .inr ⟨resolution, rfl,
            Environment.resolve_declare_of_overtakes fresh overtakes resolved⟩
  · intro name fields replace resolution new found
    rw [Environment.resolve?_eq_some_iff, Environment.resolve_eq_ok_iff] at found ⊢
    obtain ⟨front, beginning, leads⟩ := found
    exact ⟨front, beginning, leads.define_of_new new fields replace⟩

def innermost : Symbol := { name := "robot.target.x", type := .int, scope := .actuator }

theorem poses_outlast_definitions :
    poses.lookup? innermost.name = none ∧
      poses.Overtakes "robot.target.x" innermost.name ∧
      ¬ poses.Overtakes "robot.x" innermost.name ∧
      ((poses.declare innermost).resolve? "robot.target.x" = none ∨
        ∃ resolution, (poses.declare innermost).resolve? "robot.target.x" = some resolution ∧
          resolution.symbol = innermost) ∧
      (poses.declare innermost).resolve? "robot.x" = poses.resolve? "robot.x" ∧
      poses.registry.isDefined "Point" = false ∧
      ∃ resolution, poses.resolve? "robot.x" = some resolution ∧
        (poses.defineRecord "Point" .empty false).resolve? "robot.x" = some resolution := by
  have fresh : poses.lookup? innermost.name = none := rfl
  have overtakes : poses.Overtakes "robot.target.x" innermost.name := by
    apply (Environment.overtakes_iff fresh).mpr
    refine ⟨3, by decide, by decide, by decide, ?_⟩
    intro above higher bounded
    have length : (Text.segments "robot.target.x").length = 3 := by decide
    omega
  have behind : ¬ poses.Overtakes "robot.x" innermost.name := by
    rw [Environment.overtakes_iff fresh]
    rintro ⟨count, positive, bounded, joined, _⟩
    have length : (Text.segments "robot.x").length = 2 := by decide
    obtain rfl | rfl : count = 1 ∨ count = 2 := by omega
    · exact absurd joined (by decide)
    · exact absurd joined (by decide)
  have new : poses.registry.isDefined "Point" = false := rfl
  obtain ⟨resolution, found⟩ : ∃ resolution, poses.resolve? "robot.x" = some resolution :=
    ⟨_, rfl⟩
  exact ⟨fresh, overtakes, behind,
    ((resolution_outlasts_definitions poses "robot.target.x").1 innermost fresh).2 overtakes,
    ((resolution_outlasts_definitions poses "robot.x").1 innermost fresh).1 behind, new,
    resolution, found,
    (resolution_outlasts_definitions poses "robot.x").2 "Point" .empty false resolution new found⟩

end SwarmCheck
