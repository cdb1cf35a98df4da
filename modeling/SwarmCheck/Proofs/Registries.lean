import Mathlib.Data.List.Forall2
import Mathlib.Data.List.Perm.Subperm
import SwarmCheck.Proofs.Occurrences

/-!
# Registries by their answers

A registry is a map of maps, and both kinds of maps remember an order. Equality of registries asks
for none of it: two registries are equal exactly when they give the same answers. A registry that
came about by definitions, some refused and some replaced, answers for a name by the definitions of
that name alone. Only the list of its names shows in which order they were first defined.
-/

namespace SwarmCheck

set_option autoImplicit false

namespace OrderedMap

section Equivalence

variable {α : Type} {same : α → α → Bool} {left right : OrderedMap α}

theorem lookups_of_equivalent (equal : left.equivalent same right = true) (key : String) :
    (left.get? key = none ∧ right.get? key = none) ∨
      ∃ value other, left.get? key = some value ∧ right.get? key = some other ∧
        same value other = true := by
  rw [equivalent, Bool.and_eq_true, beq_iff_eq, List.all_eq_true] at equal
  obtain ⟨sizes, each⟩ := equal
  have found {name : String} {value : α} (present : left.get? name = some value) :
      ∃ other, right.get? name = some other ∧ same value other = true := by
    have entry := each (name, value) (get?_eq_some_iff.mp present)
    cases otherPresent : right.get? name with
    | none => simp [otherPresent] at entry
    | some other => exact ⟨other, rfl, by simpa [otherPresent] using entry⟩
  cases present : left.get? key with
  | some value =>
      obtain ⟨other, otherPresent, alike⟩ := found present
      exact .inr ⟨value, other, rfl, otherPresent, alike⟩
  | none =>
      refine .inl ⟨rfl, ?_⟩
      have kept : left.keys ⊆ right.keys := by
        intro name member
        obtain ⟨value, held⟩ := Option.isSome_iff_exists.mp (contains_iff_mem_keys.mpr member)
        obtain ⟨other, otherHeld, _⟩ := found held
        exact contains_iff_mem_keys.mp (by rw [contains, otherHeld, Option.isSome_some])
      -- The names of one map are among those of the other, and they are as many.
      have reordered : left.keys.Perm right.keys := by
        apply (List.subperm_of_subset left.distinct kept).perm_of_length_le
        simp only [keys, List.length_map]
        exact Nat.le_of_eq sizes.symm
      have absent : ¬right.contains key = true := by
        rw [contains_iff_mem_keys, ← reordered.mem_iff, ← contains_iff_mem_keys, contains, present]
        simp
      rw [contains, Option.isSome_iff_ne_none, ne_eq, not_not] at absent
      exact absent

/-- Maps with the same answers are equal. Since no name occurs twice, they are of the same size. -/
theorem equivalent_of_lookups
    (answers : ∀ key, (left.get? key = none ∧ right.get? key = none) ∨
      ∃ value other, left.get? key = some value ∧ right.get? key = some other ∧
        same value other = true) :
    left.equivalent same right = true := by
  have shared (key : String) : key ∈ left.keys ↔ key ∈ right.keys := by
    rw [← contains_iff_mem_keys, ← contains_iff_mem_keys, contains, contains]
    rcases answers key with ⟨absent, otherAbsent⟩ | ⟨value, other, present, otherPresent, _⟩
    · rw [absent, otherAbsent]
    · rw [present, otherPresent, Option.isSome_some, Option.isSome_some]
  have sizes : left.size = right.size := by
    have reordered := (List.perm_ext_iff_of_nodup left.distinct right.distinct).mpr shared
    have lengths := reordered.length_eq
    rw [List.length_map, List.length_map] at lengths
    exact lengths
  rw [equivalent, Bool.and_eq_true, beq_iff_eq, List.all_eq_true]
  refine ⟨sizes, ?_⟩
  rintro ⟨key, value⟩ member
  have present := get?_eq_some_iff.mpr member
  rcases answers key with ⟨absent, _⟩ | ⟨held, other, heldPresent, otherPresent, alike⟩
  · rw [present] at absent
    cases absent
  · rw [present] at heldPresent
    cases heldPresent
    simp only [otherPresent, alike]

end Equivalence

theorem equivalent_beq_iff {α : Type} [DecidableEq α] {left right : OrderedMap α} :
    left.equivalent (· == ·) right = true ↔ left.get? = right.get? := by
  constructor
  · intro equal
    funext key
    rcases lookups_of_equivalent equal key with
      ⟨absent, otherAbsent⟩ | ⟨value, other, present, otherPresent, alike⟩
    · rw [absent, otherAbsent]
    · rw [present, otherPresent, eq_of_beq alike]
  · intro answers
    apply equivalent_of_lookups
    intro key
    rw [answers]
    cases present : right.get? key with
    | none => exact .inl ⟨rfl, rfl⟩
    | some value => exact .inr ⟨value, value, rfl, rfl, beq_self_eq_true value⟩

end OrderedMap

namespace Registry

section Equality

variable {left right : Registry}

theorem fields_of_sameAs (same : left.sameAs right = true) (name : String) :
    (left.fieldsOf? name).map OrderedMap.get? = (right.fieldsOf? name).map OrderedMap.get? := by
  rw [fieldsOf?, fieldsOf?]
  rcases OrderedMap.lookups_of_equivalent same name with
    ⟨absent, otherAbsent⟩ | ⟨fields, otherFields, present, otherPresent, alike⟩
  · rw [absent, otherAbsent]
  · rw [present, otherPresent, Option.map_some, Option.map_some,
      OrderedMap.equivalent_beq_iff.mp alike]

theorem sameAs_of_fields
    (answers : ∀ name,
      (left.fieldsOf? name).map OrderedMap.get? = (right.fieldsOf? name).map OrderedMap.get?) :
    left.sameAs right = true := by
  apply OrderedMap.equivalent_of_lookups
  intro name
  have answer := answers name
  rw [fieldsOf?, fieldsOf?] at answer
  cases present : left.records.get? name with
  | none =>
      rw [present, Option.map_none, eq_comm, Option.map_eq_none_iff] at answer
      exact .inl ⟨rfl, answer⟩
  | some fields =>
      rw [present, Option.map_some, eq_comm, Option.map_eq_some_iff] at answer
      obtain ⟨other, otherPresent, alike⟩ := answer
      exact .inr ⟨fields, other, rfl, otherPresent, OrderedMap.equivalent_beq_iff.mpr alike.symm⟩

theorem sameAs_iff_answers :
    left.sameAs right = true ↔
      (∀ name, left.isDefined name = right.isDefined name) ∧
        ∀ name field, left.fieldType? name field = right.fieldType? name field := by
  constructor
  · intro same
    constructor
    · intro name
      have answer := congrArg Option.isSome (fields_of_sameAs same name)
      rw [Option.isSome_map, Option.isSome_map] at answer
      exact answer
    · intro name field
      have answer := congrArg (Option.bind · (· field)) (fields_of_sameAs same name)
      simp only [Option.bind_map] at answer
      exact answer
  · rintro ⟨defined, typed⟩
    apply sameAs_of_fields
    intro name
    have known := defined name
    have fields := typed name
    simp only [isDefined, OrderedMap.contains, fieldType?] at known fields
    rw [fieldsOf?, fieldsOf?]
    cases present : left.records.get? name with
    | none =>
        rw [present, Option.isSome_none, eq_comm, Option.isSome_eq_false_iff,
          Option.isNone_iff_eq_none] at known
        rw [known]
    | some own =>
        rw [present, Option.isSome_some, eq_comm, Option.isSome_iff_exists] at known
        obtain ⟨other, otherPresent⟩ := known
        rw [otherPresent, Option.map_some, Option.map_some, Option.some_inj]
        funext field
        simpa only [present, otherPresent, Option.bind_some] using fields field

end Equality

/-- A definition that is put to a registry, and whether it may replace an earlier one. -/
structure Definition where
  name : String
  fields : Fields
  replace : Bool

def ofDefinitions (definitions : List Definition) : Registry :=
  definitions.foldl
    (fun registry definition =>
      registry.define definition.name definition.fields definition.replace) .empty

theorem ofDefinitions_concat (definitions : List Definition) (last : Definition) :
    ofDefinitions (definitions ++ [last]) =
      (ofDefinitions definitions).define last.name last.fields last.replace := by
  rw [ofDefinitions, List.foldl_append]
  rfl

def Definition.settle (earlier : Option Fields) (definition : Definition) : Option Fields :=
  match earlier with
  | none => some definition.fields
  | some fields => some (if definition.replace then definition.fields else fields)

theorem fieldsOf?_define (registry : Registry) (definition : Definition) (name : String) :
    (registry.define definition.name definition.fields definition.replace).fieldsOf? name =
      if name = definition.name then definition.settle (registry.fieldsOf? name)
      else registry.fieldsOf? name := by
  obtain ⟨own, fields, replace⟩ := definition
  by_cases same : name = own
  · subst same
    cases present : registry.records.get? name <;> cases replace <;>
      simp [define, verdict, isDefined, fieldsOf?, OrderedMap.contains, Definition.settle,
        OrderedMap.get?_insert, present]
  · rw [if_neg same, define]
    split
    · rfl
    · exact (OrderedMap.get?_insert ..).trans (if_neg same)
    · exact (OrderedMap.get?_insert ..).trans (if_neg same)

theorem fieldsOf?_ofDefinitions (definitions : List Definition) (name : String) :
    (ofDefinitions definitions).fieldsOf? name =
      (definitions.filter (·.name = name)).foldl Definition.settle none := by
  induction definitions using List.reverseRecOn with
  | nil => rfl
  | append_singleton definitions last ih =>
      rw [ofDefinitions_concat, fieldsOf?_define, ih, List.filter_append, List.foldl_append]
      by_cases same : name = last.name
      · simp [same]
      · simp [same, Ne.symm same]

theorem names_define (registry : Registry) (name : String) (fields : Fields) (replace : Bool) :
    (registry.define name fields replace).names =
      registry.names ++ if registry.isDefined name then [] else [name] := by
  cases known : registry.isDefined name with
  | true =>
      cases replace with
      | false => simp [define, verdict, known]
      | true => simp [define, verdict, known, names, OrderedMap.keys_insert_of_known known]
  | false =>
      simp [define, verdict, known, names, OrderedMap.keys,
        OrderedMap.entries_insert_of_new known]

theorem mem_names_iff {registry : Registry} {name : String} :
    name ∈ registry.names ↔ registry.isDefined name = true :=
  OrderedMap.contains_iff_mem_keys.symm

theorem names_ofDefinitions (definitions : List Definition) :
    (ofDefinitions definitions).names = (definitions.map (·.name)).eraseDups := by
  induction definitions using List.reverseRecOn with
  | nil => rfl
  | append_singleton definitions last ih =>
      have known : (ofDefinitions definitions).isDefined last.name = true ↔
          last.name ∈ definitions.map (·.name) := by
        rw [← mem_names_iff, ih, List.mem_eraseDups]
      rw [ofDefinitions_concat, names_define, ih, List.map_append, List.eraseDups_append]
      simp only [known]
      congr 1
      split
      · rename_i repeated
        rw [List.map_singleton, List.removeAll, List.filter_cons_of_neg (by simpa using repeated)]
        rfl
      · rename_i new
        rw [List.map_singleton, List.removeAll, List.filter_cons_of_pos (by simpa using new)]
        rfl

/-- Two definitions that differ in the order of their fields at most. -/
structure Definition.Alike (definition other : Definition) : Prop where
  fields : definition.fields.entries.Perm other.fields.entries
  replace : definition.replace = other.replace

/-- Definitions in another order. Those of one name still come one after the other as before, since
the first of them counts or the last that replaces it. -/
def Reorders (definitions reordered : List Definition) : Prop :=
  ∀ name, List.Forall₂ Definition.Alike (definitions.filter (·.name = name))
    (reordered.filter (·.name = name))

section Reordering

theorem Definition.Alike.settle {definition other : Definition} (alike : definition.Alike other)
    {earlier otherEarlier : Option Fields}
    (same : earlier.map OrderedMap.get? = otherEarlier.map OrderedMap.get?) :
    (definition.settle earlier).map OrderedMap.get? =
      (other.settle otherEarlier).map OrderedMap.get? := by
  have own : definition.fields.get? = other.fields.get? :=
    funext (OrderedMap.get?_of_entries_perm alike.fields)
  cases earlier with
  | none =>
      rw [Option.map_none, eq_comm, Option.map_eq_none_iff] at same
      rw [same, Definition.settle, Definition.settle, Option.map_some, Option.map_some, own]
  | some fields =>
      rw [Option.map_some, eq_comm, Option.map_eq_some_iff] at same
      obtain ⟨otherFields, present, alikeFields⟩ := same
      rw [present, Definition.settle, Definition.settle, Option.map_some, Option.map_some,
        alike.replace]
      cases other.replace with
      | true => rw [if_pos rfl, if_pos rfl, own]
      | false => rw [if_neg Bool.false_ne_true, if_neg Bool.false_ne_true, alikeFields]

theorem settle_all {definitions reordered : List Definition}
    (alike : List.Forall₂ Definition.Alike definitions reordered)
    {earlier otherEarlier : Option Fields}
    (same : earlier.map OrderedMap.get? = otherEarlier.map OrderedMap.get?) :
    (definitions.foldl Definition.settle earlier).map OrderedMap.get? =
      (reordered.foldl Definition.settle otherEarlier).map OrderedMap.get? := by
  induction alike generalizing earlier otherEarlier with
  | nil => exact same
  | cons head _ ih => exact ih (head.settle same)

theorem Reorders.fields {definitions reordered : List Definition}
    (reorders : Reorders definitions reordered) (name : String) :
    ((ofDefinitions definitions).fieldsOf? name).map OrderedMap.get? =
      ((ofDefinitions reordered).fieldsOf? name).map OrderedMap.get? := by
  rw [fieldsOf?_ofDefinitions, fieldsOf?_ofDefinitions]
  exact settle_all (reorders name) rfl

end Reordering

end Registry

open Registry

/-- For all registries that came about by definitions, replacing or not and in whatever order. Two
of them are equal exactly when they know the same names and the same fields of each name. If the
definitions are reordered, and the fields in them, the registry stays equal to itself and to the
same other ones. Each name is listed once, in the order of the first definitions. -/
theorem registries_equal_by_answers (definitions others : List Definition) :
    let registry := ofDefinitions definitions
    let other := ofDefinitions others
    (registry.sameAs other = true ↔
      (∀ name, registry.isDefined name = other.isDefined name) ∧
        ∀ name field, registry.fieldType? name field = other.fieldType? name field) ∧
    (∀ reordered, Reorders definitions reordered →
      registry.sameAs (ofDefinitions reordered) = true ∧
        (ofDefinitions reordered).sameAs other = registry.sameAs other) ∧
    registry.names = (definitions.map (·.name)).eraseDups ∧
    registry.names.Nodup ∧
    ∀ name, name ∈ registry.names ↔ registry.isDefined name = true := by
  intro registry other
  refine ⟨sameAs_iff_answers, ?_, names_ofDefinitions definitions, registry.records.distinct,
    fun _ => mem_names_iff⟩
  intro reordered reorders
  refine ⟨sameAs_of_fields reorders.fields, ?_⟩
  rw [Bool.eq_iff_iff]
  constructor
  · intro same
    exact sameAs_of_fields fun name => (reorders.fields name).trans (fields_of_sameAs same name)
  · intro same
    exact sameAs_of_fields fun name =>
      (reorders.fields name).symm.trans (fields_of_sameAs same name)

/-- Two record types, one of which is defined three times: the second definition is refused, and the
third one replaces the first. -/
def posesBeforeRoutes : List Definition :=
  [⟨"Pose", .ofList [("x", .float), ("y", .float)], false⟩,
    ⟨"Pose", .ofList [("angle", .int)], false⟩,
    ⟨"Route", .ofList [("start", .record "Pose"), ("length", .float)], false⟩,
    ⟨"Pose", .ofList [("x", .int), ("y", .int)], true⟩]

def routesBeforePoses : List Definition :=
  [⟨"Route", .ofList [("length", .float), ("start", .record "Pose")], false⟩,
    ⟨"Pose", .ofList [("y", .float), ("x", .float)], false⟩,
    ⟨"Pose", .ofList [("angle", .int)], false⟩,
    ⟨"Pose", .ofList [("y", .int), ("x", .int)], true⟩]

theorem posesBeforeRoutes_reordered : Reorders posesBeforeRoutes routesBeforePoses := by
  intro name
  by_cases pose : "Pose" = name
  · subst pose
    exact .cons ⟨by decide, rfl⟩ (.cons ⟨by decide, rfl⟩ (.cons ⟨by decide, rfl⟩ .nil))
  · by_cases route : "Route" = name
    · subst route
      exact .cons ⟨by decide, rfl⟩ .nil
    · simp [posesBeforeRoutes, routesBeforePoses, pose, route]

/-- The names come in another order, and the registries are equal all the same. -/
theorem registries_of_poses_and_routes :
    Reorders posesBeforeRoutes routesBeforePoses ∧
      (ofDefinitions posesBeforeRoutes).sameAs (ofDefinitions routesBeforePoses) = true ∧
      (ofDefinitions posesBeforeRoutes).names = ["Pose", "Route"] ∧
      (ofDefinitions routesBeforePoses).names = ["Route", "Pose"] ∧
      (ofDefinitions posesBeforeRoutes).fieldType? "Pose" "x" =
        (ofDefinitions routesBeforePoses).fieldType? "Pose" "x" := by
  obtain ⟨equal, reordering, names, _⟩ :=
    registries_equal_by_answers posesBeforeRoutes routesBeforePoses
  obtain ⟨_, _, otherNames, _⟩ := registries_equal_by_answers routesBeforePoses posesBeforeRoutes
  have same := (reordering routesBeforePoses posesBeforeRoutes_reordered).1
  exact ⟨posesBeforeRoutes_reordered, same, names.trans rfl, otherNames.trans rfl,
    (equal.mp same).2 "Pose" "x"⟩

end SwarmCheck
