/-!
# Maps in insertion order

A map from names to values that remembers the order in which its names were first inserted.
Replacing a value keeps its place. Each name occurs once, which the type itself records, so
that two maps with the same look-ups hold the same entries up to order.
-/

namespace SwarmCheck

set_option autoImplicit false

structure OrderedMap (α : Type) where
  entries : List (String × α)
  distinct : (entries.map Prod.fst).Nodup

namespace OrderedMap

variable {α : Type}

def empty : OrderedMap α := ⟨[], List.nodup_nil⟩

instance : Inhabited (OrderedMap α) := ⟨empty⟩

def keys (map : OrderedMap α) : List String := map.entries.map Prod.fst

def values (map : OrderedMap α) : List α := map.entries.map Prod.snd

def size (map : OrderedMap α) : Nat := map.entries.length

def get? (map : OrderedMap α) (key : String) : Option α := map.entries.lookup key

def contains (map : OrderedMap α) (key : String) : Bool := (map.get? key).isSome

private def putEntry (key : String) (value : α) : List (String × α) → List (String × α)
  | [] => [(key, value)]
  | (other, old) :: rest =>
      if other = key then (key, value) :: rest else (other, old) :: putEntry key value rest

private theorem mem_keys_putEntry (key : String) (value : α) (entries : List (String × α))
    (name : String) :
    name ∈ (putEntry key value entries).map Prod.fst ↔
      name = key ∨ name ∈ entries.map Prod.fst := by
  induction entries with
  | nil => simp [putEntry]
  | cons entry rest ih =>
      simp only [putEntry]
      split
      · rename_i same
        simp [← same]
      · simp only [List.map_cons, List.mem_cons, ih]
        constructor <;> rintro (h | h | h) <;> simp [h]

private theorem nodup_putEntry (key : String) (value : α) (entries : List (String × α))
    (distinct : (entries.map Prod.fst).Nodup) :
    ((putEntry key value entries).map Prod.fst).Nodup := by
  induction entries with
  | nil => simp [putEntry]
  | cons entry rest ih =>
      simp only [List.map_cons, List.nodup_cons] at distinct
      simp only [putEntry]
      split
      · rename_i same
        simpa [← same] using distinct
      · rename_i other
        simp only [List.map_cons, List.nodup_cons, mem_keys_putEntry]
        exact ⟨by simp [other, distinct.1], ih distinct.2⟩

/-- Sets the value of a name: in place if the name is known, at the end otherwise. -/
def insert (map : OrderedMap α) (key : String) (value : α) : OrderedMap α :=
  ⟨putEntry key value map.entries, nodup_putEntry key value map.entries map.distinct⟩

/-- Sets the value of a name that is not yet known, and leaves the map alone otherwise. -/
def insertNew (map : OrderedMap α) (key : String) (value : α) : OrderedMap α :=
  if map.contains key then map else map.insert key value

/-- Of two entries with one name the later value counts, in the earlier place. -/
def ofList (entries : List (String × α)) : OrderedMap α :=
  entries.foldl (fun map entry => map.insert entry.1 entry.2) empty

/-- Whether two maps have the same names with equivalent values, in whatever order. -/
def equivalent (same : α → α → Bool) (left right : OrderedMap α) : Bool :=
  left.size == right.size &&
    left.entries.all fun entry =>
      match right.get? entry.1 with
      | some value => same entry.2 value
      | none => false

@[simp] theorem get?_empty (key : String) : (empty : OrderedMap α).get? key = none := rfl

private theorem lookup_putEntry (key : String) (value : α) (entries : List (String × α))
    (name : String) :
    (putEntry key value entries).lookup name =
      if name = key then some value else entries.lookup name := by
  induction entries with
  | nil =>
      by_cases same : name = key
      · simp [putEntry, same]
      · simp [putEntry, List.lookup_cons, same, beq_false_of_ne same]
  | cons entry rest ih =>
      obtain ⟨other, old⟩ := entry
      simp only [putEntry]
      by_cases replaced : other = key
      · subst replaced
        by_cases same : name = other
        · simp [same]
        · simp [List.lookup_cons, same, beq_false_of_ne same]
      · by_cases same : name = other
        · subst same
          simp [replaced]
        · simp [List.lookup_cons, replaced, beq_false_of_ne same, ih]

theorem get?_insert (map : OrderedMap α) (key : String) (value : α) (name : String) :
    (map.insert key value).get? name = if name = key then some value else map.get? name :=
  lookup_putEntry key value map.entries name

theorem get?_insertNew (map : OrderedMap α) (key : String) (value : α) (name : String) :
    (map.insertNew key value).get? name =
      if name = key ∧ map.get? key = none then some value else map.get? name := by
  unfold insertNew
  cases known : map.get? key with
  | none => simp [contains, known, get?_insert]
  | some old => simp [contains, known]

theorem contains_iff_mem_keys {map : OrderedMap α} {key : String} :
    map.contains key = true ↔ key ∈ map.keys := by
  rw [contains, Option.isSome_iff_ne_none, get?, keys, ne_eq, List.lookup_eq_none_iff,
    List.mem_map]
  constructor
  · intro found
    refine Classical.byContradiction fun absent => found fun entry member => ?_
    rw [bne_iff_ne]
    intro same
    exact absent ⟨entry, member, same.symm⟩
  · rintro ⟨entry, member, same⟩ absent
    have differs := absent entry member
    rw [bne_iff_ne] at differs
    exact differs same.symm

private theorem putEntry_of_absent (key : String) (value : α) (entries : List (String × α))
    (absent : key ∉ entries.map Prod.fst) :
    putEntry key value entries = entries ++ [(key, value)] := by
  induction entries with
  | nil => rfl
  | cons entry rest ih =>
      rw [List.map_cons, List.mem_cons, not_or] at absent
      rw [putEntry, if_neg (Ne.symm absent.1), ih absent.2, List.cons_append]

/-- A name that is not yet known goes to the end. -/
theorem entries_insert_of_new {map : OrderedMap α} {key : String}
    (new : map.contains key = false) (value : α) :
    (map.insert key value).entries = map.entries ++ [(key, value)] := by
  apply putEntry_of_absent
  intro known
  rw [contains_iff_mem_keys.mpr known] at new
  cases new

private theorem keys_putEntry_of_known (key : String) (value : α) (entries : List (String × α))
    (known : key ∈ entries.map Prod.fst) :
    (putEntry key value entries).map Prod.fst = entries.map Prod.fst := by
  induction entries with
  | nil => cases known
  | cons entry rest ih =>
      rw [putEntry]
      split
      · rename_i same
        rw [List.map_cons, List.map_cons, same]
      · rename_i other
        rw [List.map_cons, List.mem_cons] at known
        rw [List.map_cons, List.map_cons, ih (known.resolve_left (Ne.symm other))]

theorem keys_insert_of_known {map : OrderedMap α} {key : String}
    (known : map.contains key = true) (value : α) : (map.insert key value).keys = map.keys :=
  keys_putEntry_of_known key value map.entries (contains_iff_mem_keys.mp known)

end OrderedMap

end SwarmCheck
