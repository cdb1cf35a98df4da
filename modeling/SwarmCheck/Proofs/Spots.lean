import SwarmCheck.Proofs.Occurrences

/-!
# Where declarations stand

A spot is a node together with everything it stands below. The declarations that a walk over a
program reaches are the spots of those that do not stand below another declaration; what surrounds
each of them can be read off its spot. A record definition is complete only after everything in it
has been met, so no spot is ever met after one that it stands below.
-/

namespace SwarmCheck

set_option autoImplicit false

namespace Node

def isRecord : Node → Bool
  | record .. => true
  | _ => false

theorem exists_of_isDecl {node : Node} (declares : node.isDecl = true) :
    ∃ name typeName isRecord dims initial position,
      node = decl name typeName isRecord dims initial position := by
  cases node with
  | decl => exact ⟨_, _, _, _, _, _, rfl⟩
  | _ => cases declares

theorem exists_of_isRecord {node : Node} (defines : node.isRecord = true) :
    ∃ name fields position, node = record name fields position := by
  cases node with
  | record => exact ⟨_, _, _, rfl⟩
  | _ => cases defines

def blockName? : Node → Option String
  | moduleBlock name _ _ => some name
  | _ => none

def groupScope? : Node → Option Scope
  | group kind _ _ => some (Rules.groupScope kind)
  | _ => none

end Node

/-- A node and the nodes it stands below, the nearest first. Each of them comes with the place
that the next one takes among its children. -/
structure Spot where
  node : Node
  above : List (Nat × Node)

namespace Spot

def root (program : Node) : Spot := ⟨program, []⟩

/-- The places to take from the root to a spot, the last one first. -/
def address (spot : Spot) : List Nat := spot.above.map (·.1)

def childrenFrom (spot : Spot) (place : Nat) (nodes : List Node) : List Spot :=
  (nodes.zipIdx place).map fun child => ⟨child.1, (child.2, spot.node) :: spot.above⟩

def children (spot : Spot) : List Spot := spot.childrenFrom 0 spot.node.children

theorem node_mem_children {spot child : Spot} (below : child ∈ spot.children) :
    child.node ∈ spot.node.children := by
  obtain ⟨⟨node, place⟩, member, rfl⟩ := List.mem_map.mp below
  exact List.fst_mem_of_mem_zipIdx member

/-- The declarations and record definitions that a walk meets at and below a spot. It does not look
below a declaration, and it is done with a record definition when it leaves it. -/
def reached (spot : Spot) : List Spot :=
  if spot.node.isDecl then [spot]
  else
    (spot.children.attach.flatMap fun child => child.1.reached) ++
      if spot.node.isRecord then [spot] else []
termination_by spot.node.preorder.length
decreasing_by exact Node.length_preorder_lt (node_mem_children child.2)

theorem reached_of_decl {spot : Spot} (declares : spot.node.isDecl = true) :
    spot.reached = [spot] := by
  rw [reached, if_pos declares]

theorem reached_of_not_decl {spot : Spot} (other : spot.node.isDecl = false) :
    spot.reached =
      spot.children.flatMap reached ++ if spot.node.isRecord then [spot] else [] := by
  rw [reached, if_neg (Bool.eq_false_iff.mp other), List.flatMap_subtype fun _ _ => rfl,
    List.unattach_attach]

theorem spot_induction {motive : Spot → Prop}
    (step : ∀ spot, (∀ child ∈ spot.children, motive child) → motive spot) (spot : Spot) :
    motive spot := by
  obtain ⟨node, above⟩ := spot
  induction node using Node.children_induction generalizing above with
  | step node ih =>
      apply step
      intro child below
      exact ih child.node (node_mem_children below) child.above

section Order

variable {spot child inner : Spot} {place : Nat} {nodes : List Node}

theorem childrenFrom_cons (node : Node) :
    spot.childrenFrom place (node :: nodes) =
      ⟨node, (place, spot.node) :: spot.above⟩ :: spot.childrenFrom (place + 1) nodes := rfl

theorem above_of_mem_childrenFrom (below : child ∈ spot.childrenFrom place nodes) :
    ∃ taken, place ≤ taken ∧ child.above = (taken, spot.node) :: spot.above := by
  obtain ⟨⟨node, taken⟩, member, rfl⟩ := List.mem_map.mp below
  exact ⟨taken, (List.mem_zipIdx member).1, rfl⟩

theorem address_of_mem_childrenFrom (below : child ∈ spot.childrenFrom place nodes) :
    ∃ taken, place ≤ taken ∧ child.address = taken :: spot.address := by
  obtain ⟨taken, bounded, above⟩ := above_of_mem_childrenFrom below
  exact ⟨taken, bounded, by rw [address, above]; rfl⟩

theorem above_suffix_of_reached (spot : Spot) :
    ∀ inner ∈ spot.reached, spot.above <:+ inner.above := by
  induction spot using spot_induction with
  | step spot ih =>
      intro inner met
      cases declares : spot.node.isDecl with
      | true =>
          rw [reached_of_decl declares, List.mem_singleton] at met
          exact met ▸ List.suffix_rfl
      | false =>
          rw [reached_of_not_decl declares, List.mem_append, List.mem_flatMap] at met
          rcases met with ⟨child, below, met⟩ | own
          · obtain ⟨taken, _, above⟩ := above_of_mem_childrenFrom below
            have inside := ih child below inner met
            rw [above] at inside
            exact (List.suffix_cons _ _).trans inside
          · split at own
            · exact List.mem_singleton.mp own ▸ List.suffix_rfl
            · cases own

theorem address_suffix_of_reached (met : inner ∈ spot.reached) :
    spot.address <:+ inner.address :=
  (above_suffix_of_reached spot inner met).map _

theorem place_unique {address common : List Nat} {left right : Nat}
    (fromLeft : left :: common <:+ address) (fromRight : right :: common <:+ address) :
    left = right := by
  have shorter := List.suffix_of_suffix_length_le fromLeft fromRight (by simp)
  have same := shorter.eq_of_length (by simp)
  exact (List.cons.inj same).1

theorem childrenFrom_pairwise (spot : Spot) (place : Nat) (nodes : List Node) :
    (spot.childrenFrom place nodes).Pairwise fun left right => ∀ address : List Nat,
      left.address <:+ address → ¬ right.address <:+ address := by
  induction nodes generalizing place with
  | nil => exact .nil
  | cons node rest ih =>
      rw [childrenFrom_cons, List.pairwise_cons]
      refine ⟨?_, ih (place + 1)⟩
      intro later member address fromFirst fromLater
      obtain ⟨taken, bounded, same⟩ := address_of_mem_childrenFrom member
      rw [same] at fromLater
      have equal : place = taken := place_unique fromFirst fromLater
      omega

/-- No spot is met after one that it stands below, and none is met twice. -/
theorem reached_pairwise (spot : Spot) :
    spot.reached.Pairwise fun earlier later => ¬ earlier.address <:+ later.address := by
  induction spot using spot_induction with
  | step spot ih =>
      cases declares : spot.node.isDecl with
      | true =>
          rw [reached_of_decl declares]
          exact List.pairwise_singleton _ _
      | false =>
          rw [reached_of_not_decl declares, List.pairwise_append, List.pairwise_flatMap]
          refine ⟨⟨ih, ?_⟩, ?_, ?_⟩
          · refine (spot.childrenFrom_pairwise 0 spot.node.children).imp ?_
            intro left right apart earlier metLeft later metRight within
            exact apart later.address ((address_suffix_of_reached metLeft).trans within)
              (address_suffix_of_reached metRight)
          · split
            · exact List.pairwise_singleton _ _
            · exact .nil
          · intro earlier below later own within
            split at own
            · obtain ⟨child, member, met⟩ := List.mem_flatMap.mp below
              obtain ⟨taken, _, same⟩ := address_of_mem_childrenFrom member
              have longer := ((address_suffix_of_reached met).trans within).length_le
              rw [List.mem_singleton.mp own, same, List.length_cons] at longer
              omega
            · cases own

end Order

def recordAbove : List (Nat × Node) → Option Spot
  | [] => none
  | (_, node) :: rest => if node.isRecord then some ⟨node, rest⟩ else recordAbove rest

def record? (spot : Spot) : Option Spot := recordAbove spot.above

/-- The record definition that a field directly below a spot belongs to. -/
def recordBelow? (spot : Spot) : Option Spot :=
  if spot.node.isRecord then some spot else spot.record?

theorem address_of_recordAbove {above : List (Nat × Node)} {record : Spot}
    (around : recordAbove above = some record) :
    ∃ place, place :: record.address <:+ above.map (·.1) := by
  induction above with
  | nil => cases around
  | cons entry rest ih =>
      obtain ⟨place, node⟩ := entry
      rw [recordAbove] at around
      split at around
      · cases around
        exact ⟨place, List.suffix_rfl⟩
      · obtain ⟨inner, within⟩ := ih around
        exact ⟨inner, within.trans (List.suffix_cons _ _)⟩

/-- What stands below a record definition has that one around it, or another one in it. -/
theorem recordAbove_of_suffix {place : Nat} {record : Spot} {above : List (Nat × Node)}
    (defines : record.node.isRecord = true)
    (below : (place, record.node) :: record.above <:+ above) :
    ∃ nearest, recordAbove above = some nearest ∧ record.address <:+ nearest.address := by
  induction above with
  | nil => cases List.suffix_nil.mp below
  | cons entry rest ih =>
      rcases List.suffix_cons_iff.mp below with same | deeper
      · cases same
        exact ⟨record, by rw [recordAbove, if_pos defines], List.suffix_rfl⟩
      · obtain ⟨other, node⟩ := entry
        rw [recordAbove]
        split
        · exact ⟨⟨node, rest⟩, rfl, ((List.suffix_cons _ _).trans deeper).map _⟩
        · exact ih deeper

def block? (spot : Spot) : Option String := spot.above.findSome? (·.2.blockName?)

def scope? (spot : Spot) : Option Scope := spot.above.findSome? (·.2.groupScope?)

def name (spot : Spot) : String := spot.node.name?.getD ""

def type (spot : Spot) : Ty :=
  match spot.node with
  | .decl _ typeName isRecord dims _ _ => Rules.namedType typeName isRecord dims
  | _ => .unknown

def fullName (spot : Spot) : String := Rules.fullName spot.block? spot.name

def isVariable (spot : Spot) : Bool := spot.node.isDecl && spot.record?.isNone

theorem isVariable_iff {spot : Spot} :
    spot.isVariable = true ↔ spot.node.isDecl = true ∧ spot.record? = none := by
  rw [isVariable, Bool.and_eq_true, Option.isNone_iff_eq_none]

/-- The variable declared at a spot. -/
def symbol? (spot : Spot) : Option Symbol :=
  if spot.isVariable then
    spot.scope?.map fun scope =>
      { name := spot.fullName, type := spot.type, scope, definedAt := spot.node }
  else none

/-- The field declared at a spot, if it is one of the record defined at an address. -/
def fieldOf? (record : List Nat) (spot : Spot) : Option (String × Ty) :=
  if spot.node.isDecl ∧ spot.record?.map address = some record then some (spot.name, spot.type)
  else none

/-- The fields of a record definition among what was met: the first of each name. -/
def fieldsAmong (met : List Spot) (record : Spot) : Fields :=
  .ofFirsts (met.filterMap (fieldOf? record.address))

/-- What a declaration is told apart by: variables and record types by name, and fields by name
within one definition of a record. -/
inductive Key where
  | symbol (name : String)
  | field (record : List Nat) (name : String)
  | record (name : String)
  deriving DecidableEq

def key (spot : Spot) : Key :=
  if spot.node.isDecl then
    match spot.record? with
    | none => .symbol spot.fullName
    | some record => .field record.address spot.name
  else .record spot.name

def label (spot : Spot) : String :=
  if spot.node.isDecl then
    match spot.record? with
    | none => spot.fullName
    | some record => record.name ++ "." ++ spot.name
  else spot.name

section Keys

variable {spot : Spot} {name : String}

theorem key_eq_symbol_iff :
    spot.key = .symbol name ↔ spot.isVariable = true ∧ spot.fullName = name := by
  rw [key, isVariable]
  cases spot.node.isDecl <;> cases spot.record? <;> simp

theorem key_eq_field_iff {address : List Nat} :
    spot.key = .field address name ↔
      (spot.node.isDecl = true ∧ ∃ record, spot.record? = some record ∧
        record.address = address) ∧ spot.name = name := by
  rw [key]
  cases spot.node.isDecl <;> cases spot.record? <;> simp

theorem key_eq_record_iff :
    spot.key = .record name ↔ spot.node.isDecl = false ∧ spot.name = name := by
  rw [key]
  cases spot.node.isDecl <;> cases spot.record? <;> simp

end Keys

section Fields

variable {spot record : Spot} {earlier met : List Spot}

theorem fieldOf?_eq_some_iff {address : List Nat} {field : String × Ty} :
    spot.fieldOf? address = some field ↔
      (spot.node.isDecl = true ∧ ∃ record, spot.record? = some record ∧
        record.address = address) ∧ (spot.name, spot.type) = field := by
  simp only [fieldOf?, Option.map_eq_some_iff, Option.ite_none_right_eq_some, Option.some.injEq]

theorem fieldOf?_of_not_below {address : List Nat} (apart : ¬ address <:+ spot.address) :
    spot.fieldOf? address = none := by
  rw [Option.eq_none_iff_forall_ne_some]
  intro field found
  obtain ⟨⟨_, record, around, same⟩, _⟩ := fieldOf?_eq_some_iff.mp found
  obtain ⟨place, within⟩ := address_of_recordAbove around
  apply apart
  rw [← same]
  exact (List.suffix_cons _ _).trans within

theorem fieldOf?_of_nested {outer inner : Spot} (defines : record.node.isRecord = true)
    (around : record.record? = some outer) {place : Nat}
    (below : (place, record.node) :: record.above <:+ inner.above) :
    inner.fieldOf? outer.address = none := by
  obtain ⟨nearest, nearestAround, deeper⟩ := recordAbove_of_suffix defines below
  obtain ⟨taken, strict⟩ := address_of_recordAbove around
  rw [Option.eq_none_iff_forall_ne_some]
  intro field found
  obtain ⟨⟨_, same, sameAround, equal⟩, _⟩ := fieldOf?_eq_some_iff.mp found
  rw [record?, nearestAround] at sameAround
  cases sameAround
  have longer := (strict.trans deeper).length_le
  rw [equal, List.length_cons] at longer
  omega

theorem contains_fieldsAmong {name : String} :
    (fieldsAmong earlier record).contains name = true ↔
      Key.field record.address name ∈ earlier.map key := by
  simp only [fieldsAmong, OrderedMap.contains_ofFirsts, List.mem_map, List.mem_filterMap,
    key_eq_field_iff]
  constructor
  · rintro ⟨field, ⟨spot, member, found⟩, rfl⟩
    obtain ⟨within, rfl⟩ := fieldOf?_eq_some_iff.mp found
    exact ⟨spot, member, within, rfl⟩
  · rintro ⟨spot, member, within, rfl⟩
    exact ⟨_, ⟨spot, member, fieldOf?_eq_some_iff.mpr ⟨within, rfl⟩⟩, rfl⟩

theorem fieldsAmong_concat (declares : spot.node.isDecl = true)
    (around : spot.record? = some record) :
    fieldsAmong (earlier ++ [spot]) record =
      (fieldsAmong earlier record).insertNew spot.name spot.type := by
  have found : spot.fieldOf? record.address = some (spot.name, spot.type) :=
    fieldOf?_eq_some_iff.mpr ⟨⟨declares, record, around, rfl⟩, rfl⟩
  rw [fieldsAmong, fieldsAmong, ← OrderedMap.ofFirsts_concat, List.filterMap_append]
  simp [found]

theorem fieldsAmong_append_of_none
    (others : ∀ spot ∈ met, spot.fieldOf? record.address = none) :
    fieldsAmong (earlier ++ met) record = fieldsAmong earlier record := by
  rw [fieldsAmong, List.filterMap_append, List.filterMap_eq_nil_iff.mpr others, List.append_nil,
    fieldsAmong]

theorem fieldsAmong_of_apart
    (apart : ∀ other ∈ earlier, ¬ record.address <:+ other.address) :
    fieldsAmong earlier record = .empty := by
  rw [fieldsAmong, List.filterMap_eq_nil_iff.mpr fun other member =>
    fieldOf?_of_not_below (apart other member)]
  exact OrderedMap.eq_of_entries rfl

end Fields

end Spot

end SwarmCheck
