import Mathlib.Data.List.TakeWhile
import SwarmCheck.Proofs.Spots

/-!
# Where the walk over declarations can stop

The walk skips what is no node in most places, but not among the groups of a module, the
declarations of a group and the fields of a record: there it takes up every entry, and one that is
no node is a fault. The stations of a walk are those entries together with everything that it meets.
It passes them one after another until it comes to one with a fault. If there is none, it has met
all that can be reached.
-/

namespace SwarmCheck

set_option autoImplicit false

/-- What the walk over declarations takes up below a node. -/
def Node.visited : Node → List Node
  | moduleBlock _ groups _ => groups
  | group _ decls _ => decls
  | record _ fields _ => fields
  | node => node.children

theorem Node.filter_visited (node : Node) : node.visited.filter (!·.isBlank) = node.children := by
  cases node <;> simp [visited, children, places]

namespace Spot

/-- The spots of some entries below a node, given the place of the first. What is no node takes no
place among the children. -/
def entriesFrom (spot : Spot) : Nat → List Node → List Spot
  | _, [] => []
  | place, node :: rest =>
      ⟨node, (place, spot.node) :: spot.above⟩ ::
        spot.entriesFrom (if node.isBlank then place else place + 1) rest

def entries (spot : Spot) : List Spot := spot.entriesFrom 0 spot.node.visited

section Entries

variable {spot entry : Spot}

theorem filter_entriesFrom (place : Nat) (nodes : List Node) :
    (spot.entriesFrom place nodes).filter (!·.node.isBlank) =
      spot.childrenFrom place (nodes.filter (!·.isBlank)) := by
  induction nodes generalizing place with
  | nil => rfl
  | cons node rest ih =>
      rw [entriesFrom]
      cases blank : node.isBlank with
      | true => simp [blank, ih]
      | false => simp [blank, ih, childrenFrom_cons]

theorem filter_entries (spot : Spot) :
    spot.entries.filter (!·.node.isBlank) = spot.children := by
  rw [entries, filter_entriesFrom, Node.filter_visited, children]

theorem mem_children_of_entry (below : entry ∈ spot.entries)
    (present : entry.node.isBlank = false) : entry ∈ spot.children := by
  rw [← filter_entries]
  exact List.mem_filter.mpr ⟨below, by rw [present]; rfl⟩

theorem address_of_mem_entriesFrom {place : Nat} {nodes : List Node}
    (below : entry ∈ spot.entriesFrom place nodes) :
    ∃ taken, place ≤ taken ∧ entry.address = taken :: spot.address := by
  induction nodes generalizing place with
  | nil => cases below
  | cons node rest ih =>
      rcases List.mem_cons.mp below with same | later
      · exact ⟨place, Nat.le_refl place, by rw [same]; rfl⟩
      · obtain ⟨taken, bounded, same⟩ := ih later
        refine ⟨taken, Nat.le_trans ?_ bounded, same⟩
        split <;> omega

end Entries

/-- The stations of a walk at and below a spot, in the order in which it comes to them. -/
def stations (spot : Spot) : List Spot :=
  if spot.node.isDecl then [spot]
  else
    (spot.entries.attach.flatMap fun entry =>
      if _ : entry.1.node.isBlank then [entry.1] else entry.1.stations) ++
      if spot.node.isRecord then [spot] else []
termination_by spot.node.preorder.length
decreasing_by
  rename_i present
  exact Node.length_preorder_lt
    (node_mem_children (mem_children_of_entry entry.2 (Bool.eq_false_iff.mpr present)))

def entryStations (entry : Spot) : List Spot :=
  if entry.node.isBlank then [entry] else entry.stations

section Stations

variable {spot : Spot}

theorem stations_of_decl (declares : spot.node.isDecl = true) : spot.stations = [spot] := by
  rw [stations, if_pos declares]

theorem stations_of_not_decl (other : spot.node.isDecl = false) :
    spot.stations =
      spot.entries.flatMap entryStations ++ if spot.node.isRecord then [spot] else [] := by
  rw [stations, if_neg (Bool.eq_false_iff.mp other),
    List.flatMap_subtype (g := entryStations) fun _ _ => dite_eq_ite, List.unattach_attach]

theorem filter_flatMap_entryStations {entries : List Spot}
    (each : ∀ entry ∈ entries, entry.node.isBlank = false →
      entry.stations.filter (!·.node.isBlank) = entry.reached) :
    (entries.flatMap entryStations).filter (!·.node.isBlank) =
      (entries.filter (!·.node.isBlank)).flatMap reached := by
  induction entries with
  | nil => rfl
  | cons entry rest ih =>
      rw [List.forall_mem_cons] at each
      rw [List.flatMap_cons, List.filter_append, ih each.2, entryStations]
      cases blank : entry.node.isBlank with
      | true => simp [blank]
      | false => simp [blank, each.1 blank]

theorem filter_stations (present : spot.node.isBlank = false) :
    spot.stations.filter (!·.node.isBlank) = spot.reached := by
  induction spot using spot_induction with
  | step spot ih =>
      cases declares : spot.node.isDecl with
      | true => simp [stations_of_decl declares, reached_of_decl declares, present]
      | false =>
          have below := filter_flatMap_entryStations fun entry member there =>
            ih entry (mem_children_of_entry member there) there
          rw [stations_of_not_decl declares, reached_of_not_decl declares, List.filter_append,
            below, filter_entries]
          congr 1
          split <;> simp [present]

theorem filter_entries_stations (spot : Spot) :
    (spot.entries.flatMap entryStations).filter (!·.node.isBlank) =
      spot.children.flatMap reached := by
  rw [filter_flatMap_entryStations fun _ _ there => filter_stations there, filter_entries]

theorem stations_eq_reached (present : spot.node.isBlank = false)
    (each : ∀ station ∈ spot.stations, station.node.isBlank = false) :
    spot.stations = spot.reached := by
  rw [← filter_stations present, List.filter_eq_self.mpr]
  intro station member
  rw [each station member]
  rfl

end Stations

/-- Why the walk cannot go on at a station: a declaration names no type or, as a variable, belongs
to no group, or the entry is no node. -/
def fault? (spot : Spot) : Option Fault :=
  match spot.node with
  | .decl name typeName isRecord dims _ _ =>
      match declaredType typeName isRecord dims with
      | .error fault => some fault
      | .ok _ =>
          if spot.record?.isNone && spot.scope?.isNone then some (.outsideGroup name) else none
  | node => if node.isBlank then some .emptyPlace else none

/-- The stations that a walk from a spot leaves behind. -/
def passed (spot : Spot) : List Spot := spot.stations.takeWhile (·.fault?.isNone)

section Passed

variable {spot : Spot}

theorem fault?_of_blank (blank : spot.node.isBlank = true) : spot.fault? = some .emptyPlace := by
  rw [fault?]
  split
  · rename_i here
    rw [here] at blank
    cases blank
  · rw [if_pos blank]

theorem fault?_of_not_decl (other : spot.node.isDecl = false)
    (present : spot.node.isBlank = false) : spot.fault? = none := by
  rw [fault?]
  split
  · rename_i here
    rw [here] at other
    cases other
  · rw [present, if_neg Bool.false_ne_true]

theorem present_of_no_fault (free : spot.fault? = none) : spot.node.isBlank = false := by
  cases blank : spot.node.isBlank with
  | false => rfl
  | true =>
      rw [fault?_of_blank blank] at free
      cases free

theorem no_fault_of_passed : ∀ station ∈ spot.passed, station.fault? = none := by
  intro station member
  rw [passed] at member
  have stays := List.mem_takeWhile_imp member
  exact Option.isNone_iff_eq_none.mp stays

theorem passed_of_split {met rest : List Spot} {station : Spot} {fault : Fault}
    (split : spot.stations = met ++ station :: rest) (free : ∀ other ∈ met, other.fault? = none)
    (faulty : station.fault? = some fault) : spot.passed = met := by
  have stays : ∀ other ∈ met, other.fault?.isNone = true := by
    intro other member
    rw [free other member]
    rfl
  rw [passed, split, List.takeWhile_append_of_pos stays, List.takeWhile_cons_of_neg,
    List.append_nil]
  rw [faulty]
  exact Bool.false_ne_true

theorem passed_of_free (free : ∀ station ∈ spot.stations, station.fault? = none) :
    spot.passed = spot.stations := by
  rw [passed, List.takeWhile_eq_self_iff]
  intro station member
  rw [free station member]
  rfl

/-- What is passed is met in the same order by a walk that is not stopped. -/
theorem passed_begins_reached (present : spot.node.isBlank = false) :
    spot.passed <+: spot.reached := by
  have nodes : spot.passed.filter (!·.node.isBlank) = spot.passed := by
    rw [List.filter_eq_self]
    intro station member
    rw [present_of_no_fault (no_fault_of_passed station member)]
    rfl
  rw [← filter_stations present, ← nodes]
  exact (List.takeWhile_prefix _).filter _

end Passed

end Spot

end SwarmCheck
