import SwarmCheck.Proofs.Trees

/-!
# Pre-order

Where a node stands in a tree is said by its address, the way to it from the root. A node that
occurs at several places has several addresses, and each address leads to one node. In lexicographic
order an address comes before those of everything below it and of everything to its right, so this
order of addresses is the pre-order of the tree. The list of nodes that every pass walks through
takes the addresses of a tree in this order, leaves none out and repeats none.
-/

namespace SwarmCheck

set_option autoImplicit false

namespace Node

/-- The node at an address: which child to take at the root, which one below that, and so on. -/
def at? : Node → List Nat → Option Node
  | node, [] => some node
  | node, place :: rest => node.children[place]?.bind fun child => child.at? rest

/-- The order of addresses in which a node comes before its children and a child before the next. -/
def Earlier (address other : List Nat) : Prop := List.Lex (· < ·) address other

/-- What is shown at the nodes of a tree, collected in pre-order: once for every address at which
something is shown, and in the order of the addresses. -/
def Collects {α : Type} (whole : Node) (shows : List Nat → Node → α → Prop)
    (collected : List α) : Prop :=
  ∃ sites : List (List Nat × α),
    (sites.Pairwise fun site later => Earlier site.1 later.1) ∧
    (∀ address value, (address, value) ∈ sites ↔
      ∃ node, whole.at? address = some node ∧ shows address node value) ∧
    sites.map (·.2) = collected

section Located

def lift {α : Type} (place : Nat) (site : List Nat × α) : List Nat × α :=
  (place :: site.1, site.2)

def located (node : Node) : List (List Nat × Node) :=
  ([], node) ::
    node.children.attach.zipIdx.flatMap fun child => child.1.1.located.map (lift child.2)
termination_by node.preorder.length
decreasing_by exact length_preorder_lt child.1.2

theorem located_eq_cons (node : Node) :
    node.located =
      ([], node) ::
        node.children.zipIdx.flatMap fun child => child.1.located.map (lift child.2) := by
  have unattached : node.children.zipIdx =
      node.children.attach.zipIdx.map (Prod.map Subtype.val id) := by
    rw [← List.zipIdx_map, List.attach_map_subtype_val]
  rw [located, unattached, List.flatMap_map]
  rfl

/-- The walk through a tree passes its addresses. -/
theorem map_located {node : Node} (present : node.isBlank = false) :
    node.located.map (·.2) = node.preorder := by
  induction node using children_induction with
  | step node ih =>
      have below (child : Node × Nat) (member : child ∈ node.children.zipIdx) :
          (child.1.located.map (lift child.2)).map (·.2) = child.1.preorder := by
        have among := List.fst_mem_of_mem_zipIdx member
        have filled : child.1.isBlank = false := by
          simpa using (List.mem_filter.mp among).2
        rw [List.map_map]
        exact ih child.1 among filled
      rw [located_eq_cons, preorder_eq_cons node present, List.map_cons, List.map_flatMap,
        List.flatMap_def, List.map_congr_left below, ← List.flatMap_def,
        ← List.flatMap_map Prod.fst, List.zipIdx_map_fst]

theorem mem_located {node inner : Node} {address : List Nat} :
    (address, inner) ∈ node.located ↔ node.at? address = some inner := by
  induction address generalizing node with
  | nil =>
      rw [located_eq_cons]
      simp [at?, lift, eq_comm]
  | cons place rest ih =>
      rw [located_eq_cons, at?, Option.bind_eq_some_iff]
      simp [lift, ← ih, List.mem_zipIdx_iff_getElem?]

theorem located_ordered (node : Node) :
    node.located.Pairwise fun site later => Earlier site.1 later.1 := by
  induction node using children_induction with
  | step node ih =>
      rw [located_eq_cons, List.pairwise_cons, List.pairwise_flatMap]
      refine ⟨?_, ?_, ?_⟩
      · intro site member
        obtain ⟨child, _, reached⟩ := List.mem_flatMap.mp member
        obtain ⟨inner, _, rfl⟩ := List.mem_map.mp reached
        exact .nil
      · intro child member
        apply List.Pairwise.map _ _ (ih child.1 (List.fst_mem_of_mem_zipIdx member))
        intro site later earlier
        exact .cons earlier
      · have places : (node.children.zipIdx.map Prod.snd).Pairwise (· < ·) := by
          rw [List.zipIdx_map_snd]
          exact List.pairwise_lt_range'
        apply (List.pairwise_map.mp places).imp
        intro child next before site reached later reachedLater
        obtain ⟨inner, _, rfl⟩ := List.mem_map.mp reached
        obtain ⟨other, _, rfl⟩ := List.mem_map.mp reachedLater
        exact .rel before

end Located

theorem Earlier.asymm {address other : List Nat} (earlier : Earlier address other) :
    ¬ Earlier other address :=
  List.lex_asymm (fun before => Nat.lt_asymm before) earlier

theorem Earlier.irrefl (address : List Nat) : ¬ Earlier address address :=
  List.lex_irrefl Nat.lt_irrefl address

section Collecting

theorem Collects.eq_nil_iff {α : Type} {whole : Node} {shows : List Nat → Node → α → Prop}
    {collected : List α} (collects : whole.Collects shows collected) :
    collected = [] ↔
      ∀ address node value, whole.at? address = some node → ¬ shows address node value := by
  obtain ⟨sites, _, complete, rfl⟩ := collects
  rw [List.map_eq_nil_iff, List.eq_nil_iff_forall_not_mem]
  constructor
  · intro empty address node value reached shown
    exact empty (address, value) ((complete address value).mpr ⟨node, reached, shown⟩)
  · intro silent site member
    obtain ⟨node, reached, shown⟩ := (complete site.1 site.2).mp member
    exact silent site.1 node site.2 reached shown

/-- The nodes of a part of a tree, in pre-order with their addresses. -/
structure Covers (whole : Node) (within : List Nat → Prop) (sites : List (List Nat × Node)) :
    Prop where
  ordered : sites.Pairwise fun site later => Earlier site.1 later.1
  complete : ∀ address node,
    (address, node) ∈ sites ↔ whole.at? address = some node ∧ within address

variable {whole : Node}

theorem covers_located (whole : Node) : whole.Covers (fun _ => True) whole.located where
  ordered := whole.located_ordered
  complete _ _ := by rw [mem_located, and_true]

theorem covers_front {front back : List (List Nat × Node)} {site : List Nat × Node}
    (split : whole.located = front ++ site :: back) :
    whole.Covers (Earlier · site.1) front := by
  have ordered := whole.located_ordered
  rw [split, List.pairwise_append, List.pairwise_cons] at ordered
  obtain ⟨inFront, ⟨behind, _⟩, across⟩ := ordered
  refine ⟨inFront, ?_⟩
  intro address node
  rw [← mem_located, split, List.mem_append, List.mem_cons]
  constructor
  · intro member
    exact ⟨.inl member, across _ member site List.mem_cons_self⟩
  · rintro ⟨member | rfl | later, earlier⟩
    · exact member
    · exact absurd earlier (Earlier.irrefl _)
    · exact absurd earlier (behind _ later).asymm

theorem Covers.collects {α : Type} {within : List Nat → Prop} {sites : List (List Nat × Node)}
    (covers : whole.Covers within sites) {view : Node → Option α} {shows : Node → α → Prop}
    (each : ∀ node value, view node = some value ↔ shows node value) :
    whole.Collects (fun address node value => within address ∧ shows node value)
      ((sites.map (·.2)).filterMap view) := by
  refine ⟨sites.filterMap fun site => (view site.2).map (Prod.mk site.1), ?_, ?_, ?_⟩
  · apply covers.ordered.filterMap
    intro site later earlier shown found shown' found'
    obtain ⟨value, _, rfl⟩ := Option.map_eq_some_iff.mp found
    obtain ⟨value', _, rfl⟩ := Option.map_eq_some_iff.mp found'
    exact earlier
  · intro address value
    rw [List.mem_filterMap]
    constructor
    · rintro ⟨⟨place, node⟩, member, found⟩
      obtain ⟨seen, viewed, same⟩ := Option.map_eq_some_iff.mp found
      cases same
      obtain ⟨reached, inside⟩ := (covers.complete _ _).mp member
      exact ⟨node, reached, inside, (each node value).mp viewed⟩
    · rintro ⟨node, reached, inside, shown⟩
      refine ⟨(address, node), (covers.complete _ _).mpr ⟨reached, inside⟩, ?_⟩
      rw [(each node value).mpr shown, Option.map_some]
  · rw [List.map_filterMap, List.filterMap_map]
    congr 1
    funext site
    rw [Option.map_map]
    exact Option.map_id'

theorem collects_preorder (present : whole.isBlank = false) {α : Type} {view : Node → Option α}
    {shows : Node → α → Prop} (each : ∀ node value, view node = some value ↔ shows node value) :
    whole.Collects (fun _ => shows) (whole.preorder.filterMap view) := by
  have collected := whole.covers_located.collects each
  rw [map_located present] at collected
  simpa only [true_and] using collected

end Collecting

end Node

end SwarmCheck
