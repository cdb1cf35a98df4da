import SwarmCheck.Proofs.RuleResults

/-!
# Invariants of reading

A tree can ask things of its reader that no rule of the grammar does, and the reader then offers
something odd, or bundles what has been read. None of this gets in the way of what rules make. The
plain tokens that a rule sees are those of its own children. And a property that rules establish,
and that whatever else the reader offers has as well, holds of everything that occurs in what is
read.
-/

namespace SwarmCheck

set_option autoImplicit false

/-- What reading each of some trees keeps true of the reader, and what it then establishes of the
item, reading all of them does. -/
theorem Reader.readAll_keeps {invariant : Reader → Prop} {result : Item → Prop}
    {trees : List ParseTree}
    (each : ∀ tree ∈ trees, ∀ {reader item after}, invariant reader →
      reader.read tree = .ok (item, after) → result item ∧ invariant after)
    {reader after : Reader} {items : List Item} (start : invariant reader)
    (read : reader.readAll trees = .ok (items, after)) :
    (∀ item ∈ items, result item) ∧ invariant after := by
  induction trees generalizing reader items with
  | nil =>
      cases read
      exact ⟨fun _ member => (by cases member), start⟩
  | cons tree rest ih =>
      obtain ⟨item, middle, later, treeRead, restRead, rfl⟩ := readAll_cons_eq_ok_iff.mp read
      obtain ⟨first, kept⟩ := each tree (by simp) start treeRead
      obtain ⟨others, final⟩ := ih (fun other member => each other (by simp [member])) kept restRead
      exact ⟨List.forall_mem_cons.mpr ⟨first, others⟩, final⟩

/-- An item that a reader has to offer of its own. -/
structure Item.Odd (item : Item) : Prop where
  untaken : item.token? = none
  held : ∀ node ∈ item.held, node.isOdd = true

theorem Item.odd_node {node : Node} (odd : node.isOdd = true) : (Item.node node).Odd :=
  ⟨rfl, fun _ member => List.mem_singleton.mp member ▸ odd⟩

def Sight.isOdd : Sight → Bool
  | always found => found.isOdd
  | switch | settings => true

theorem Reserved.always_odd {name : String} {reserved : Reserved} {found : Node}
    (named : ofName? name = some reserved) (always : reserved.sight = .always found) :
    found.isOdd = true := by
  have odd : (Reserved.all.all (·.sight.isOdd)) = true := by decide
  have mine := List.all_eq_true.mp odd reserved (List.mem_of_find?_eq_some named)
  rw [always] at mine
  exact mine

def Token.inspects (found : Token) : Bool :=
  (Reserved.ofName? found.kind).any (·.request = .inspect)

namespace Reader

variable {reader after : Reader} {item : Item}

/-- A reserved name is answered with something odd or with a bundle of the items; the items may
also become the setting of the switch. -/
theorem answerRule_cases {name : String} {items : List Item} {request : Request}
    (answered : reader.answerRule name items request = .ok (item, after)) :
    item.Odd ∧ (after.switch = reader.switch ∨
        ∃ serial, after.switch = some (.bundle serial (items.map Item.part))) ∨
      request = .bundle ∧ after.switch = reader.switch ∧
        ∃ serial, item = .node (.bundle serial (items.map Item.part)) := by
  cases request with
  | switch =>
      cases answered
      exact .inl ⟨Item.odd_node rfl, .inr ⟨_, rfl⟩⟩
  | bar | answer =>
      cases answered
      exact .inl ⟨Item.odd_node rfl, .inl rfl⟩
  | bundle =>
      cases answered
      exact .inr ⟨rfl, rfl, _, rfl⟩
  | refused | clear | inspect | describe => cases answered

theorem switchItem_cases (reader : Reader) :
    reader.switchItem.Odd ∨
      (∃ found, reader.switch = some (.token found) ∧ reader.switchItem = .token found) ∨
      ∃ serial parts, reader.switch = some (.bundle serial parts) ∧
        reader.switchItem = .node (.bundle serial parts) := by
  rw [switchItem]
  cases reader.switch with
  | none => exact .inl (Item.odd_node rfl)
  | some setting =>
      cases setting with
      | initial => exact .inl (Item.odd_node rfl)
      | token found => exact .inr (.inl ⟨found, rfl, rfl⟩)
      | bundle serial parts => exact .inr (.inr ⟨serial, parts, rfl, rfl⟩)

theorem look_cases {name : String} {reserved : Reserved}
    (named : Reserved.ofName? name = some reserved) :
    (reader.look reserved.sight).Odd ∨ reader.look reserved.sight = reader.switchItem := by
  cases sight : reserved.sight with
  | always found => exact .inl (Item.odd_node (Reserved.always_odd named sight))
  | switch => exact .inr rfl
  | settings => exact .inl (Item.odd_node rfl)

theorem inspect?_cases {name : String} (seen : reader.inspect? name = some item) :
    item.Odd ∨ item = reader.switchItem := by
  rw [inspect?] at seen
  cases known : Rule.ofName? name with
  | some rule =>
      rw [known] at seen
      cases seen
      rw [lookAtRule]
      split
      · exact .inl (Item.odd_node rfl)
      · exact .inl (Item.odd_node rfl)
  | none =>
      rw [known] at seen
      cases named : Reserved.ofName? name with
      | none =>
          rw [named] at seen
          cases seen
      | some reserved =>
          rw [named] at seen
          cases seen
          exact look_cases named

theorem clear?_switch {name : String} (cleared : reader.clear? name = some after) :
    after.switch = none := by
  rw [clear?] at cleared
  split at cleared
  · cases cleared
    rfl
  · split at cleared
    · cases cleared
      rfl
    · cases cleared

theorem readToken_odd {rule : Rule} {found : Token} (read : rule.readToken found = .ok item) :
    item.Odd := by
  have strays (node : Node) (member : node ∈ found.strays) : node.isOdd = true := by
    obtain ⟨character, _, rfl⟩ := List.mem_map.mp member
    rfl
  cases rule with
  | dimension =>
      cases read
      exact ⟨rfl, fun _ member => by cases member⟩
  | elseBlock =>
      cases read
      exact ⟨rfl, strays⟩
  | statement =>
      obtain ⟨node, made, same⟩ := Item.map_node_eq_ok_iff.mp read
      rw [Lowering.readStatement, Item.nodes_map_node] at made
      split at made
      · rename_i only
        cases made
        rw [same]
        exact Item.odd_node (strays node (only ▸ List.mem_singleton_self node))
      · cases made
  | _ => cases read

/-- What a token is read as. A plain one stands for itself; another may stand for something odd, and
change the switch, or for the switch as it is set. -/
theorem readToken_cases {found : Token} (read : reader.readToken found = .ok (item, after)) :
    item = .token found ∧ after = reader ∨
      ¬ PlainKind found.kind ∧
        (item.Odd ∧ (after.switch = reader.switch ∨ after.switch = none ∨
            after.switch = some (.token found)) ∨
          found.inspects = true ∧ item = reader.switchItem ∧ after = reader) := by
  rw [readToken] at read
  split at read
  · cases read
    exact .inl ⟨rfl, rfl⟩
  cases known : Rule.ofName? found.kind with
  | some rule =>
      have unplain : ¬ PlainKind found.kind := fun plain => by
        rw [plain.1] at known
        cases known
      rw [known] at read
      dsimp only at read
      cases made : rule.readToken found with
      | error fault =>
          rw [made] at read
          cases read
      | ok item =>
          rw [made] at read
          cases read
          exact .inr ⟨unplain, .inl ⟨readToken_odd made, .inl rfl⟩⟩
  | none =>
      rw [known] at read
      dsimp only at read
      cases named : Reserved.ofName? found.kind with
      | none =>
          rw [named] at read
          cases read
          exact .inl ⟨rfl, rfl⟩
      | some reserved =>
          have unplain : ¬ PlainKind found.kind := fun plain => by
            rw [plain.2] at named
            cases named
          rw [named] at read
          dsimp only at read
          cases asked : reserved.request with
          | switch =>
              rw [asked] at read
              cases read
              exact .inr ⟨unplain, .inl ⟨Item.odd_node rfl, .inr (.inr rfl)⟩⟩
          | clear =>
              rw [asked, answerToken] at read
              split at read
              · rename_i cleared
                cases read
                exact .inr ⟨unplain, .inl ⟨Item.odd_node rfl, .inr (.inl (clear?_switch cleared))⟩⟩
              · cases read
          | inspect =>
              rw [asked, answerToken] at read
              split at read
              · rename_i seen
                cases read
                rcases inspect?_cases seen with odd | switch
                · exact .inr ⟨unplain, .inl ⟨odd, .inl rfl⟩⟩
                · exact .inr ⟨unplain, .inr ⟨by simp [Token.inspects, named, asked], switch, rfl⟩⟩
              · cases read
          | describe =>
              rw [asked, answerToken] at read
              split at read
              · cases read
                exact .inr ⟨unplain, .inl ⟨Item.odd_node rfl, .inl rfl⟩⟩
              · cases read
          | bundle =>
              rw [asked, answerToken] at read
              split at read
              · cases read
                exact .inl ⟨rfl, rfl⟩
              · cases read
          | refused =>
              rw [asked] at read
              cases read
          | bar | answer =>
              rw [asked] at read
              cases read
              exact .inr ⟨unplain, .inl ⟨Item.odd_node rfl, .inl rfl⟩⟩

/-- No token that stands for itself has become the setting of the switch. -/
def Sound (reader : Reader) : Prop :=
  ∀ found, reader.switch = some (.token found) → ¬ PlainKind found.kind

theorem sound_fresh : ({} : Reader).Sound := by
  intro found set
  cases set

theorem Sound.of_switch (sound : reader.Sound) (same : after.switch = reader.switch) :
    after.Sound := fun found set => sound found (same.symm.trans set)

theorem Sound.readToken (sound : reader.Sound) {found : Token}
    (read : reader.readToken found = .ok (item, after)) :
    after.Sound ∧ ∀ other, item = .token other → PlainKind other.kind → other = found := by
  rcases readToken_cases read with
    ⟨rfl, rfl⟩ | ⟨unplain, ⟨odd, same | cleared | set⟩ | ⟨_, rfl, rfl⟩⟩
  · exact ⟨sound, fun other same _ => (Item.token.inj same).symm⟩
  · exact ⟨sound.of_switch same, fun other taken => by rw [taken] at odd; cases odd.untaken⟩
  · refine ⟨fun other set => ?_, fun other taken => by rw [taken] at odd; cases odd.untaken⟩
    rw [cleared] at set
    cases set
  · refine ⟨fun other setToo => ?_, fun other taken => by rw [taken] at odd; cases odd.untaken⟩
    rw [set] at setToo
    cases setToo
    exact unplain
  · refine ⟨sound, fun other taken plain => ?_⟩
    rcases after.switchItem_cases with odd | ⟨found, set, shown⟩ | ⟨serial, parts, _, shown⟩
    · rw [taken] at odd
      cases odd.untaken
    · rw [taken] at shown
      cases shown
      exact absurd plain (sound other set)
    · rw [taken] at shown
      cases shown

theorem Sound.readRule (sound : reader.Sound) {name : String} {mark : Mark} {items : List Item}
    (read : reader.readRule name mark items = .ok (item, after)) :
    after.Sound ∧ item.token? = none := by
  rcases readRule_eq_ok_iff.mp read with
    ⟨rule, _, _, made, rfl⟩ | ⟨_, reserved, _, answered⟩
  · exact ⟨sound, (Rule.gives_of_read made).1⟩
  · rcases answerRule_cases answered with ⟨odd, same | ⟨serial, set⟩⟩ | ⟨_, same, serial, rfl⟩
    · exact ⟨sound.of_switch same, odd.untaken⟩
    · refine ⟨fun found setToo => ?_, odd.untaken⟩
      rw [set] at setToo
      cases setToo
    · exact ⟨sound.of_switch same, rfl⟩

/-- Reading keeps a reader sound, and only a plain token itself is read as that token. -/
theorem Sound.read {tree : ParseTree} (sound : reader.Sound)
    (read : reader.read tree = .ok (item, after)) :
    after.Sound ∧ ∀ found, item = .token found → PlainKind found.kind → tree = .token found := by
  induction tree generalizing reader item after with
  | token found =>
      obtain ⟨later, only⟩ := sound.readToken read
      exact ⟨later, fun other taken plain => by rw [only other taken plain]⟩
  | placeholder =>
      cases read
      exact ⟨sound, fun _ taken => by cases taken⟩
  | rule name children mark ih =>
      obtain ⟨items, middle, childrenRead, made⟩ := read_rule_eq_ok_iff.mp read
      have middleSound : middle.Sound :=
        (readAll_keeps (fun child member _ _ _ sound read =>
          ⟨trivial, (ih child member sound read).1⟩) sound childrenRead).2
      obtain ⟨later, untaken⟩ := middleSound.readRule made
      exact ⟨later, fun found taken => by rw [taken] at untaken; cases untaken⟩

theorem Sound.readAll {trees : List ParseTree} {items : List Item} (sound : reader.Sound)
    (read : reader.readAll trees = .ok (items, after)) :
    after.Sound ∧ ∀ keep : Token → Bool, (∀ found, keep found = true → PlainKind found.kind) →
      (Item.tokens items).filter keep = (ParseTree.tokensAmong trees).filter keep := by
  induction trees generalizing reader items with
  | nil =>
      cases read
      exact ⟨sound, fun _ _ => rfl⟩
  | cons tree rest ih =>
      obtain ⟨item, middle, later, treeRead, restRead, rfl⟩ := readAll_cons_eq_ok_iff.mp read
      obtain ⟨middleSound, only⟩ := sound.read treeRead
      obtain ⟨afterSound, same⟩ := ih middleSound restRead
      refine ⟨afterSound, fun keep plain => ?_⟩
      have first : (Item.tokens [item]).filter keep =
          (ParseTree.tokensAmong [tree]).filter keep := by
        by_cases kept : ∃ found, tree = .token found ∧ keep found = true
        · obtain ⟨found, rfl, wanted⟩ := kept
          rw [read_plain_token (plain found wanted) found.text] at treeRead
          cases treeRead
          rfl
        · have neither : (Item.tokens [item]).filter keep = [] := by
            rw [List.filter_eq_nil_iff]
            intro found member wanted
            cases item with
            | token other =>
                cases List.mem_singleton.mp member
                exact kept ⟨found, only found rfl (plain found wanted), wanted⟩
            | _ => cases member
          have nor : (ParseTree.tokensAmong [tree]).filter keep = [] := by
            rw [List.filter_eq_nil_iff]
            intro found member wanted
            have same := List.mem_singleton.mp (ParseTree.mem_tokensAmong.mp member)
            exact kept ⟨found, same.symm, wanted⟩
          rw [neither, nor]
      have left : Item.tokens (item :: later) = Item.tokens [item] ++ Item.tokens later :=
        Item.tokens_append [item] later
      have right : ParseTree.tokensAmong (tree :: rest) =
          ParseTree.tokensAmong [tree] ++ ParseTree.tokensAmong rest :=
        ParseTree.tokensAmong_append [tree] rest
      rw [left, right, List.filter_append, List.filter_append, first, same keep plain]

theorem Sound.firstToken? {trees : List ParseTree} {items : List Item} (sound : reader.Sound)
    (read : reader.readAll trees = .ok (items, after)) {kinds : List String}
    (plain : ∀ kind ∈ kinds, PlainKind kind) :
    Item.firstToken? kinds items =
      (ParseTree.tokensAmong trees).find? (kinds.contains ·.kind) := by
  have same := (sound.readAll read).2 (kinds.contains ·.kind)
    fun found listed => plain found.kind (List.contains_iff_mem.mp listed)
  rw [Item.firstToken?, ← List.head?_filter, ← List.head?_filter, same]

end Reader

/-- Whether a tree makes a bundle of its children, or brings in what the switch is set to. -/
def ParseTree.bundles : ParseTree → Bool
  | .token found => found.inspects
  | .placeholder => false
  | .rule name _ _ => (Reserved.ofName? name).any (·.request = .bundle)

def ParseTree.Unbundled (tree : ParseTree) : Prop :=
  ∀ subtree ∈ tree.subtrees, subtree.bundles = false

instance (tree : ParseTree) : Decidable tree.Unbundled :=
  inferInstanceAs (Decidable (∀ subtree ∈ tree.subtrees, subtree.bundles = false))

/-- What it takes for a property to hold of everything that is read from a tree. -/
structure Kept (whole : ParseTree) (property : Node → Prop) : Prop where
  odd : ∀ node : Node, node.isOdd = true → property node
  parenthesised : ∀ node : Node, property node → property node.parenthesise
  made : ∀ {name : String} {children : List ParseTree} {mark : Mark} {rule : Rule}
    {before after : Reader} {items : List Item} {node : Node},
    .rule name children mark ∈ whole.subtrees → Rule.ofName? name = some rule → before.Sound →
    before.readAll children = .ok (items, after) → node.Made rule items → property node
  bundled : whole.Unbundled ∨ ∀ node : Node, node.isBlank = true → property node

section Keeping

variable {property : Node → Prop} {reader after : Reader} {item : Item}

/-- A bundle that has become the setting of the switch holds nothing but what has a property, if
all that is blank has it. -/
def Reader.Holds (property : Node → Prop) (reader : Reader) : Prop :=
  (∀ node : Node, node.isBlank = true → property node) → ∀ serial parts,
    reader.switch = some (.bundle serial parts) → ∀ part ∈ parts, part.Everywhere property

theorem Reader.holds_fresh : ({} : Reader).Holds property := by
  intro _ serial parts set
  cases set

theorem Reader.Holds.of_switch (holds : reader.Holds property)
    (same : after.switch = reader.switch) : after.Holds property :=
  fun blank serial parts set => holds blank serial parts (same.symm.trans set)

theorem Reader.holds_of_none (none : reader.switch = none) : reader.Holds property := by
  intro _ serial parts set
  rw [none] at set
  cases set

theorem Reader.holds_of_token {found : Token} (token : reader.switch = some (.token found)) :
    reader.Holds property := by
  intro _ serial parts set
  rw [token] at set
  cases set

theorem Node.Everywhere.parenthesise
    (closed : ∀ node : Node, property node → property node.parenthesise) {node : Node}
    (all : node.Everywhere property) : node.parenthesise.Everywhere property := by
  obtain ⟨own, below⟩ := Node.everywhere_iff.mp all
  refine Node.everywhere_iff.mpr ⟨closed node own, ?_⟩
  rw [Node.parts_parenthesise]
  exact below

theorem Item.everywhere_part (blank : ∀ node : Node, node.isBlank = true → property node)
    (held : ∀ node ∈ item.held, node.Everywhere property) : item.part.Everywhere property := by
  cases item with
  | token found => exact Node.everywhere_iff.mpr ⟨blank _ rfl, fun _ member => by cases member⟩
  | node found => exact held found (List.mem_singleton_self found)
  | dimension => exact Node.everywhere_iff.mpr ⟨blank _ rfl, fun _ member => by cases member⟩
  | otherwise statements => exact Node.everywhere_iff.mpr ⟨blank _ rfl, held⟩

theorem Item.everywhere_parts (blank : ∀ node : Node, node.isBlank = true → property node)
    {items : List Item} (held : ∀ node ∈ heldBy items, node.Everywhere property) :
    ∀ part ∈ items.map Item.part, part.Everywhere property := by
  intro part member
  obtain ⟨item, inItems, rfl⟩ := List.mem_map.mp member
  exact everywhere_part blank fun node brought =>
    held node (List.mem_flatMap.mpr ⟨item, inItems, brought⟩)

variable {whole tree : ParseTree} (kept : Kept whole property)

include kept

theorem Kept.blank_of_bundles (within : tree ∈ whole.subtrees) (bundles : tree.bundles = true) :
    ∀ node : Node, node.isBlank = true → property node := by
  rcases kept.bundled with unbundled | all
  · rw [unbundled tree within] at bundles
    cases bundles
  · exact all

theorem Kept.of_odd (odd : item.Odd) : ∀ node ∈ item.held, node.Everywhere property :=
  fun node member => Node.everywhere_of_isOdd kept.odd (odd.held node member)

theorem Kept.readToken {found : Token} (within : .token found ∈ whole.subtrees)
    (holds : reader.Holds property) (read : reader.readToken found = .ok (item, after)) :
    (∀ node ∈ item.held, node.Everywhere property) ∧ after.Holds property := by
  rcases Reader.readToken_cases read with
    ⟨rfl, rfl⟩ | ⟨_, ⟨odd, same | cleared | set⟩ | ⟨inspects, rfl, rfl⟩⟩
  · exact ⟨fun _ member => (by cases member), holds⟩
  · exact ⟨kept.of_odd odd, holds.of_switch same⟩
  · exact ⟨kept.of_odd odd, Reader.holds_of_none cleared⟩
  · exact ⟨kept.of_odd odd, Reader.holds_of_token set⟩
  · refine ⟨?_, holds⟩
    have blank := kept.blank_of_bundles within inspects
    rcases after.switchItem_cases with odd | ⟨other, _, shown⟩ | ⟨serial, parts, set, shown⟩
    · exact kept.of_odd odd
    · rw [shown]
      exact fun _ member => by cases member
    · rw [shown]
      intro node member
      rw [List.mem_singleton.mp member]
      exact Node.everywhere_iff.mpr ⟨blank _ rfl, holds blank serial parts set⟩

theorem Kept.readRule {name : String} {children : List ParseTree} {mark : Mark}
    {items : List Item} {before : Reader} (within : .rule name children mark ∈ whole.subtrees)
    (sound : before.Sound) (childrenRead : before.readAll children = .ok (items, reader))
    (held : ∀ node ∈ Item.heldBy items, node.Everywhere property) (holds : reader.Holds property)
    (read : reader.readRule name mark items = .ok (item, after)) :
    (∀ node ∈ item.held, node.Everywhere property) ∧ after.Holds property := by
  rcases Reader.readRule_eq_ok_iff.mp read with
    ⟨rule, known, _, made, rfl⟩ | ⟨_, reserved, named, answered⟩
  · refine ⟨fun node member => ?_, holds⟩
    rcases ((Rule.gives_of_read made).2 node member).origin with own | ⟨inner, given, rfl | rfl⟩
    · refine Node.everywhere_iff.mpr ⟨kept.made within known sound childrenRead own, ?_⟩
      intro part partHeld
      rcases own.parts part partHeld with rfl | brought
      · exact Node.everywhere_of_isOdd kept.odd rfl
      · exact held part brought
    · exact held node (Item.mem_heldBy_of_nodes given)
    · exact (held inner (Item.mem_heldBy_of_nodes given)).parenthesise kept.parenthesised
  · rcases Reader.answerRule_cases answered with
      ⟨odd, same | ⟨serial, set⟩⟩ | ⟨asked, same, serial, rfl⟩
    · exact ⟨kept.of_odd odd, holds.of_switch same⟩
    · refine ⟨kept.of_odd odd, fun blank serial' parts setToo => ?_⟩
      rw [set] at setToo
      cases setToo
      exact Item.everywhere_parts blank held
    · refine ⟨fun node member => ?_, holds.of_switch same⟩
      have blank := kept.blank_of_bundles within
        (by simp [ParseTree.bundles, named, asked])
      rw [List.mem_singleton.mp member]
      exact Node.everywhere_iff.mpr ⟨blank _ rfl, Item.everywhere_parts blank held⟩

theorem Kept.read (within : tree ∈ whole.subtrees) (sound : reader.Sound)
    (holds : reader.Holds property) (read : reader.read tree = .ok (item, after)) :
    (∀ node ∈ item.held, node.Everywhere property) ∧ after.Holds property := by
  induction tree generalizing reader item after with
  | token found => exact kept.readToken within holds read
  | placeholder =>
      cases read
      exact ⟨kept.of_odd (Item.odd_node rfl), holds⟩
  | rule name children mark ih =>
      obtain ⟨items, middle, childrenRead, made⟩ := Reader.read_rule_eq_ok_iff.mp read
      have each (child : ParseTree) (member : child ∈ children) {reader : Reader} {item : Item}
          {after : Reader} (start : reader.Sound ∧ reader.Holds property)
          (childRead : reader.read child = .ok (item, after)) :
          (∀ node ∈ item.held, node.Everywhere property) ∧
            after.Sound ∧ after.Holds property := by
        obtain ⟨held, later⟩ := ih child member (ParseTree.mem_subtrees_of_child within member)
          start.1 start.2 childRead
        exact ⟨held, (start.1.read childRead).1, later⟩
      obtain ⟨heldByEach, -, middleHolds⟩ :=
        @Reader.readAll_keeps (fun reader => reader.Sound ∧ reader.Holds property) _ children each
          _ _ _ ⟨sound, holds⟩ childrenRead
      have held : ∀ node ∈ Item.heldBy items, node.Everywhere property := by
        intro node member
        obtain ⟨item, inItems, brought⟩ := List.mem_flatMap.mp member
        exact heldByEach item inItems node brought
      exact kept.readRule within sound childrenRead held middleHolds made

end Keeping

theorem ParseTree.lower_eq_ok_iff {tree : ParseTree} {item : Item} :
    tree.lower = .ok item ↔ ∃ after, tree.readFresh = .ok (item, after) := by
  rw [lower]
  cases tree.readFresh with
  | error fault => simp [Except.map]
  | ok done => simp [Except.map, Prod.ext_iff]

theorem ParseTree.lower_eq_error_iff {tree : ParseTree} {fault : Fault} :
    tree.lower = .error fault ↔ tree.readFresh = .error fault := by
  rw [lower]
  cases tree.readFresh <;> simp [Except.map]

/-- What a tree is read as, from the start, has a kept property everywhere below the root, and at
the root if that is a node. -/
theorem Kept.lower {whole : ParseTree} {property : Node → Prop} (kept : Kept whole property)
    {item : Item} (lowered : whole.lower = .ok item) :
    ∀ node ∈ item.held, node.Everywhere property := by
  obtain ⟨after, read⟩ := ParseTree.lower_eq_ok_iff.mp lowered
  exact (kept.read (ParseTree.mem_subtrees_self whole) Reader.sound_fresh Reader.holds_fresh
    read).1

end SwarmCheck
