import SwarmCheck.Fault
import SwarmCheck.Syntax.Item
import SwarmCheck.Syntax.Reserved
import SwarmCheck.Syntax.Rule

/-!
# The reader of parse trees

What reading goes by besides the tree itself: whether tokens are read by rules, and whether the
rules that go by their children alone are barred. Only reserved names change it, so a tree that
uses none of them is read the same way from one end to the other.

The switch for tokens is kept in a table of settings. A tree can get hold of that table, and then
sees whatever the table holds later on; it can also put the table inside the setting. Clearing
all settings starts a new table and leaves the old one as it was.
-/

namespace SwarmCheck

set_option autoImplicit false

/-- What the reading of tokens is set to: as at the start, or to a token or a bundle that a tree
has given. -/
inductive Setting where
  | initial
  | token (token : Token)
  | bundle (serial : Nat) (parts : List Node)

namespace Setting

/-- A token without text and a bundle without parts switch off. -/
def isOn : Setting → Bool
  | initial => true
  | token found => found.text ≠ ""
  | bundle _ parts => !parts.isEmpty

def item : Setting → Item
  | initial => .node (.stray (.truth true))
  | token found => .token found
  | bundle serial parts => .node (.bundle serial parts)

end Setting

structure Reader where
  /-- The switch in the present table of settings, unless it has been cleared. -/
  switch : Option Setting := some .initial
  /-- The switch in each earlier table, the first table first. -/
  formerSwitches : List (Option Setting) := []
  /-- Whether the rules that go by their children alone are barred. -/
  barred : Bool := false
  /-- How many bundles have been made. -/
  bundleCount : Nat := 0

namespace Reader

/-- Without a setting tokens are read by rules. -/
def readsTokens (reader : Reader) : Bool :=
  match reader.switch with
  | some setting => setting.isOn
  | none => true

def bars (reader : Reader) (rule : Rule) : Bool := reader.barred && rule.isBare

def switchItem (reader : Reader) : Item := (reader.switch.getD .initial).item

def tableNumber (reader : Reader) : Nat := reader.formerSwitches.length

def switchIn (reader : Reader) (number : Nat) : Option Setting :=
  ((reader.formerSwitches ++ [reader.switch])[number]?).join

/-- Lists a table of settings inside the tables `within` it stands. A table met again inside
itself is only hinted at. No table can stand inside more tables than there are, so a depth of
that many is enough. -/
def listTable (reader : Reader) : Nat → List Nat → TableListing
  | 0, _, _, _ => "\x7b...\x7d"
  | depth + 1, within, around, number =>
      if number ∈ within then "\x7b...\x7d"
      else
        match reader.switchIn number with
        | none => "\x7b\x7d"
        | some setting =>
            "\x7b" ++ Text.quoted Reserved.switchName ++ ": " ++
              setting.item.part.listing (listTable reader depth (number :: within)) around ++
              "\x7d"

def list (reader : Reader) (items : List Item) : String :=
  let table := reader.listTable (reader.tableNumber + 1) []
  Listing.bracketed (items.map fun item => item.part.listing table [])

def look (reader : Reader) : Sight → Item
  | .always found => .node found
  | .switch => reader.switchItem
  | .settings => .node (.stray (.settings reader.tableNumber))

def lookAtRule (reader : Reader) (name : String) (rule : Rule) : Item :=
  if rule.isBare && !reader.barred then
    .node (.stray (.object (.method "AstTransformer" name)))
  else .node (.stray (.object .markedRule))

/-- What is behind a name, if the reader knows it. -/
def inspect? (reader : Reader) (name : String) : Option Item :=
  match Rule.ofName? name with
  | some rule => some (reader.lookAtRule name rule)
  | none => (Reserved.ofName? name).map fun reserved => reader.look reserved.sight

def clearAll (reader : Reader) : Reader :=
  { reader with
    switch := none
    formerSwitches := reader.formerSwitches ++ [reader.switch] }

/-- Clears the switch if it is set, or all settings whether there are any or not. Nothing else
can be cleared. -/
def clear? (reader : Reader) (name : String) : Option Reader :=
  if name = Reserved.settingsName then some reader.clearAll
  else if name = Reserved.switchName && reader.switch.isSome then
    some { reader with switch := none }
  else none

def bundle (reader : Reader) (items : List Item) : (Nat × List Node) × Reader :=
  ((reader.bundleCount, items.map Item.part),
    { reader with bundleCount := reader.bundleCount + 1 })

/-- What becomes of a rule with a reserved name. -/
def answerRule (reader : Reader) (name : String) (items : List Item) :
    Request → Except Fault (Item × Reader)
  | .switch =>
      let ((serial, parts), reader) := reader.bundle items
      .ok (.node .hole, { reader with switch := some (.bundle serial parts) })
  | .bar => .ok (.node (.stray (.object .readerClass)), { reader with barred := true })
  | .answer found => .ok (.node (.stray (.object found)), reader)
  | .bundle =>
      let ((serial, parts), reader) := reader.bundle items
      .ok (.node (.bundle serial parts), reader)
  | .refused | .clear | .inspect | .describe => .error (.reservedName name)

/-- What becomes of a token whose kind is a reserved name. A token has no children to bundle. -/
def answerToken (reader : Reader) (token : Token) : Request → Except Fault (Item × Reader)
  | .switch => .ok (.node .hole, { reader with switch := some (.token token) })
  | .clear =>
      match reader.clear? token.text with
      | some reader => .ok (.node .hole, reader)
      | none => .error (.reservedName token.kind)
  | .inspect =>
      match reader.inspect? token.text with
      | some item => .ok (item, reader)
      | none => .error (.reservedName token.kind)
  | .describe =>
      if token.text = "" then .ok (.node (.stray (.text Foreign.reader.listing)), reader)
      else .error (.reservedName token.kind)
  | .bundle =>
      if token.kind = Reserved.plainName then .ok (.token token, reader)
      else .error (.reservedName token.kind)
  | request => reader.answerRule token.kind [] request

end Reader

end SwarmCheck
