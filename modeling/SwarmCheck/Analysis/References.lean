import SwarmCheck.Analysis.Entry
import SwarmCheck.Symbols.Resolution
import SwarmCheck.Text.LowerCase

/-!
# References

The second pass checks that every variable a program refers to resolves. Where one does not, a
declared name that begins alike is suggested.
-/

namespace SwarmCheck

set_option autoImplicit false

namespace References

/-- How many leading characters a suggested name shares with the reference. -/
def sharedLength : Nat := 3

def stem (text : String) : List Char :=
  (Text.lower ((Text.segments text).head?.getD "")).toList.take sharedLength

def resembles (text candidate : String) : Bool :=
  (stem text).isPrefixOf (Text.lower candidate).toList

/-- The least declared name whose lower case begins as the reference does. -/
def similar? (env : Environment) (text : String) : Option String :=
  env.sortedNames.find? (resembles text)

def suggestion? (env : Environment) (text : String) : Option String :=
  (similar? env text).map fun candidate => "did you mean '" ++ candidate ++ "'?"

def entriesAt (env : Environment) (node : Node) : List Entry :=
  match node.referenceText? with
  | none => []
  | some text =>
      match env.resolve text with
      | .ok _ => []
      | .error cause =>
          cause.notes.map .note ++
            [.note (Log.debug .references ("Unresolved reference " ++ text)),
              .report (.unresolved text node (suggestion? env text))]

def check (env : Environment) (program : Node) : Pass Unit :=
  if program.isBlank then .fail .emptyPlace
  else .emit (program.preorder.flatMap (entriesAt env))

end References

end SwarmCheck
