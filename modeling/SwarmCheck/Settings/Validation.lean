import SwarmCheck.Settings.Basic
import SwarmCheck.Settings.Value

/-!
# Settings from configuration values

A table of values is checked option by option. An option that is missing has its default, one
that is not known is ignored, and every problem is listed.
-/

namespace SwarmCheck

set_option autoImplicit false

inductive Problem where
  | notTable
  | unknownPolicy
  | unreadableFlag
  | notFlag
  deriving DecidableEq, Repr

namespace Settings

def policyOf : Value → Except Problem RedefinitionPolicy
  | .text text =>
      match RedefinitionPolicy.ofText? text with
      | some policy => .ok policy
      | none => .error .unknownPolicy
  | _ => .error .unknownPolicy

def noWords : List String := ["0", "off", "f", "false", "n", "no"]

def yesWords : List String := ["1", "on", "t", "true", "y", "yes"]

/-- The words for a flag are written in ASCII, so no other letter has to be folded. -/
def foldWord (text : String) : String := text.map Char.toLower

def flagOfWhole (value : Int) : Except Problem Bool :=
  if value = 0 then .ok false else if value = 1 then .ok true else .error .unreadableFlag

/-- Whole numbers of 64 bits are those below it in size, and its negative. -/
def wordLimit : Int := Nat.pow 2 63

/-- A flag may be a truth value, the number 0 or 1, or one of a few words in any case. Other
whole numbers are unreadable as far as 64 bits hold them, and no flags at all beyond. The least
number of 64 bits is among them as an integer but not as a decimal. -/
def flagOf : Value → Except Problem Bool
  | .boolean value => .ok value
  | .integer value =>
      if -wordLimit ≤ value && value < wordLimit then flagOfWhole value else .error .notFlag
  | .decimal value =>
      match value.whole? with
      | some whole =>
          if -wordLimit < whole && whole < wordLimit then flagOfWhole whole
          else .error .notFlag
      | none => .error .notFlag
  | .text text =>
      let word := foldWord text
      if noWords.contains word then .ok false
      else if yesWords.contains word then .ok true
      else .error .unreadableFlag
  | _ => .error .notFlag

def option {α : Type} (entries : List (String × Value)) (key : String) (fallback : α)
    (read : Value → Except Problem α) : Except Problem α :=
  match entries.lookup key with
  | none => .ok fallback
  | some value => read value

def problemOf {α : Type} : Except Problem α → List Problem
  | .ok _ => []
  | .error problem => [problem]

def ofEntries (entries : List (String × Value)) : Except (List Problem) Settings :=
  let defaults : Settings := {}
  let policy :=
    option entries "record_redefinition" defaults.recordRedefinition policyOf
  let verbose := option entries "verbose" defaults.verbose flagOf
  match policy, verbose with
  | .ok policy, .ok verbose => .ok ⟨policy, verbose⟩
  | _, _ => .error (problemOf policy ++ problemOf verbose)

def ofValue (value : Value) : Except (List Problem) Settings :=
  match value.entries? with
  | none => .error [.notTable]
  | some entries => ofEntries entries

end Settings

end SwarmCheck
