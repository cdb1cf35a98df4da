import SwarmCheck.Settings.Toml.Document
import SwarmCheck.Settings.Validation

/-!
# Loading settings

Settings come from the first of two files that is usable, the one of the working directory before
the one of the home directory, and are the defaults if neither is. Nothing is ever taken from
both.
-/

namespace SwarmCheck

set_option autoImplicit false

inductive ConfigFile where
  | absent
  | unreadable
  | bytes (content : ByteArray)

/-- What about a file is not simply passed over. -/
inductive LoadError where
  | notUtf8
  | longInteger (digits : Nat)
  deriving DecidableEq, Repr

def LoadError.message : LoadError → String
  | notUtf8 => "not valid UTF-8"
  | longInteger digits =>
      "Exceeds the limit (" ++ toString Toml.maxDigits ++
        " digits) for integer string conversion: value has " ++ toString digits ++
        " digits; use sys.set_int_max_str_digits() to increase the limit"

namespace Settings

def tableName : String := "analysis"

def ofRoot? (root : Toml.Table) : Option Settings :=
  match root.lookup tableName with
  | some (.table entries) => (ofEntries entries).toOption
  | _ => none

def ofText (text : String) : Except LoadError (Option Settings) :=
  match Toml.parse text with
  | .ok root => .ok (ofRoot? root)
  | .error .malformed => .ok none
  | .error (.longInteger digits) => .error (.longInteger digits)

def ofFile : ConfigFile → Except LoadError (Option Settings)
  | .absent => .ok none
  | .unreadable => .ok none
  | .bytes content =>
      match String.fromUTF8? content with
      | none => .error .notUtf8
      | some text => ofText text

/-- The first usable file counts. A file after it is not looked at. -/
def loadFirst : List ConfigFile → Except LoadError Settings
  | [] => .ok {}
  | file :: rest =>
      match ofFile file with
      | .error error => .error error
      | .ok (some settings) => .ok settings
      | .ok none => loadFirst rest

def load (workingDirectory home : ConfigFile) : Except LoadError Settings :=
  loadFirst [workingDirectory, home]

end Settings

end SwarmCheck
