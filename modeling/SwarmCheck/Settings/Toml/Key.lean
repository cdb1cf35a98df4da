import SwarmCheck.Settings.Toml.Text

/-!
# TOML keys

A key is a path of parts divided by dots; a part is a bare word or a quoted string on one line.
-/

namespace SwarmCheck.Toml

set_option autoImplicit false

abbrev Path := List String

def isBareKey (c : Char) : Bool :=
  ('a' ≤ c && c ≤ 'z') || ('A' ≤ c && c ≤ 'Z') || isDigit c || c = '-' || c = '_'

def startsKey (c : Char) : Bool := isBareKey c || c = '"' || c = '\''

def scanKeyPart : Chars → Scanned String
  | '"' :: rest => (scanBasic false rest).map fun (text, left) => (String.ofList text, left)
  | '\'' :: rest => (scanLiteral rest).map fun (text, left) => (String.ofList text, left)
  | chars =>
      match chars.takeWhile isBareKey with
      | [] => none
      | word => some (String.ofList word, chars.dropWhile isBareKey)

def scanPathWith : Nat → Chars → Scanned Path
  | 0, _ => none
  | fuel + 1, chars =>
      match scanKeyPart chars with
      | none => none
      | some (part, rest) =>
          match skipBlanks rest with
          | '.' :: more =>
              (scanPathWith fuel (skipBlanks more)).map fun (path, left) => (part :: path, left)
          | left => some ([part], left)

def scanPath (chars : Chars) : Scanned Path := scanPathWith (chars.length + 1) chars

end SwarmCheck.Toml
