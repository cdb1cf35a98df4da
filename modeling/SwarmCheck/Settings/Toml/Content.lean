import SwarmCheck.Settings.Toml.Moment
import SwarmCheck.Settings.Toml.Nest
import SwarmCheck.Settings.Toml.Number

/-!
# TOML values

Any value, and the pairs of keys and values that make up tables. Arrays may run over several
lines and end in a comma; inline tables may not. Once an inline table or an array is complete,
nothing can be added below its key.
-/

namespace SwarmCheck.Toml

set_option autoImplicit false

def scanScalar (chars : Chars) : Except Flaw (Value × Chars) :=
  match scanMoment chars with
  | .present rest => .ok (.moment, rest)
  | .invalid => .error .malformed
  | .absent => scanNumber chars

def scanTruth (chars : Chars) : Scanned Value :=
  match after? ['t', 'r', 'u', 'e'] chars with
  | some rest => some (.boolean true, rest)
  | none => (after? ['f', 'a', 'l', 's', 'e'] chars).map fun rest => (.boolean false, rest)

mutual

def scanValueWith : Nat → Chars → Except Flaw (Value × Chars)
  | 0, _ => .error .malformed
  | _, [] => .error .malformed
  | fuel + 1, c :: rest =>
      if c = '"' || c = '\'' then do
        let (text, left) ← require (scanString (c :: rest))
        return (.text text, left)
      else if c = '[' then do
        let rest ← require (skipFiller rest)
        match rest with
        | ']' :: left => return (.list [], left)
        | _ => scanElementsWith fuel [] rest
      else if c = '{' then
        match skipBlanks rest with
        | '}' :: left => .ok (.table [], left)
        | left => scanInlineWith fuel [] [] left
      else
        match scanTruth (c :: rest) with
        | some scanned => .ok scanned
        | none => scanScalar (c :: rest)

def scanElementsWith : Nat → List Value → Chars → Except Flaw (Value × Chars)
  | 0, _, _ => .error .malformed
  | fuel + 1, values, chars => do
      let (value, rest) ← scanValueWith fuel chars
      let values := values ++ [value]
      let rest ← require (skipFiller rest)
      match rest with
      | ']' :: left => return (.list values, left)
      | ',' :: more =>
          let more ← require (skipFiller more)
          match more with
          | ']' :: left => return (.list values, left)
          | _ => scanElementsWith fuel values more
      | _ => .error .malformed

def scanInlineWith : Nat → Table → List Path → Chars → Except Flaw (Value × Chars)
  | 0, _, _, _ => .error .malformed
  | fuel + 1, table, closed, chars => do
      let (path, rest) ← require (scanPath chars)
      let rest ← require (expect '=' rest)
      let (value, rest) ← scanValueWith fuel (skipBlanks rest)
      let (parent, stem) ← require (splitPath path)
      if isSealed closed path then .error .malformed
      else
        let table ← require (changeNest false (addEntry stem value) parent table)
        match skipBlanks rest with
        | '}' :: left => return (.table table, left)
        | ',' :: more =>
            let closed := if value.isContainer then path :: closed else closed
            scanInlineWith fuel table closed (skipBlanks more)
        | _ => .error .malformed

end

/-- A value. Each bracket takes two steps, one for the value and one for its elements. -/
def scanValue (chars : Chars) : Except Flaw (Value × Chars) :=
  scanValueWith (2 * chars.length + 2) chars

def scanPair (chars : Chars) : Except Flaw ((Path × Value) × Chars) := do
  let (path, rest) ← require (scanPath chars)
  let rest ← require (expect '=' rest)
  let (value, rest) ← scanValue (skipBlanks rest)
  return ((path, value), rest)

end SwarmCheck.Toml
