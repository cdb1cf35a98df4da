import SwarmCheck.Settings.Toml.Text
import SwarmCheck.Settings.Value

/-!
# TOML numbers

Integers in four bases, decimal fractions, and the names of what is not finite. An underscore may
stand between two digits. Integers in base ten have a limit on their length.
-/

namespace SwarmCheck.Toml

set_option autoImplicit false

/-- Further digits, each perhaps after an underscore. -/
def moreDigits (allowed : Char → Bool) : Chars → Chars × Chars
  | [] => ([], [])
  | '_' :: c :: rest =>
      if allowed c then
        let (digits, left) := moreDigits allowed rest
        (c :: digits, left)
      else ([], '_' :: c :: rest)
  | c :: rest =>
      if allowed c then
        let (digits, left) := moreDigits allowed rest
        (c :: digits, left)
      else ([], c :: rest)

def scanDigits (allowed : Char → Bool) : Chars → Scanned Chars
  | [] => none
  | c :: rest =>
      if allowed c then
        let (digits, left) := moreDigits allowed rest
        some (c :: digits, left)
      else none

def isBelow (base : Nat) (c : Char) : Bool :=
  match hexValue? c with
  | some value => value < base
  | none => false

def scanBased (base : Nat) (chars : Chars) : Scanned Value :=
  (scanDigits (isBelow base) chars).map fun (digits, rest) =>
    (.integer (Decimal.natOfDigits base (digits.filterMap hexValue?)), rest)

def scanSign : Chars → Chars × Chars
  | '+' :: rest => (['+'], rest)
  | '-' :: rest => (['-'], rest)
  | chars => ([], chars)

/-- The part before the point: no digit may follow a leading zero. -/
def scanWhole : Chars → Scanned Chars
  | '0' :: rest => some (['0'], rest)
  | chars => scanDigits isDigit chars

def scanFraction (chars : Chars) : Chars × Chars :=
  match chars with
  | '.' :: rest =>
      match scanDigits isDigit rest with
      | some (digits, left) => ('.' :: digits, left)
      | none => ([], chars)
  | _ => ([], chars)

def scanExponent (chars : Chars) : Chars × Chars :=
  match chars with
  | mark :: rest =>
      if mark = 'e' || mark = 'E' then
        let (sign, unsigned) := scanSign rest
        match scanDigits isDigit unsigned with
        | some (digits, left) => ('e' :: sign ++ digits, left)
        | none => ([], chars)
      else ([], chars)
  | [] => ([], chars)

/-- The most digits that an integer in base ten may have. -/
def maxDigits : Nat := 4300

def signedInteger (sign digits : Chars) : Int :=
  let size : Int := Decimal.natOfDigits 10 (digits.map fun c => c.toNat - '0'.toNat)
  if sign = ['-'] then -size else size

def scanInteger (sign whole rest : Chars) : Except Flaw (Value × Chars) :=
  if maxDigits < whole.length then .error (.longInteger whole.length)
  else .ok (.integer (signedInteger sign whole), rest)

def scanAfterWhole (sign whole chars : Chars) : Except Flaw (Value × Chars) := do
  let (fraction, rest) := scanFraction chars
  let (exponent, rest) := scanExponent rest
  if fraction.isEmpty && exponent.isEmpty then scanInteger sign whole rest
  else
    let value ← require (Decimal.ofText? (String.ofList (sign ++ whole ++ fraction ++ exponent)))
    return (.decimal value, rest)

def scanNonFinite (chars : Chars) : Scanned Value :=
  let (_, unsigned) := scanSign chars
  match after? ['i', 'n', 'f'] unsigned with
  | some rest => some (.nonFinite, rest)
  | none => (after? ['n', 'a', 'n'] unsigned).map fun rest => (.nonFinite, rest)

def scanPrefixed : Chars → Scanned Value
  | '0' :: 'x' :: rest => scanBased 16 rest
  | '0' :: 'b' :: rest => scanBased 2 rest
  | '0' :: 'o' :: rest => scanBased 8 rest
  | _ => none

def scanNumber (chars : Chars) : Except Flaw (Value × Chars) :=
  match scanPrefixed chars with
  | some scanned => .ok scanned
  | none =>
      let (sign, unsigned) := scanSign chars
      match scanWhole unsigned with
      | some (whole, rest) => scanAfterWhole sign whole rest
      | none => require (scanNonFinite chars)

end SwarmCheck.Toml
