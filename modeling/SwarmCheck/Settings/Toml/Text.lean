import SwarmCheck.Settings.Decimal
import SwarmCheck.Settings.Toml.Scan

/-!
# TOML strings

Basic strings know escapes, literal strings do not, and either may run over several lines between
triple quotes.
-/

namespace SwarmCheck.Toml

set_option autoImplicit false

def hexValue? (c : Char) : Option Nat :=
  if '0' ≤ c && c ≤ '9' then some (c.toNat - '0'.toNat)
  else if 'a' ≤ c && c ≤ 'f' then some (c.toNat - 'a'.toNat + 10)
  else if 'A' ≤ c && c ≤ 'F' then some (c.toNat - 'A'.toNat + 10)
  else none

/-- A character given by its code point in hexadecimal. Surrogates are none. -/
def scanCodePoint (count : Nat) (chars : Chars) : Scanned Chars :=
  let digits := (chars.take count).filterMap hexValue?
  if digits.length ≠ count then none
  else
    let code := Decimal.natOfDigits 16 digits
    if code.isValidChar then some ([Char.ofNat code], chars.drop count) else none

/-- A backslash at the end of a line drops the line end and all filler after it. -/
def scanLineEnd (chars : Chars) : Scanned Chars :=
  match skipBlanks chars with
  | [] => some ([], [])
  | c :: rest => if c = '\n' then some ([], rest.dropWhile isFiller) else none

def scanEscape (multiline : Bool) : Chars → Scanned Chars
  | [] => none
  | c :: rest =>
      if multiline && isFiller c then scanLineEnd (c :: rest)
      else
        match c with
        | 'b' => some (['\x08'], rest)
        | 't' => some (['\t'], rest)
        | 'n' => some (['\n'], rest)
        | 'f' => some (['\x0c'], rest)
        | 'r' => some (['\r'], rest)
        | '"' => some (['"'], rest)
        | '\\' => some (['\\'], rest)
        | 'u' => scanCodePoint 4 rest
        | 'U' => scanCodePoint 8 rest
        | _ => none

/-- The rest of a basic string, up to and including its closing quote or quotes. -/
def scanBasicWith (multiline : Bool) : Nat → Chars → Scanned Chars
  | 0, _ => none
  | _, [] => none
  | fuel + 1, '"' :: rest =>
      if !multiline then some ([], rest)
      else
        match after? ['"', '"'] rest with
        | some closed => some ([], closed)
        | none =>
            (scanBasicWith multiline fuel rest).map fun (text, left) => ('"' :: text, left)
  | fuel + 1, '\\' :: rest =>
      match scanEscape multiline rest with
      | none => none
      | some (escaped, next) =>
          (scanBasicWith multiline fuel next).map fun (text, left) => (escaped ++ text, left)
  | fuel + 1, c :: rest =>
      if isControl c && !(multiline && c = '\n') then none
      else (scanBasicWith multiline fuel rest).map fun (text, left) => (c :: text, left)

def scanBasic (multiline : Bool) (chars : Chars) : Scanned Chars :=
  scanBasicWith multiline (chars.length + 1) chars

def scanLiteral (chars : Chars) : Scanned Chars :=
  let body := chars.takeWhile (· ≠ '\'')
  match chars.dropWhile (· ≠ '\'') with
  | _ :: rest => if body.any isControl then none else some (body, rest)
  | [] => none

def untilTriple : Chars → Scanned Chars
  | '\'' :: '\'' :: '\'' :: rest => some ([], rest)
  | c :: rest => (untilTriple rest).map fun (text, left) => (c :: text, left)
  | [] => none

def scanLongLiteral (chars : Chars) : Scanned Chars :=
  match untilTriple chars with
  | none => none
  | some (body, rest) =>
      if body.any (fun c => isControl c && c ≠ '\n') then none else some (body, rest)

/-- Up to two quotes may stand directly before the closing three. -/
def extraQuotes (quote : Char) (text rest : Chars) : Chars × Chars :=
  match expect quote rest with
  | none => (text, rest)
  | some rest' =>
      match expect quote rest' with
      | none => (text ++ [quote], rest')
      | some rest'' => (text ++ [quote, quote], rest'')

/-- A line end directly after the opening quotes does not count. -/
def skipFirstLineEnd : Chars → Chars
  | '\n' :: rest => rest
  | chars => chars

def scanString (chars : Chars) : Scanned String :=
  let scanned : Scanned Chars :=
    match after? ['"', '"', '"'] chars with
    | some rest =>
        (scanBasic true (skipFirstLineEnd rest)).map fun (text, left) => extraQuotes '"' text left
    | none =>
        match after? ['\'', '\'', '\''] chars with
        | some rest =>
            (scanLongLiteral (skipFirstLineEnd rest)).map fun (text, left) =>
              extraQuotes '\'' text left
        | none =>
            match chars with
            | '"' :: rest => scanBasic false rest
            | '\'' :: rest => scanLiteral rest
            | _ => none
  scanned.map fun (text, left) => (String.ofList text, left)

end SwarmCheck.Toml
