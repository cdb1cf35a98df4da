/-!
# Scanning TOML text

Blanks, line ends and comments, and the characters that may not stand in text at all. A scanner
takes the characters that are left and returns what remains after it.
-/

namespace SwarmCheck.Toml

set_option autoImplicit false

abbrev Chars := List Char

/-- A scanner fails on text that is not well formed. -/
abbrev Scanned (α : Type) := Option (α × Chars)

inductive Flaw where
  | malformed
  | longInteger (digits : Nat)
  deriving DecidableEq, Repr

/-- What is missing where something is required makes the document malformed. -/
def require {α : Type} : Option α → Except Flaw α
  | some value => .ok value
  | none => .error .malformed

def isBlank (c : Char) : Bool := c = ' ' || c = '\t'

def isFiller (c : Char) : Bool := isBlank c || c = '\n'

/-- Control characters other than the tab. A line end is among them. -/
def isControl (c : Char) : Bool := (c.toNat < 0x20 && c ≠ '\t') || c.toNat = 0x7f

def isDigit (c : Char) : Bool := '0' ≤ c && c ≤ '9'

def skipBlanks (chars : Chars) : Chars := chars.dropWhile isBlank

def skipComment : Chars → Option Chars
  | '#' :: rest =>
      if (rest.takeWhile (· ≠ '\n')).any isControl then none
      else some (rest.dropWhile (· ≠ '\n'))
  | chars => some chars

def skipFillerWith : Nat → Chars → Option Chars
  | 0, _ => none
  | fuel + 1, chars =>
      match chars.dropWhile isFiller with
      | '#' :: rest =>
          match skipComment ('#' :: rest) with
          | none => none
          | some after => skipFillerWith fuel after
      | rest => some rest

def skipFiller (chars : Chars) : Option Chars := skipFillerWith (chars.length + 1) chars

/-- Line ends of two characters count as one. -/
def joinLineEnds : Chars → Chars
  | '\r' :: '\n' :: rest => '\n' :: joinLineEnds rest
  | c :: rest => c :: joinLineEnds rest
  | [] => []

def after? : Chars → Chars → Option Chars
  | [], chars => some chars
  | expected :: more, c :: rest => if expected = c then after? more rest else none
  | _ :: _, [] => none

def expect (c : Char) : Chars → Option Chars
  | first :: rest => if first = c then some rest else none
  | [] => none

end SwarmCheck.Toml
