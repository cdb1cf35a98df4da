import SwarmCheck.Settings.Toml.Content

/-!
# TOML documents

A document is a list of statements, one to a line: pairs, headers that open a table, and headers
that add a table to an array. A table can be opened by one header only, and a table that came
into being through the dots of a key counts as opened from the next header on.
-/

namespace SwarmCheck.Toml

set_option autoImplicit false

structure Document where
  root : Table := []
  /-- The table that pairs go into. -/
  header : Path := []
  /-- Tables that no further header may open. -/
  opened : List Path := []
  /-- Tables that count as opened once the next header comes. -/
  pending : List Path := []
  /-- Inline tables and arrays, below which nothing can be added. -/
  closed : List Path := []

namespace Document

/-- The tables on the way to a dotted key, relative to the table it stands in. -/
def waypoints (header path : Path) : List Path :=
  (List.range (path.length - 1)).map fun count => header ++ path.take (count + 1)

def addPair (document : Document) (path : Path) (value : Value) : Option Document := do
  let (parent, stem) ← splitPath path
  let place := document.header ++ parent
  let passed := waypoints document.header path
  if passed.any (document.opened.contains ·) then none
  else if isSealed document.closed place then none
  else
    let root ← changeNest true (addEntry stem value) place document.root
    return { document with
      root
      pending := document.pending ++ passed
      closed :=
        if value.isContainer then (document.header ++ path) :: document.closed
        else document.closed }

/-- A header ends the section before it. -/
def endSection (document : Document) : Document :=
  { document with opened := document.pending ++ document.opened, pending := [] }

def openTable (document : Document) (path : Path) : Option Document :=
  if document.opened.contains path || isSealed document.closed path then none
  else do
    let root ← changeNest true some path document.root
    return { document with root, header := path, opened := path :: document.opened }

/-- The new table of an array starts with nothing opened or closed below it. -/
def openArrayTable (document : Document) (path : Path) : Option Document := do
  let (parent, stem) ← splitPath path
  if isSealed document.closed path then none
  else
    let root ← changeNest true (addTable stem) parent document.root
    return { document with
      root
      header := path
      opened := path :: document.opened.filter (!path.isPrefixOf ·)
      closed := document.closed.filter (!path.isPrefixOf ·) }

def scanHeader (document : Document) (chars : Chars) : Option (Document × Chars) :=
  match chars with
  | '[' :: rest => do
      let (path, rest) ← scanPath (skipBlanks rest)
      let document ← document.openArrayTable path
      let rest ← after? [']', ']'] rest
      return (document, rest)
  | _ => do
      let (path, rest) ← scanPath (skipBlanks chars)
      let document ← document.openTable path
      let rest ← expect ']' rest
      return (document, rest)

def scanStatement (document : Document) (chars : Chars) : Except Flaw (Document × Chars) :=
  match chars with
  | [] => .ok (document, [])
  | c :: rest =>
      if startsKey c then do
        let ((path, value), left) ← scanPair chars
        let document ← require (document.addPair path value)
        return (document, skipBlanks left)
      else if c = '[' then do
        let (document, left) ← require (document.endSection.scanHeader rest)
        return (document, skipBlanks left)
      else if c = '#' || c = '\n' then .ok (document, chars)
      else .error .malformed

def scanLines : Nat → Document → Chars → Except Flaw Document
  | 0, _, _ => .error .malformed
  | fuel + 1, document, chars => do
      let (document, rest) ← document.scanStatement (skipBlanks chars)
      let rest ← require (skipComment rest)
      match rest with
      | [] => return document
      | c :: more => if c = '\n' then scanLines fuel document more else .error .malformed

end Document

def parse (text : String) : Except Flaw Table :=
  let chars := joinLineEnds text.toList
  (Document.scanLines (chars.length + 1) {} chars).map (·.root)

end SwarmCheck.Toml
