import SwarmCheck.Log.FileName
import SwarmCheck.Log.Record
import SwarmCheck.OrderedMap

/-!
# Log output

Where log records go. Setting up the output routes every logger below the package logger to a
file, which starts empty, and on request to the console as well. A record of another logger, or
from before the set-up, goes nowhere. Only the files in the working directory are kept track of.
-/

namespace SwarmCheck.Log

set_option autoImplicit false

def packageLogger : String := "koord"

inductive Handler where
  | file (name : String)
  | elsewhere (name : String)
  | console
  deriving DecidableEq, Repr

/-- A request that cannot be followed: a level that there is not, or a path that no file can
have. -/
inductive Misuse where
  | unknownLevel
  | nullInPath
  deriving DecidableEq, Repr

def Misuse.message : Misuse → String
  | unknownLevel => "level must be an integer"
  | nullInPath => "embedded null byte"

structure Output where
  threshold : Level := .unset
  handlers : List Handler := []
  files : OrderedMap String := .empty
  console : String := ""

namespace Output

def inPackage (logger : String) : Bool :=
  logger == packageLogger || (packageLogger ++ ".").toList.isPrefixOf logger.toList

/-- The name a logger goes by: without a name it is the root of all loggers. -/
def loggerName (logger : String) : String := if logger = "" then "root" else logger

def appendFile (output : Output) (name text : String) : Output :=
  { output with files := output.files.insert name ((output.files.get? name).getD "" ++ text) }

def write (logger : String) (level : Level) (text : String) (output : Output) :
    Handler → Output
  | .file name =>
      output.appendFile name (logger ++ " - " ++ level.name ++ " - " ++ text ++ "\n")
  | .elsewhere _ => output
  | .console =>
      { output with console := output.console ++ level.name ++ ": " ++ text ++ "\n" }

def log (output : Output) (logger : String) (level : Level) (text : String) : Output :=
  if inPackage logger && output.threshold.severity ≤ level.severity then
    output.handlers.foldl (write logger level text) output
  else output

def logAt (output : Output) (logger level text : String) : Except Misuse Output :=
  match Level.ofName? level with
  | none => .error .unknownLevel
  | some level => .ok (output.log logger level text)

/-- Starts a file anew, if it is one to keep track of. -/
def openFile (output : Output) : Handler → Output
  | .file name => { output with files := output.files.insert name "" }
  | .elsewhere _ | .console => output

def fileHandler (path : String) : Handler :=
  if isElsewhere path then .elsewhere (lastStep path) else .file (fileName path)

def setUp (output : Output) (path : String) (verbose : Bool) : Except Misuse Output :=
  if (fileName path).contains '\x00' then .error .nullInPath
  else
    let handler := fileHandler path
    let fresh : Output :=
      { output.openFile handler with
        threshold := if verbose then .debug else .info
        handlers := if verbose then [handler, .console] else [handler] }
    .ok (if verbose then fresh.log packageLogger .debug "Debug logging enabled." else fresh)

/-- Files are read as text, in which every line end is a plain one. -/
def readLineEnds : List Char → List Char
  | [] => []
  | '\r' :: '\n' :: rest => '\n' :: readLineEnds rest
  | c :: rest => (if c = '\r' then '\n' else c) :: readLineEnds rest

def readFile (content : String) : String := String.ofList (readLineEnds content.toList)

def sortedFiles (output : Output) : List (String × String) :=
  (output.files.entries.map fun (name, content) => (name, readFile content)).mergeSort
    (fun left right => left.1 ≤ right.1)

end Output

end SwarmCheck.Log
