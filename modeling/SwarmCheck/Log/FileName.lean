/-!
# Names of log files

A log file is given by a path from the working directory. Two paths that come to the same once
their dots are worked out name the same file. A path can also lead out of that directory.
-/

namespace SwarmCheck.Log

set_option autoImplicit false

/-- One step of a path, from the directory reached so far. -/
def enter (reached : List String) (step : String) : List String :=
  if step = "" || step = "." then reached
  else if step = ".." then reached.dropLast
  else reached ++ [step]

def steps (path : String) : List String := path.splitOn "/"

def fileName (path : String) : String := String.intercalate "/" ((steps path).foldl enter [])

/-- Whether a path leads out of the working directory, given how deep below it one is. -/
def leavesFrom : Nat → List String → Bool
  | _, [] => false
  | depth, step :: rest =>
      if step = "" || step = "." then leavesFrom depth rest
      else if step = ".." then
        match depth with
        | 0 => true
        | depth + 1 => leavesFrom depth rest
      else leavesFrom (depth + 1) rest

def isElsewhere (path : String) : Bool :=
  path.toList.head? = some '/' || leavesFrom 0 (steps path)

def lastStep (path : String) : String := ((steps path).foldl enter []).getLast?.getD ""

end SwarmCheck.Log
