/-!
# Log records

What the analysis notes about its own progress. Every record names the part of the analysis it
comes from.
-/

namespace SwarmCheck.Log

set_option autoImplicit false

/-- How much a record matters. A level that was never set is below all others. -/
inductive Level where
  | unset
  | debug
  | info
  | warning
  | error
  | critical
  deriving DecidableEq, Repr

def Level.severity : Level → Nat
  | unset => 0
  | debug => 10
  | info => 20
  | warning => 30
  | error => 40
  | critical => 50

def Level.name : Level → String
  | unset => "NOTSET"
  | debug => "DEBUG"
  | info => "INFO"
  | warning => "WARNING"
  | error => "ERROR"
  | critical => "CRITICAL"

/-- Two levels go by a second name. -/
def Level.ofName? : String → Option Level
  | "NOTSET" => some unset
  | "DEBUG" => some debug
  | "INFO" => some info
  | "WARNING" | "WARN" => some warning
  | "ERROR" => some error
  | "CRITICAL" | "FATAL" => some critical
  | _ => none

inductive Source where
  | frontEnd
  | analyzer
  | declarations
  | symbols
  | types
  | resolution
  | references
  | typing
  | access
  | messages
  deriving DecidableEq, Repr

def Source.name : Source → String
  | frontEnd => "koord.dsl.compiler"
  | analyzer => "koord.dsl.semantic.analyzer"
  | declarations => "koord.dsl.semantic.builder"
  | symbols => "koord.dsl.semantic.scope"
  | types => "koord.dsl.semantic.types"
  | resolution => "koord.dsl.semantic.resolution"
  | references => "koord.dsl.semantic.resolver"
  | typing => "koord.dsl.semantic.type_checker"
  | access => "koord.dsl.semantic.access"
  | messages => "koord.dsl.errors.codes"

structure Record where
  level : Level
  source : Source
  text : String
  deriving DecidableEq, Repr

def debug (source : Source) (text : String) : Record := ⟨.debug, source, text⟩

def info (source : Source) (text : String) : Record := ⟨.info, source, text⟩

def warning (source : Source) (text : String) : Record := ⟨.warning, source, text⟩

def Record.line (record : Record) : String :=
  record.level.name ++ " " ++ record.source.name ++ ": " ++ record.text

def Record.atLeast (threshold : Level) (record : Record) : Bool :=
  threshold.severity ≤ record.level.severity

end SwarmCheck.Log
