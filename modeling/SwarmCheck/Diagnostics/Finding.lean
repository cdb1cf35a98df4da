import SwarmCheck.Diagnostics.Diagnostic
import SwarmCheck.Syntax.Node

/-!
# Findings

What an analysis can find wrong with a program, each with the node at which it was found.
-/

namespace SwarmCheck

set_option autoImplicit false

inductive Finding where
  | unresolved (name : String) (site : Node) (help : Option String)
  | redeclared (name : String) (site : Node)
  | mismatch (site : Node) (construct expected actual : String)
  | sensorWrite (target : String) (site : Node)
  | streamWrite (target : String) (site : Node)
  | readOnlyWrite (target : String) (site : Node)

end SwarmCheck
