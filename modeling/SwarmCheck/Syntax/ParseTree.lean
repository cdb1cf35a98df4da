import SwarmCheck.Syntax.Position
import SwarmCheck.Syntax.Token

/-!
# Parse trees

What a parser delivers: tokens, the subtrees of grammar rules, and placeholders for optional
parts that are missing.
-/

namespace SwarmCheck

set_option autoImplicit false

inductive ParseTree where
  | token (token : Token)
  | placeholder
  | rule (name : String) (children : List ParseTree) (mark : Mark)
  deriving Inhabited

end SwarmCheck
