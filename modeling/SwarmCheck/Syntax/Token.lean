/-!
# Tokens

A piece of source text and what kind of piece it is.
-/

namespace SwarmCheck

set_option autoImplicit false

structure Token where
  kind : String
  text : String
  deriving DecidableEq, Repr

end SwarmCheck
