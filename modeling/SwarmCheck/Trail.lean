/-!
# Trails

A computation that emits entries as it goes and may fail. What was emitted before a failure is
kept, so a caller sees exactly how far the computation came.
-/

namespace SwarmCheck

set_option autoImplicit false

structure Trail (ω ε α : Type) where
  emitted : List ω
  outcome : Except ε α

namespace Trail

variable {ω ε α β : Type}

def emit (entries : List ω) : Trail ω ε Unit := ⟨entries, .ok ()⟩

def fail (error : ε) : Trail ω ε α := ⟨[], .error error⟩

def andThen (first : Trail ω ε α) (next : α → Trail ω ε β) : Trail ω ε β :=
  match first.outcome with
  | .ok value =>
      let rest := next value
      ⟨first.emitted ++ rest.emitted, rest.outcome⟩
  | .error error => ⟨first.emitted, .error error⟩

instance : Monad (Trail ω ε) where
  pure value := ⟨[], .ok value⟩
  bind := andThen

instance : LawfulMonad (Trail ω ε) :=
  LawfulMonad.mk' (Trail ω ε)
    (by
      rintro α ⟨emitted, outcome⟩
      cases outcome <;> simp [Functor.map, andThen])
    (by
      intro α β value next
      simp [bind, pure, andThen])
    (by
      rintro α β γ ⟨emitted, outcome⟩ next last
      cases outcome with
      | error error => rfl
      | ok value =>
          simp only [bind, andThen]
          cases (next value).outcome <;> simp)

end Trail

end SwarmCheck
