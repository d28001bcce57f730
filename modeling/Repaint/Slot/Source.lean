import Repaint.Phase

/-!
Where a slot's value comes from at the start of a call: it is given, or it is drawn only, so that
a capturing pass starts from the blank of its type.
-/

set_option autoImplicit false

namespace Repaint

inductive Source (σ : Type) where
  | given (slot : σ)
  | deferred (live blank : σ)
  deriving DecidableEq

namespace Source

variable {σ : Type}

def start (phase : Phase) : Source σ → σ
  | given slot => slot
  | deferred live blank => Id.run (phase.drawOnly blank (pure live))

end Source

end Repaint
