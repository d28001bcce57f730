import Mathlib.Algebra.BigOperators.Group.Finset.Basic
import Repaint.Proofs.LastCapture

/-!
A store that started empty is its last captures and nothing else: what it says of buffers, keys
and sizes can be read off the finite map that sends each captured key to the fields captured
under it last. The map is read off the steps alone, and no step but a capture counts in it.
-/

set_option autoImplicit false

namespace Repaint

namespace Store

variable {σ ω : Type} [Slot σ ω]

/-- What a step captures, and under which key. -/
def Step.captured? : Step σ ω → Option (Key × List Field)
  | .cache .capture identity slots shared =>
    some (identity.canonical, (Slot.captureAll slots shared).1)
  | _ => none

section Contents

variable (store : Store)

end Contents

end Store
end Repaint
