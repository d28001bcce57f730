import Repaint.Field.Basic

/-!
A slot is a drawn variable as a store sees it: it has a kind, it can be captured into a field,
and a field can be put back into it. Capturing and restoring may also change a state that slots
share, and what kind a slot has may depend on that state; capturing changes nothing of the slot
itself, and asking for its kind changes nothing at all. A slot of one's own need not capture what
its kind says.
-/

set_option autoImplicit false

namespace Repaint

class Slot (σ : Type) (ω : outParam Type) where
  kind : σ → ω → Kind
  capture : σ → ω → Field × ω
  restore : σ → Field → ω → σ × ω

namespace Slot

variable {σ ω : Type} [Slot σ ω]

def kinds (slots : List σ) (shared : ω) : List Kind := slots.map fun slot => kind slot shared

def captureAll : List σ → ω → List Field × ω
  | [], shared => ([], shared)
  | slot :: slots, shared =>
    let (field, shared) := capture slot shared
    let (fields, shared) := captureAll slots shared
    (field :: fields, shared)

/-- Each field goes to the slot in its place; slots past the last field are left alone. -/
def restoreAll : List σ → List Field → ω → List σ × ω
  | slot :: slots, field :: fields, shared =>
    let (slot, shared) := restore slot field shared
    let (slots, shared) := restoreAll slots fields shared
    (slot :: slots, shared)
  | slots, _, shared => (slots, shared)

end Slot

end Repaint
