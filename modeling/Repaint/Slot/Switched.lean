import Repaint.Slot.Basic

/-!
A slot that sets the mode flag whenever it is captured or restored, and otherwise does as the
slot inside it does. Asking for its kind sets nothing and looks at no flag. The flag stands in
front of the state that the inner slots share.
-/

set_option autoImplicit false

namespace Repaint

inductive Switched (σ : Type) where
  | plain (slot : σ)
  | switching (restoring : Bool) (inner : Switched σ)
  deriving DecidableEq

namespace Switched

variable {σ τ ω : Type}

/-- The slot inside. -/
def slot : Switched σ → σ
  | plain s => s
  | switching _ inner => inner.slot

def map (f : σ → τ) : Switched σ → Switched τ
  | plain s => plain (f s)
  | switching restoring inner => switching restoring (inner.map f)

/-- The flag as the slot leaves it. -/
def leaves (flag : Bool) : Switched σ → Bool
  | plain _ => flag
  | switching restoring inner => inner.leaves restoring

variable [Slot σ ω]

def capture : Switched σ → Bool × ω → Field × Bool × ω
  | plain s, (flag, shared) =>
    let (field, shared) := Slot.capture s shared
    (field, flag, shared)
  | switching restoring inner, (_, shared) => inner.capture (restoring, shared)

def restore : Switched σ → Field → Bool × ω → Switched σ × Bool × ω
  | plain s, field, (flag, shared) =>
    let (s, shared) := Slot.restore s field shared
    (plain s, flag, shared)
  | switching restoring inner, field, (_, shared) =>
    let (inner, state) := inner.restore field (restoring, shared)
    (switching restoring inner, state)

instance : Slot (Switched σ) (Bool × ω) where
  kind s state := Slot.kind s.slot state.2
  capture := capture
  restore := restore

end Switched

end Repaint
