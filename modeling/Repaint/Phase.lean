/-!
Drawing happens in two passes. The restoring pass paints with the values cached before, and the
capturing pass caches the values it paints. A value that only the screen needs is worked out in
the restoring pass alone.
-/

set_option autoImplicit false

namespace Repaint

inductive Phase where
  | capture
  | restore
  deriving DecidableEq, Inhabited

namespace Phase

def isRestoring : Phase → Bool
  | capture => false
  | restore => true

def ofRestoring (restoring : Bool) : Phase := if restoring then restore else capture

/-- The live value when restoring; when capturing it is not asked for, and the blank stands in. -/
def drawOnly {m : Type → Type} {α : Type} [Monad m] (phase : Phase) (blank : α) (live : m α) :
    m α :=
  match phase with
  | capture => pure blank
  | restore => live

/-- The value drawn, and whether the live one was asked for. -/
def drawOnlyNoting {α : Type} (phase : Phase) (blank live : α) : α × Bool :=
  (phase.drawOnly blank (do set true; return live) : StateM Bool α).run false

theorem ofRestoring_isRestoring (phase : Phase) : ofRestoring phase.isRestoring = phase := by
  cases phase <;> rfl

theorem isRestoring_ofRestoring (restoring : Bool) :
    (ofRestoring restoring).isRestoring = restoring := by
  cases restoring <;> rfl

end Phase

end Repaint
