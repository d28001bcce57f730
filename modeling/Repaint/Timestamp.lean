import Repaint.Number

/-!
A moment in whole seconds, before or after the epoch. It is drawn as a signed number of eight
bytes. No clock is read here.
-/

set_option autoImplicit false

namespace Repaint

structure Timestamp where
  seconds : Int64
  deriving DecidableEq, Inhabited

namespace Timestamp

def ofSeconds (seconds : Int64) : Timestamp := ⟨seconds⟩

def number (t : Timestamp) : Number := ⟨.timestamp, t.seconds.toBitVec⟩

instance : Ord Timestamp where
  compare a b := compare a.seconds b.seconds

end Timestamp

end Repaint
