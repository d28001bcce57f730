/-!
Integers in a fixed width. An integer outside the width has no narrow form; none is wrapped
or clamped.
-/

set_option autoImplicit false

namespace Repaint.Narrow

def int32? (n : Int) : Option Int32 :=
  if Int32.minValue.toInt ≤ n ∧ n ≤ Int32.maxValue.toInt then some (Int32.ofInt n) else none

def int64? (n : Int) : Option Int64 :=
  if Int64.minValue.toInt ≤ n ∧ n ≤ Int64.maxValue.toInt then some (Int64.ofInt n) else none

end Repaint.Narrow
