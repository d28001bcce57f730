import Repaint.Field.Basic
import Repaint.Hash.XxHash32

/-!
The layout of a slot list is its sequence of kinds. A fingerprint of its description stands
beside a buffer, so that a reordered list is told apart even where it reads the same number of
bytes. The description keeps the low four bytes of a width, and equal fingerprints may still
come from different descriptions.
-/

set_option autoImplicit false

namespace Repaint

/-- One byte for the kind, and the width after it where there is one. -/
def Kind.tagged : Kind → Bytes
  | .scalar width => 0 :: LittleEndian.digits 4 width
  | .text => [1]
  | .texts => [2]

namespace Layout

def describe (kinds : List Kind) : Bytes := kinds.flatMap Kind.tagged

/-- The letters DRAW as a word. -/
def seed : UInt32 := 0x57415244

def fingerprint (kinds : List Kind) : UInt32 := XxHash32.hash seed (describe kinds)

end Layout

end Repaint
