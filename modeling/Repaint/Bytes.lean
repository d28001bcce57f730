/-!
Buffers are lists of bytes, and a number stands in them least significant byte first.
Writing keeps the low bytes of a number too large for its width; that a number fits is
for the writer to say.
-/

set_option autoImplicit false

namespace Repaint

abbrev Bytes := List UInt8

namespace LittleEndian

/-- The `width` low bytes of a number. -/
def digits : Nat → Nat → Bytes
  | 0, _ => []
  | width + 1, n => UInt8.ofNat n :: digits width (n / 256)

def value : Bytes → Nat
  | [] => 0
  | b :: bs => b.toNat + 256 * value bs

end LittleEndian

end Repaint
