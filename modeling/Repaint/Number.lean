import Repaint.Bytes

/-!
Numbers of fixed width, known by their format and their bits. Integer formats read the bits as
a number; a float is carried by its bits and never computed with, so every pattern survives.
-/

set_option autoImplicit false

namespace Repaint

inductive NumberFormat where
  | int8
  | int16
  | int32
  | int64
  | int128
  | uint8
  | uint16
  | uint32
  | uint64
  | uint128
  | float32
  | float64
  | timestamp
  deriving DecidableEq

namespace NumberFormat

/-- The width in bytes. -/
def width : NumberFormat → Nat
  | int8 => 1
  | int16 => 2
  | int32 => 4
  | int64 => 8
  | int128 => 16
  | uint8 => 1
  | uint16 => 2
  | uint32 => 4
  | uint64 => 8
  | uint128 => 16
  | float32 => 4
  | float64 => 8
  | timestamp => 8

def isFloat : NumberFormat → Bool
  | float32 => true
  | float64 => true
  | _ => false

def isSigned : NumberFormat → Bool
  | int8 => true
  | int16 => true
  | int32 => true
  | int64 => true
  | int128 => true
  | timestamp => true
  | _ => false

end NumberFormat

structure Number where
  format : NumberFormat
  bits : BitVec (8 * format.width)
  deriving DecidableEq

namespace Number

def zero (format : NumberFormat) : Number := ⟨format, 0⟩

/-- The integer congruent to `n` that the format can hold. -/
def ofInt (format : NumberFormat) (n : Int) : Number := ⟨format, BitVec.ofInt _ n⟩

/-- The integer the bits stand for; a float stands for none. -/
def int? (n : Number) : Option Int :=
  if n.format.isFloat then none
  else if n.format.isSigned then some n.bits.toInt
  else some n.bits.toNat

def bytes (n : Number) : Bytes := LittleEndian.digits n.format.width n.bits.toNat

def ofBytes (format : NumberFormat) (bs : Bytes) : Number :=
  ⟨format, BitVec.ofNat _ (LittleEndian.value bs)⟩

end Number

end Repaint
