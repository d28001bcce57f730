import Repaint.Bytes

/-!
The 32-bit xxHash of a byte string. Whole stripes of sixteen bytes go through four lanes, what
is left over goes in word by word and then byte by byte, and a last mixing spreads the bits.
No resistance to collisions is claimed.
-/

set_option autoImplicit false

namespace Repaint.XxHash32

def prime1 : UInt32 := 0x9E3779B1
def prime2 : UInt32 := 0x85EBCA77
def prime3 : UInt32 := 0xC2B2AE3D
def prime4 : UInt32 := 0x27D4EB2F
def prime5 : UInt32 := 0x165667B1

def rotate (w n : UInt32) : UInt32 := (w <<< n) ||| (w >>> (32 - n))

/-- The first four bytes as a word. -/
def word (bs : Bytes) : UInt32 := UInt32.ofNat (LittleEndian.value (bs.take 4))

structure Lanes where
  first : UInt32
  second : UInt32
  third : UInt32
  fourth : UInt32

def Lanes.start (seed : UInt32) : Lanes :=
  ⟨seed + prime1 + prime2, seed + prime2, seed, seed - prime1⟩

def mix (lane w : UInt32) : UInt32 := rotate (lane + w * prime2) 13 * prime1

/-- Sixteen bytes, a word to each lane. -/
def Lanes.absorb (lanes : Lanes) (bs : Bytes) : Lanes :=
  ⟨mix lanes.first (word bs), mix lanes.second (word (bs.drop 4)),
    mix lanes.third (word (bs.drop 8)), mix lanes.fourth (word (bs.drop 12))⟩

def Lanes.absorbStripes (lanes : Lanes) : Nat → Bytes → Lanes
  | 0, _ => lanes
  | stripes + 1, bs => (lanes.absorb bs).absorbStripes stripes (bs.drop 16)

def Lanes.merge (lanes : Lanes) : UInt32 :=
  rotate lanes.first 1 + rotate lanes.second 7 + rotate lanes.third 12 + rotate lanes.fourth 18

/-- The bytes after the last whole stripe. -/
def absorbTail (h : UInt32) : Bytes → UInt32
  | a :: b :: c :: d :: rest =>
    absorbTail (rotate (h + word [a, b, c, d] * prime3) 17 * prime4) rest
  | b :: rest => absorbTail (rotate (h + b.toUInt32 * prime5) 11 * prime1) rest
  | [] => h

def avalanche (h : UInt32) : UInt32 :=
  let h := (h ^^^ (h >>> 15)) * prime2
  let h := (h ^^^ (h >>> 13)) * prime3
  h ^^^ (h >>> 16)

def hash (seed : UInt32) (bs : Bytes) : UInt32 :=
  let stripes := bs.length / 16
  let head :=
    if stripes = 0 then seed + prime5
    else ((Lanes.start seed).absorbStripes stripes bs).merge
  avalanche (absorbTail (head + UInt32.ofNat bs.length) (bs.drop (16 * stripes)))

end Repaint.XxHash32
