/-!
Integers in decimal. Written, an integer has no sign but a minus and no leading zeros; read, it
may have a sign and any number of leading zeros, so several texts read as one integer.
-/

set_option autoImplicit false

namespace Repaint.Text.Decimal

def ofNat (n : Nat) : List Char := Nat.toDigits 10 n

def ofInt : Int → List Char
  | .ofNat n => ofNat n
  | .negSucc n => '-' :: ofNat (n + 1)

/-- At least one digit and nothing else; only the ten ASCII digits count. -/
def nat? (cs : List Char) : Option Nat :=
  if !cs.isEmpty && cs.all Char.isDigit then some (Nat.ofDigitChars 10 cs 0) else none

def int? : List Char → Option Int
  | '-' :: cs => (nat? cs).map fun n => -(n : Int)
  | '+' :: cs => (nat? cs).map fun n => (n : Int)
  | cs => (nat? cs).map fun n => (n : Int)

end Repaint.Text.Decimal
