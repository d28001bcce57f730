import Repaint.Narrow
import Repaint.Text.Decimal

/-!
A tile position on the display grid, and its one written form: both numbers in decimal with a
comma between them. Reading refuses every other spelling of the same numbers, so a position
and its text determine each other.
-/

set_option autoImplicit false

namespace Repaint

structure Coord where
  x : Int32
  y : Int32
  deriving DecidableEq, Inhabited

namespace Coord

/-- Rows come before columns. -/
instance : Ord Coord where
  compare a b := (compare a.y b.y).then (compare a.x b.x)

def text (c : Coord) : String :=
  String.ofList (Text.Decimal.ofInt c.x.toInt ++ ',' :: Text.Decimal.ofInt c.y.toInt)

def describe (c : Coord) : String := "(" ++ c.text ++ ")"

/-- Why a text names no position. -/
inductive Refusal where
  | malformed (text : String)
  | notCanonical (text : String)
  deriving DecidableEq

def Refusal.message : Refusal → String
  | malformed text => "'" ++ text ++ "' is not of the form \"x,y\""
  | notCanonical text => "'" ++ text ++ "' is not a canonical coordinate"

def number? (cs : List Char) : Option Int32 := (Text.Decimal.int? cs).bind Narrow.int32?

/-- The numbers on both sides of the first comma, in any spelling. -/
def numbers? (cs : List Char) : Option Coord :=
  match cs.dropWhile (· != ',') with
  | [] => none
  | _ :: after =>
    match number? (cs.takeWhile (· != ',')), number? after with
    | some x, some y => some ⟨x, y⟩
    | _, _ => none

def parse (s : String) : Except Refusal Coord :=
  match numbers? s.toList with
  | none => .error (.malformed s)
  | some c => if c.text = s then .ok c else .error (.notCanonical s)

end Coord

end Repaint
