import Repaint.Key
import Repaint.Narrow
import Repaint.Timestamp

/-!
Keys, positions and timestamps as plain data. A key is a string, a timestamp an integer, and a
position a record of two integers; a list of exactly two integers is taken for a position as
well. Other members of a record are passed over, and a number that is not written as an integer
is never taken for one.
-/

set_option autoImplicit false

namespace Repaint

inductive Datum where
  | null
  | bool (b : Bool)
  | int (n : Int)
  | real
  | string (s : String)
  | list (items : List Datum)
  | record (members : List (String × Datum))
  deriving Inhabited

namespace Datum

def int32? : Datum → Option Int32
  | int n => Narrow.int32? n
  | _ => none

def int64? : Datum → Option Int64
  | int n => Narrow.int64? n
  | _ => none

end Datum

def Key.ofDatum? : Datum → Option Key
  | .string s => some ⟨s⟩
  | _ => none

def Key.toDatum (key : Key) : Datum := .string key.text

def Timestamp.ofDatum? (datum : Datum) : Option Timestamp :=
  datum.int64?.map Timestamp.ofSeconds

def Timestamp.toDatum (t : Timestamp) : Datum := .int t.seconds.toInt

namespace Coord

private def ofParts? (x y : Datum) : Option Coord :=
  match x.int32?, y.int32? with
  | some x, some y => some ⟨x, y⟩
  | _, _ => none

def ofDatum? : Datum → Option Coord
  | .list [x, y] => ofParts? x y
  | .record members =>
    match members.lookup "x", members.lookup "y" with
    | some x, some y => ofParts? x y
    | _, _ => none
  | _ => none

def toDatum (c : Coord) : Datum := .record [("x", .int c.x.toInt), ("y", .int c.y.toInt)]

end Coord

end Repaint
