import Repaint.Coord
import Repaint.Text.Utf8
import Std.Data.ExtTreeMap

/-!
A key is the text under which a buffer is stored, and keys are ordered by their UTF-8 bytes.
A name, a key, a position and a pair of numbers can each identify an entry; a position stands
for its text, so it shares its entry with the name spelled that way.
-/

set_option autoImplicit false

namespace Repaint

structure Key where
  text : String
  deriving DecidableEq

namespace Key

def bytes (k : Key) : Bytes := Text.bytes k.text

def length (k : Key) : Nat := k.text.utf8ByteSize

def coord? (k : Key) : Option Coord := (Coord.parse k.text).toOption

instance : Ord Key where
  compare a b := compare a.bytes b.bytes

theorem bytes_injective {a b : Key} (h : a.bytes = b.bytes) : a = b := by
  have hb : Text.ofBytes? a.bytes = some b.text := Text.ofBytes?_eq_some_iff.mpr h
  have ha : Text.ofBytes? a.bytes = some a.text := Text.ofBytes?_eq_some_iff.mpr rfl
  cases a
  cases b
  simp_all

instance : Std.TransOrd Key where
  eq_swap {a b} := by
    show compare a.bytes b.bytes = (compare b.bytes a.bytes).swap
    exact Std.OrientedOrd.eq_swap
  isLE_trans {a b c} := by
    show (compare a.bytes b.bytes).isLE → (compare b.bytes c.bytes).isLE →
      (compare a.bytes c.bytes).isLE
    exact Std.TransOrd.isLE_trans

instance : Std.LawfulEqOrd Key where
  compare_self {a} := by
    show compare a.bytes a.bytes = .eq
    exact Std.ReflOrd.compare_self
  eq_of_compare {a b} h := bytes_injective (Std.LawfulEqOrd.eq_of_compare h)

end Key

inductive Identity where
  | name (text : String)
  | key (key : Key)
  | coord (position : Coord)
  | pair (x y : Int32)
  deriving DecidableEq

def Identity.canonical : Identity → Key
  | name text => ⟨text⟩
  | key k => k
  | coord position => ⟨position.text⟩
  | pair x y => ⟨(Coord.mk x y).text⟩

end Repaint
