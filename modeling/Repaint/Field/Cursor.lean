import Repaint.Field.Wire

/-!
A cursor is a position in a buffer. Reading a field moves it past the field, and a fault
leaves it where it was. A reading is what field after field came to, up to the first fault.
-/

set_option autoImplicit false

namespace Repaint

structure Cursor where
  buffer : Bytes
  offset : Nat
  deriving DecidableEq

namespace Cursor

def start (buffer : Bytes) : Cursor := ⟨buffer, 0⟩

/-- The bytes ahead; a position past the end has none. -/
def rest (c : Cursor) : Bytes := c.buffer.drop c.offset

/-- The position after a field is counted from the end of the buffer, so reading nothing from
past the end comes back to the end. -/
def next (c : Cursor) (kind : Kind) : Except Fault Field × Cursor :=
  match kind.decode c.rest with
  | .error fault => (.error fault, c)
  | .ok (field, rest) => (.ok field, { c with offset := c.buffer.length - rest.length })

/-- One field after another, going on after a fault, each with the position it led to. -/
def scan (c : Cursor) : List Kind → List (Except Fault Field × Nat)
  | [] => []
  | kind :: kinds =>
    let (result, c) := c.next kind
    (result, c.offset) :: c.scan kinds

end Cursor

/-- The fields read, the position where reading ended, and the fault that ended it, if any. -/
structure Reading where
  fields : List Field
  offset : Nat
  fault? : Option Fault
  deriving DecidableEq

end Repaint
