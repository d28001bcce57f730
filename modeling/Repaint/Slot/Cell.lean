import Repaint.Number
import Repaint.Slot.Basic

/-!
The drawn variables that come with the library: numbers, truth values, texts and lists of
texts. A field of another kind leaves the variable as it was, and the mismatch is told.
-/

set_option autoImplicit false

namespace Repaint

/-- A field handed to a slot that wanted another kind. -/
structure Mismatch where
  wanted : Kind
  got : Kind
  deriving DecidableEq

namespace Mismatch

def message (m : Mismatch) : String :=
  let slot := match m.wanted with
    | .scalar _ => "scalar"
    | .text => "text"
    | .texts => "text list"
  slot ++ " slot got " ++ m.got.describe

end Mismatch

inductive Cell where
  | number (n : Number)
  | bool (b : Bool)
  | text (content : String)
  | texts (entries : List String)
  deriving DecidableEq

namespace Cell

def kind : Cell → Kind
  | number n => .scalar n.format.width
  | bool _ => .scalar 1
  | text _ => .text
  | texts _ => .texts

/-- Zero, false or empty, in the same type. -/
def blank : Cell → Cell
  | number n => number (Number.zero n.format)
  | bool _ => bool false
  | text _ => text ""
  | texts _ => texts []

def field : Cell → Field
  | number n => .scalar n.bytes
  | bool b => .scalar [if b then 1 else 0]
  | text content => .text content
  | texts entries => .texts entries

/-- Any byte but zero reads as true. -/
def assign : Cell → Field → Except Mismatch Cell
  | number n, .scalar bs =>
    if bs.length = n.format.width then .ok (number (Number.ofBytes n.format bs))
    else .error ⟨.scalar n.format.width, .scalar bs.length⟩
  | bool _, .scalar [b] => .ok (bool (b != 0))
  | text _, .text content => .ok (text content)
  | texts _, .texts entries => .ok (texts entries)
  | cell, other => .error ⟨cell.kind, other.kind⟩

/-- The state that cells share is the list of mismatches so far. -/
instance : Slot Cell (List Mismatch) where
  kind cell _ := cell.kind
  capture cell alarms := (cell.field, alarms)
  restore cell field alarms :=
    match cell.assign field with
    | .ok cell => (cell, alarms)
    | .error mismatch => (cell, alarms ++ [mismatch])

end Cell

end Repaint
