import Repaint.Slot.Cell

/-!
A place is a cell or a slot of one's own. The latter captures the field it holds, whatever kind
it says it has, and keeps any field it is given.
-/

set_option autoImplicit false

namespace Repaint

inductive Place where
  | cell (cell : Cell)
  | custom (value : Field) (kind? : Option Kind)
  deriving DecidableEq

namespace Place

def kind : Place → Kind
  | cell c => c.kind
  | custom value kind? => kind?.getD value.kind

instance : Slot Place (List Mismatch) where
  kind place _ := place.kind
  capture
    | cell c, alarms => Slot.capture c alarms
    | custom value _, alarms => (value, alarms)
  restore
    | cell c, field, alarms =>
      let (c, alarms) := Slot.restore c field alarms
      (cell c, alarms)
    | custom _ kind?, field, alarms => (custom field kind?, alarms)

end Place

end Repaint
