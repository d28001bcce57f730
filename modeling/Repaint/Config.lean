/-!
How a store treats a restore that finds nothing or fails. A change names some of the settings
and leaves the others as they are.
-/

set_option autoImplicit false

namespace Repaint

/-- How loudly a restore of an unknown key is reported. -/
inductive MissReport where
  | warn
  | debug
  | silent
  deriving DecidableEq, Inhabited

/-- What a failing restore does to the slots before the failure: a permissive one leaves them
restored, a strict one touches no slot. -/
inductive Policy where
  | permissive
  | strict
  deriving DecidableEq, Inhabited

structure Config where
  miss : MissReport := .warn
  policy : Policy := .permissive
  checkLayout : Bool := true
  deriving DecidableEq

instance : Inhabited Config := ⟨{}⟩

namespace Config

structure Change where
  miss? : Option MissReport := none
  policy? : Option Policy := none
  checkLayout? : Option Bool := none
  deriving DecidableEq

def apply (config : Config) (change : Change) : Config where
  miss := change.miss?.getD config.miss
  policy := change.policy?.getD config.policy
  checkLayout := change.checkLayout?.getD config.checkLayout

end Config

end Repaint
