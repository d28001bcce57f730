import Repaint.Error

/-!
What a cache call reports. An event holds the facts of the call; its level and its wording
follow from them.
-/

set_option autoImplicit false

namespace Repaint

inductive Level where
  | trace
  | debug
  | warn
  | error
  deriving DecidableEq

inductive Event where
  | saved (key : Key) (slots bytes : Nat)
  | missWarned (key : Key)
  | missNoted (key : Key)
  /-- A field could not be read; some slots may have been restored by then. -/
  | failed (key : Key) (bytes done slots : Nat) (error : CacheError)
  /-- Every field was read, but from other slots than those saved. -/
  | drifted (error : CacheError)
  | restored (key : Key) (slots : Nat)
  deriving DecidableEq

namespace Event

/-- The part of the program that the records come from. -/
def target : String := "draw_state::store"

def level : Event → Level
  | saved .. => .trace
  | missWarned _ => .warn
  | missNoted _ => .debug
  | failed .. => .error
  | drifted _ => .error
  | restored .. => .trace

def message : Event → String
  | saved key slots bytes =>
    "save " ++ toString slots ++ " slots for '" ++ key.text ++ "' in " ++ toString bytes ++
      " bytes"
  | missWarned key =>
    "restore skipped for '" ++ key.text ++
      "': nothing cached, slots keep their current values"
  | missNoted key => "restore skipped for '" ++ key.text ++ "': nothing cached"
  | failed key bytes done slots error =>
    "restore failed for '" ++ key.text ++ "' (" ++ toString bytes ++ " cached bytes, " ++
      toString done ++ " of " ++ toString slots ++ " slots restored): " ++ error.message
  | drifted error => error.message
  | restored key slots => "restore " ++ toString slots ++ " slots for '" ++ key.text ++ "'"

end Event

end Repaint
