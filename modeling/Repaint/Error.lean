import Repaint.Key
import Repaint.Text.Quoted

/-!
What can go wrong between a buffer and the slots it is read into, and what cannot serve as a
key. Each error is known by its cause and its fields; the wording is made from them here.
-/

set_option autoImplicit false

namespace Repaint

inductive CacheError where
  | decode (detail : String)
  | underrun (key : Key) (slot offset needed remaining : Nat)
  | lengthMismatch (key : Key) (consumed stored : Nat)
  | layoutMismatch (key : Key)
  | invalidKey (detail : String)
  deriving DecidableEq

namespace CacheError

def ofRefusal (refusal : Coord.Refusal) : CacheError := .invalidKey refusal.message

/-- Every field was read, and yet the slots are not those that were saved. -/
def isSchemaDrift : CacheError → Bool
  | lengthMismatch .. => true
  | layoutMismatch _ => true
  | _ => false

def message : CacheError → String
  | decode detail => "Decode error (" ++ detail ++ ")"
  | underrun key slot offset needed remaining =>
    "Cached buffer for key '" ++ key.text ++
      "' is corrupt or does not match the slot list: slot " ++ toString slot ++ " needs " ++
      toString needed ++ " bytes at offset " ++ toString offset ++ ", but only " ++
      toString remaining ++ " remain"
  | lengthMismatch key consumed stored =>
    "Schema drift for key '" ++ key.text ++ "': decoded " ++ toString consumed ++
      " bytes but the cached buffer holds " ++ toString stored ++
      ". The slot lists used to save and restore differ."
  | layoutMismatch key =>
    "Schema drift for key '" ++ key.text ++
      "': the slot kinds used to restore differ from the ones used to save"
  | invalidKey detail => "Invalid key (" ++ detail ++ ")"

private def member (name value : String) : String := name ++ ": " ++ value

private def shown (name : String) (members : List String) : String :=
  name ++ " \x7b " ++ ", ".intercalate members ++ " \x7d"

/-- The error with all its fields, texts quoted. -/
def describe : CacheError → String
  | decode detail => "DecodeError(" ++ Text.quote detail ++ ")"
  | underrun key slot offset needed remaining =>
    shown "BufferUnderrun"
      [member "key" (Text.quote key.text), member "slot" (toString slot),
        member "offset" (toString offset), member "needed" (toString needed),
        member "remaining" (toString remaining)]
  | lengthMismatch key consumed stored =>
    shown "LengthMismatch"
      [member "key" (Text.quote key.text), member "consumed" (toString consumed),
        member "stored" (toString stored)]
  | layoutMismatch key => shown "LayoutMismatch" [member "key" (Text.quote key.text)]
  | invalidKey detail => "InvalidKey(" ++ Text.quote detail ++ ")"

end CacheError

end Repaint
