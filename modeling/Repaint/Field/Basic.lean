import Repaint.Text.Utf8

/-!
A field is one drawn value in the form in which it is stored: a scalar of some byte width, a
text, or a list of texts. Its kind is all that a reader of a buffer has to know beforehand.
-/

set_option autoImplicit false

namespace Repaint

inductive Kind where
  | scalar (width : Nat)
  | text
  | texts
  deriving DecidableEq

inductive Field where
  /-- The little-endian bytes of a fixed-width value. -/
  | scalar (bytes : Bytes)
  | text (content : String)
  | texts (entries : List String)
  deriving DecidableEq

/-- The spelling of a kind in messages. -/
def Kind.describe : Kind → String
  | .scalar width => "Scalar \x7b width: " ++ toString width ++ " \x7d"
  | .text => "Text"
  | .texts => "TextList"

namespace Field

def kind : Field → Kind
  | scalar bytes => .scalar bytes.length
  | text _ => .text
  | texts _ => .texts

def isScalar : Field → Bool
  | scalar _ => true
  | _ => false

def isText : Field → Bool
  | text _ => true
  | _ => false

def isTexts : Field → Bool
  | texts _ => true
  | _ => false

def scalar? : Field → Option Bytes
  | scalar bytes => some bytes
  | _ => none

def text? : Field → Option String
  | text content => some content
  | _ => none

def texts? : Field → Option (List String)
  | texts entries => some entries
  | _ => none

/-- The bytes of a scalar; any other field is handed back. -/
def toScalar : Field → Except Field Bytes
  | scalar bytes => .ok bytes
  | field => .error field

/-- The content of a text; any other field is handed back. -/
def toText : Field → Except Field String
  | text content => .ok content
  | field => .error field

/-- The entries of a list of texts; any other field is handed back. -/
def toTexts : Field → Except Field (List String)
  | texts entries => .ok entries
  | field => .error field

def mapScalar (f : Bytes → Bytes) : Field → Field
  | scalar bytes => scalar (f bytes)
  | field => field

def mapText (f : String → String) : Field → Field
  | text content => text (f content)
  | field => field

def mapTexts (f : List String → List String) : Field → Field
  | texts entries => texts (f entries)
  | field => field

end Field

end Repaint
