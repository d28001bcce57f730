import Repaint.Text.Unicode.DefaultIgnorable
import Repaint.Text.Unicode.GraphemeExtend
import Repaint.Text.Unicode.NonGraphic

/-!
The quoted form of a text shows every character on one line. Six characters have escapes of
their own; a character without a graphic form, one that shows nothing by default, or one that
would attach to the character before it, is shown by its number; an apostrophe stands for
itself.
-/

set_option autoImplicit false

namespace Repaint.Text

/-- A character by its number, in hexadecimal digits without leading zeros. -/
def numbered (c : Char) : List Char :=
  '\\' :: 'u' :: '\x7b' :: (Nat.toDigits 16 c.toNat ++ ['\x7d'])

/-- The halfwidth sound marks extend a grapheme, and yet each is a letter with a place of its
own. -/
def isSoundMark (c : Char) : Bool := c == '\uff9e' || c == '\uff9f'

/-- The character can be seen, and seen as one of its own. -/
def isPlain (c : Char) : Bool :=
  Unicode.isGraphic c && !Unicode.isDefaultIgnorable c &&
    (!Unicode.isGraphemeExtend c || isSoundMark c)

def escape (c : Char) : List Char :=
  match c with
  | '\x00' => ['\\', '0']
  | '\t' => ['\\', 't']
  | '\r' => ['\\', 'r']
  | '\n' => ['\\', 'n']
  | '"' => ['\\', '"']
  | '\\' => ['\\', '\\']
  | _ => if isPlain c then [c] else numbered c

def quote (s : String) : String :=
  String.ofList ('"' :: (s.toList.flatMap escape ++ ['"']))

end Repaint.Text
