import Repaint.Field.Basic

/-!
The stored form of a field. A scalar is its bytes, a text is its length and its UTF-8 bytes,
and a list of texts is its count and its texts; lengths and counts take four bytes. Nothing
stored tells one kind from another, so reading goes by the kind asked for and hands back the
bytes it left over.
-/

set_option autoImplicit false

namespace Repaint

inductive Fault where
  | underrun (needed remaining : Nat)
  | malformedText
  deriving DecidableEq

def Fault.message : Fault → String
  | underrun needed remaining =>
    "need " ++ toString needed ++ " bytes but only " ++ toString remaining ++ " remain"
  | malformedText => "text is not valid UTF-8"

namespace Wire

/-- The width of a length or a count. -/
def countWidth : Nat := 4

def ofCount (n : Nat) : Bytes := LittleEndian.digits countWidth n

def ofText (s : String) : Bytes := ofCount (Text.bytes s).length ++ Text.bytes s

def textLength (s : String) : Nat := countWidth + s.utf8ByteSize

def ofTexts (entries : List String) : Bytes := ofCount entries.length ++ entries.flatMap ofText

def putText (buffer : Bytes) (s : String) : Bytes :=
  buffer ++ ofCount (Text.bytes s).length ++ Text.bytes s

/-- The next `n` bytes and the rest. -/
def take (n : Nat) (bs : Bytes) : Except Fault (Bytes × Bytes) :=
  if (bs.take n).length = n then .ok (bs.take n, bs.drop n) else .error (.underrun n bs.length)

def readCount (bs : Bytes) : Except Fault (Nat × Bytes) :=
  match take countWidth bs with
  | .error fault => .error fault
  | .ok (head, rest) => .ok (LittleEndian.value head, rest)

/-- The body is taken whole before its bytes are looked at. -/
def readText (bs : Bytes) : Except Fault (String × Bytes) :=
  match readCount bs with
  | .error fault => .error fault
  | .ok (length, rest) =>
    match take length rest with
    | .error fault => .error fault
    | .ok (body, rest) =>
      match Text.ofBytes? body with
      | none => .error .malformedText
      | some s => .ok (s, rest)

/-- The entries read before the reading ended, and how it ended. -/
def readTexts : Nat → Bytes → List String × Except Fault Bytes
  | 0, bs => ([], .ok bs)
  | count + 1, bs =>
    match readText bs with
    | .error fault => ([], .error fault)
    | .ok (s, rest) =>
      let (entries, ending) := readTexts count rest
      (s :: entries, ending)

/-- The room set aside for a list before its texts are read from the bytes after the count. -/
def reserved (count : Nat) (bs : Bytes) : Nat := min count (bs.length / countWidth)

end Wire

namespace Field

def encode : Field → Bytes
  | scalar bytes => bytes
  | text content => Wire.ofText content
  | texts entries => Wire.ofTexts entries

def encodeAll (fields : List Field) : Bytes := fields.flatMap encode

/-- Writing goes to the end of a buffer, the entries of a list one after another. -/
def write (buffer : Bytes) : Field → Bytes
  | scalar bytes => buffer ++ bytes
  | text content => Wire.putText buffer content
  | texts entries => entries.foldl Wire.putText (buffer ++ Wire.ofCount entries.length)

def writeAll (buffer : Bytes) (fields : List Field) : Bytes := fields.foldl write buffer

/-- The number of bytes a field takes, told without writing it. -/
def encodedLength : Field → Nat
  | scalar bytes => bytes.length
  | text content => Wire.textLength content
  | texts entries =>
    entries.foldr (fun s length => Wire.textLength s + length) Wire.countWidth

end Field

/-- A field of the kind asked for, from the front of the bytes. -/
def Kind.decode (bs : Bytes) : Kind → Except Fault (Field × Bytes)
  | scalar width =>
    match Wire.take width bs with
    | .error fault => .error fault
    | .ok (head, rest) => .ok (.scalar head, rest)
  | text =>
    match Wire.readText bs with
    | .error fault => .error fault
    | .ok (content, rest) => .ok (.text content, rest)
  | texts =>
    match Wire.readCount bs with
    | .error fault => .error fault
    | .ok (count, rest) =>
      match Wire.readTexts count rest with
      | (_, .error fault) => .error fault
      | (entries, .ok rest) => .ok (.texts entries, rest)

end Repaint
