import Repaint.Field.Cursor
import Repaint.Layout
import Repaint.Log
import Repaint.Phase
import Repaint.Slot.Basic
import Repaint.Store.Basic

/-!
The cache call. Capturing replaces the entry under the key by the fields of the slots.
Restoring goes through the slots once, asking each for its kind and reading a field of that kind,
and judges the reading. A permissive restore writes each field before it asks the next slot, which
may thus answer by what has been written; a strict one writes only after a sound verdict. Neither
looks at the bytes beyond the kinds asked for.
-/

set_option autoImplicit false

namespace Repaint

inductive Outcome where
  | saved (length : Nat)
  | restored (length : Nat)
  | miss
  deriving DecidableEq

/-- What a cache call hands back besides the store. -/
structure Reply (σ ω : Type) where
  result : Except CacheError Outcome
  slots : List σ
  shared : ω
  events : List Event
  /-- How often fields that were read have been thrown away. -/
  discards : Nat

def CacheError.ofFault (key : Key) (slot offset : Nat) : Fault → CacheError
  | .underrun needed remaining => .underrun key slot offset needed remaining
  | .malformedText =>
    .decode ("slot " ++ toString slot ++ " of '" ++ key.text ++ "' holds invalid UTF-8")

/-- What a reading of an entry comes to. -/
inductive Verdict where
  | faulty (error : CacheError)
  | drifted (error : CacheError)
  | sound
  deriving DecidableEq

namespace Verdict

def result (entry : Entry) : Verdict → Except CacheError Outcome
  | faulty error => .error error
  | drifted error => .error error
  | sound => .ok (.restored entry.data.length)

/-- A fault in the first slot leaves nothing to throw away; drift always counts. -/
def discards (reading : Reading) : Verdict → Nat
  | faulty _ => if reading.fields.isEmpty then 0 else 1
  | drifted _ => 1
  | sound => 0

def event (key : Key) (entry : Entry) (restored slots : Nat) : Verdict → Event
  | faulty error => .failed key entry.data.length restored slots error
  | drifted error => .drifted error
  | sound => .restored key slots

end Verdict

variable {σ ω : Type} [Slot σ ω]

/-- What becomes of a slot and the shared state when a field has been read for the slot: a
permissive restore writes it at once, a strict one keeps it. -/
def Policy.hand (policy : Policy) (slot : σ) (field : Field) (shared : ω) : σ × ω :=
  match policy with
  | permissive => Slot.restore slot field shared
  | strict => (slot, shared)

/-- How far a restore came with its slots, and what it has made of them by then. -/
structure Sweep (σ ω : Type) where
  reading : Reading
  slots : List σ
  shared : ω

/-- Each slot is asked for its kind only when the slots before it have been dealt with. -/
def Cursor.sweep (policy : Policy) (c : Cursor) : List σ → ω → Sweep σ ω
  | [], shared => ⟨⟨[], c.offset, none⟩, [], shared⟩
  | slot :: slots, shared =>
    match c.next (Slot.kind slot shared) with
    | (.error fault, c) => ⟨⟨[], c.offset, some fault⟩, slot :: slots, shared⟩
    | (.ok field, c) =>
      let (slot, shared) := policy.hand slot field shared
      let swept := c.sweep policy slots shared
      { swept with
        reading := { swept.reading with fields := field :: swept.reading.fields }
        slots := slot :: swept.slots }

namespace Entry

/-- The bytes left over come before the layout; `kinds` are those of the slots when judged. -/
def judge (entry : Entry) (key : Key) (checkLayout : Bool) (reading : Reading)
    (kinds : List Kind) : Verdict :=
  match reading.fault? with
  | some fault => .faulty (.ofFault key reading.fields.length reading.offset fault)
  | none =>
    if reading.offset ≠ entry.data.length then
      .drifted (.lengthMismatch key reading.offset entry.data.length)
    else if checkLayout && Layout.fingerprint kinds != entry.layout then
      .drifted (.layoutMismatch key)
    else .sound

def sweep (entry : Entry) (policy : Policy) (slots : List σ) (shared : ω) : Sweep σ ω :=
  (Cursor.start entry.data).sweep policy slots shared

/-- Writes what could be read, and judges the reading by the slots as written. -/
def restorePermissive (entry : Entry) (key : Key) (checkLayout : Bool) (slots : List σ)
    (shared : ω) : Reply σ ω :=
  let swept := entry.sweep .permissive slots shared
  let verdict := entry.judge key checkLayout swept.reading (Slot.kinds swept.slots swept.shared)
  { result := verdict.result entry, slots := swept.slots, shared := swept.shared
    events := [verdict.event key entry swept.reading.fields.length slots.length], discards := 0 }

/-- Writes all the fields or none of them. -/
def restoreStrict (entry : Entry) (key : Key) (checkLayout : Bool) (slots : List σ)
    (shared : ω) : Reply σ ω :=
  let swept := entry.sweep .strict slots shared
  let verdict := entry.judge key checkLayout swept.reading (Slot.kinds swept.slots swept.shared)
  let written :=
    if verdict = .sound then Slot.restoreAll swept.slots swept.reading.fields swept.shared
    else (swept.slots, swept.shared)
  { result := verdict.result entry, slots := written.1, shared := written.2
    events := [verdict.event key entry 0 slots.length]
    discards := verdict.discards swept.reading }

end Entry

def MissReport.events (key : Key) : MissReport → List Event
  | warn => [.missWarned key]
  | debug => [.missNoted key]
  | silent => []

namespace Store

def save (store : Store) (key : Key) (slots : List σ) (shared : ω) : Reply σ ω × Store :=
  let (fields, shared) := Slot.captureAll slots shared
  let data := Field.writeAll [] fields
  let reply : Reply σ ω :=
    { result := .ok (.saved data.length), slots, shared
      events := [.saved key slots.length data.length], discards := 0 }
  (reply, store.insert key ⟨Layout.fingerprint (Slot.kinds slots shared), data⟩)

def restore (store : Store) (key : Key) (slots : List σ) (shared : ω) : Reply σ ω :=
  match store.entry? key with
  | none =>
    { result := .ok .miss, slots, shared, events := store.config.miss.events key, discards := 0 }
  | some entry =>
    match store.config.policy with
    | .permissive => entry.restorePermissive key store.config.checkLayout slots shared
    | .strict => entry.restoreStrict key store.config.checkLayout slots shared

def cache (store : Store) (phase : Phase) (key : Key) (slots : List σ) (shared : ω) :
    Reply σ ω × Store :=
  match phase with
  | .capture => store.save key slots shared
  | .restore => (store.restore key slots shared, store)

end Store

end Repaint
