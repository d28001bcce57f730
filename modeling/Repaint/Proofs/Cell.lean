import Repaint.Bytes.Lemmas
import Repaint.Proofs.Restoring
import Repaint.Slot.Place

/-!
The slots that come with the library capture what their kind says and keep it, whatever becomes
of the slots around them, and a captured value goes into any variable of its type, bit for bit. A
slot of one's own that is told its kind keeps it as well; what it captures is up to it.
-/

set_option autoImplicit false

namespace Repaint

namespace Number

theorem value_bytes (n : Number) : LittleEndian.value n.bytes = n.bits.toNat := by
  have hbits : n.bits.toNat < 256 ^ n.format.width := by
    rw [show (256 : Nat) = 2 ^ 8 by decide, ← Nat.pow_mul]
    exact n.bits.isLt
  rw [bytes, LittleEndian.value_digits, Nat.mod_eq_of_lt hbits]

/-- The bytes of a number determine its bits, a float's as well as an integer's. -/
theorem ofBytes_bytes (n : Number) : ofBytes n.format n.bytes = n := by
  rw [ofBytes, value_bytes]
  simp

theorem length_bytes (n : Number) : n.bytes.length = n.format.width :=
  LittleEndian.length_digits n.format.width n.bits.toNat

end Number

namespace Cell

theorem kind_blank (cell : Cell) : cell.blank.kind = cell.kind := by
  cases cell <;> rfl

theorem kind_field (cell : Cell) : cell.field.kind = cell.kind := by
  cases cell with
  | number n => exact congrArg Kind.scalar n.length_bytes
  | bool b => rfl
  | text content => rfl
  | texts entries => rfl

private theorem number_assign_field {n m : Number} (h : m.format = n.format) :
    (number m).assign (number n).field = .ok (number n) := by
  have hlen : n.bytes.length = m.format.width := by rw [h, n.length_bytes]
  show (if n.bytes.length = m.format.width then
    Except.ok (number (Number.ofBytes m.format n.bytes)) else _) = _
  rw [if_pos hlen, h, n.ofBytes_bytes]

/-- Cells of one type have one blank, and any of them takes the value of any other. -/
theorem assign_field {cell fresh : Cell} (h : fresh.blank = cell.blank) :
    fresh.assign cell.field = .ok cell := by
  cases cell with
  | number n =>
    cases fresh with
    | number m =>
      have hzero : Number.zero m.format = Number.zero n.format := number.inj h
      exact number_assign_field (Number.mk.inj hzero).1
    | _ => cases h
  | bool b =>
    cases fresh with
    | bool b' => cases b <;> rfl
    | _ => cases h
  | text content =>
    cases fresh with
    | text content' => rfl
    | _ => cases h
  | texts entries =>
    cases fresh with
    | texts entries' => rfl
    | _ => cases h

theorem kind_assign {cell cell' : Cell} {field : Field} (h : cell.assign field = .ok cell') :
    cell'.kind = cell.kind := by
  unfold assign at h
  split at h
  · split at h <;> cases h
    rfl
  all_goals cases h
  all_goals rfl

theorem restore_eq (cell : Cell) (field : Field) (alarms : List Mismatch) :
    Slot.restore cell field alarms =
      match cell.assign field with
      | .ok cell => (cell, alarms)
      | .error mismatch => (cell, alarms ++ [mismatch]) := rfl

/-- A cell takes any field of its kind. -/
theorem assign_of_kind {cell : Cell} {field : Field} (h : field.kind = cell.kind) :
    ∃ cell', cell.assign field = .ok cell' := by
  cases cell with
  | number n =>
    cases field with
    | scalar bs =>
      have hlen : bs.length = n.format.width := Kind.scalar.inj h
      exact ⟨number (Number.ofBytes n.format bs), if_pos hlen⟩
    | _ => cases h
  | bool b =>
    cases field with
    | scalar bs =>
      obtain ⟨x, rfl⟩ := List.length_eq_one_iff.mp (Kind.scalar.inj h)
      exact ⟨bool (x != 0), rfl⟩
    | _ => cases h
  | text content =>
    cases field with
    | text content' => exact ⟨text content', rfl⟩
    | _ => cases h
  | texts entries =>
    cases field with
    | texts entries' => exact ⟨texts entries', rfl⟩
    | _ => cases h

section Embedded

variable {σ ω : Type} [Slot σ ω]

/-- Cells are among the slots: what a cell is turned into does as the cell does, and leaves the
state that the slots share alone. -/
structure Embedded (embed : Cell → σ) : Prop where
  kind_eq : ∀ cell (shared : ω), Slot.kind (embed cell) shared = cell.kind
  capture_eq : ∀ cell (shared : ω), Slot.capture (embed cell) shared = (cell.field, shared)
  restore_eq : ∀ {cell cell' : Cell} {field : Field}, cell.assign field = .ok cell' →
    ∀ shared : ω, Slot.restore (embed cell) field shared = (embed cell', shared)

variable {embed : Cell → σ}

theorem Embedded.kinds (h : Embedded embed) (cells : List Cell) (shared : ω) :
    Slot.kinds (cells.map embed) shared = cells.map Cell.kind := by
  rw [Slot.kinds, List.map_map]
  exact List.map_congr_left fun cell _ => h.kind_eq cell shared

/-- Cells capture what their kinds say. -/
theorem Embedded.captureAll (h : Embedded embed) (cells : List Cell) (shared : ω) :
    Slot.captureAll (cells.map embed) shared = (cells.map field, shared) := by
  induction cells with
  | nil => rfl
  | cons cell cells ih => simp only [List.map_cons, Slot.captureAll, h.capture_eq, ih]

theorem Embedded.savedKinds (h : Embedded embed) (cells : List Cell) (shared : ω) :
    Slot.savedKinds (cells.map embed) shared = cells.map Cell.kind :=
  h.kinds cells _

theorem Embedded.honest (h : Embedded embed) (cells : List Cell) (shared : ω) :
    Slot.Honest (cells.map embed) shared := by
  rw [Slot.Honest, h.captureAll, h.savedKinds, List.map_map]
  exact List.map_congr_left fun cell _ => cell.kind_field

theorem Embedded.ownsKind (h : Embedded embed) (cell : Cell) : Slot.OwnsKind (embed cell) where
  kind_eq shared later := by rw [h.kind_eq, h.kind_eq]
  kind_restore field shared later hkind := by
    rw [h.kind_eq] at hkind ⊢
    obtain ⟨cell', hassign⟩ := assign_of_kind hkind
    rw [h.restore_eq hassign, h.kind_eq, kind_assign hassign]

theorem Embedded.keepsKinds (h : Embedded embed) (store : Store) (key : Key) (cells : List Cell)
    (shared : ω) : store.KeepsKinds key (cells.map embed) shared :=
  Store.keepsKinds_of_owned (List.forall_mem_map.mpr fun cell _ => h.ownsKind cell) store key shared

theorem Embedded.told (h : Embedded embed) (store : Store) (key : Key) (cells : List Cell)
    (shared : ω) : store.told key (cells.map embed) shared = cells.map Cell.kind :=
  (Store.told_of_keepsKinds (h.keepsKinds store key cells shared)).trans (h.kinds cells shared)

/-- Cells given the fields of others of their types become the others. -/
theorem Embedded.restoreAll (h : Embedded embed) {fresh cells : List Cell}
    (htypes : fresh.map blank = cells.map blank) (shared : ω) :
    Slot.restoreAll (fresh.map embed) (cells.map field) shared = (cells.map embed, shared) := by
  induction cells generalizing fresh with
  | nil =>
    obtain rfl := List.map_eq_nil_iff.mp htypes
    rfl
  | cons cell cells ih =>
    obtain ⟨first, rest, rfl, hfirst, hrest⟩ := List.map_eq_cons_iff.mp htypes
    have hassign : first.assign cell.field = .ok cell := assign_field hfirst
    simp only [List.map_cons, Slot.restoreAll, h.restore_eq hassign, ih hrest]

end Embedded

end Cell

theorem Place.embedded : Cell.Embedded Place.cell where
  kind_eq _ _ := rfl
  capture_eq _ _ := rfl
  restore_eq {cell cell' field} hassign alarms := by
    show (Place.cell (Slot.restore cell field alarms).1, (Slot.restore cell field alarms).2) = _
    rw [Cell.restore_eq, hassign]

theorem Place.ownsKind (place : Place) : Slot.OwnsKind place := by
  cases place with
  | cell cell => exact Place.embedded.ownsKind cell
  | custom value kind? =>
    refine ⟨fun _ _ => rfl, fun field shared later hkind => ?_⟩
    cases kind? with
    | none => exact hkind
    | some kind => rfl

theorem Place.keepsKinds (store : Store) (key : Key) (places : List Place)
    (alarms : List Mismatch) : store.KeepsKinds key places alarms :=
  Store.keepsKinds_of_owned (fun place _ => place.ownsKind) store key alarms

/-- Places tell the kinds that they have before the call. -/
theorem Place.told (store : Store) (key : Key) (places : List Place) (alarms : List Mismatch) :
    store.told key places alarms = places.map Place.kind :=
  Store.told_of_keepsKinds (Place.keepsKinds store key places alarms)

end Repaint
