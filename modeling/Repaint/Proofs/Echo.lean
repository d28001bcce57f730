import Repaint.Proofs.Cell

/-!
What a variable makes of a field it is given. A field of its kind comes back when the variable is
captured again, but for a truth value, which keeps of its byte only whether it is zero; a field of
another kind changes nothing and is told. So a captured value goes into any variable of its type as
it was, whatever its bits. An integer is stored as its residue, least significant byte first. What
the bits of a float mean is left open.
-/

set_option autoImplicit false

namespace Repaint

/-- The integer lies between the least and the greatest of the format. -/
def NumberFormat.Holds (format : NumberFormat) (i : Int) : Prop :=
  format.isFloat = false ∧
    if format.isSigned then -2 ^ (8 * format.width - 1) ≤ i ∧ i < 2 ^ (8 * format.width - 1)
    else 0 ≤ i ∧ i < 2 ^ (8 * format.width)

namespace Number

theorem bytes_ofBytes {format : NumberFormat} {bs : Bytes} (h : bs.length = format.width) :
    (ofBytes format bs).bytes = bs := by
  have hvalue : LittleEndian.value bs < 2 ^ (8 * format.width) := by
    rw [Nat.pow_mul, ← h]
    exact LittleEndian.value_lt bs
  have hdigits := LittleEndian.digits_value bs
  rw [h] at hdigits
  show LittleEndian.digits format.width
    (BitVec.ofNat (8 * format.width) (LittleEndian.value bs)).toNat = bs
  rw [BitVec.toNat_ofNat, Nat.mod_eq_of_lt hvalue, hdigits]

theorem int?_ofInt {format : NumberFormat} {i : Int} (h : format.Holds i) :
    (ofInt format i).int? = some i := by
  obtain ⟨hfloat, hrange⟩ := h
  have hwidth : 0 < 8 * format.width := by
    cases format <;> decide
  show (if format.isFloat then none
    else if format.isSigned then some (BitVec.ofInt (8 * format.width) i).toInt
    else some ((BitVec.ofInt (8 * format.width) i).toNat : Int)) = some i
  rw [hfloat, if_neg (by decide)]
  cases hsigned : format.isSigned with
  | true =>
    rw [hsigned, if_pos rfl] at hrange
    rw [if_pos rfl, BitVec.toInt_ofInt_eq_self hwidth hrange.1 hrange.2]
  | false =>
    rw [hsigned, if_neg (by decide)] at hrange
    have hresidue : i % (2 ^ (8 * format.width) : Nat) = i := by
      rw [Int.natCast_pow]
      exact Int.emod_eq_of_lt hrange.1 hrange.2
    rw [if_neg (by decide), BitVec.toNat_ofInt, hresidue, Int.toNat_of_nonneg hrange.1]

/-- The stored bytes tell an integer modulo what their number can tell. -/
theorem value_bytes_ofInt (format : NumberFormat) (i : Int) :
    (LittleEndian.value (ofInt format i).bytes : Int) = i % 2 ^ (8 * format.width) := by
  have hnonneg : 0 ≤ i % (2 ^ (8 * format.width) : Nat) :=
    Int.emod_nonneg i (by exact_mod_cast (Nat.two_pow_pos _).ne')
  rw [value_bytes]
  show ((BitVec.ofInt (8 * format.width) i).toNat : Int) = _
  rw [BitVec.toNat_ofInt, Int.toNat_of_nonneg hnonneg, Int.natCast_pow]
  rfl

end Number

namespace Cell

/-- What the variable captures once it has been given a field of its kind. -/
def echo : Cell → Field → Field
  | bool _, field => field.mapScalar (List.map fun b => if b = 0 then 0 else 1)
  | _, field => field

theorem echo_bool (flag : Bool) (b : UInt8) :
    (bool flag).echo (.scalar [b]) = .scalar [if b = 0 then 0 else 1] := rfl

theorem echo_of_ne_bool {cell : Cell} (h : ∀ flag, cell ≠ bool flag) (field : Field) :
    cell.echo field = field := by
  cases cell with
  | bool flag => exact absurd rfl (h flag)
  | _ => rfl

variable {cell cell' : Cell} {field : Field}

/-- The variable keeps its type. -/
theorem blank_assign (h : cell.assign field = .ok cell') : cell'.blank = cell.blank := by
  unfold assign at h
  split at h
  · split at h <;> cases h
    rfl
  all_goals cases h
  all_goals rfl

theorem field_assign (h : cell.assign field = .ok cell') : cell'.field = cell.echo field := by
  unfold assign at h
  split at h
  · rename_i n bs
    split at h
    · rename_i hlen
      cases h
      exact congrArg Field.scalar (Number.bytes_ofBytes hlen)
    · cases h
  · rename_i flag b
    cases h
    by_cases hzero : b = 0
    · subst hzero
      rfl
    · show Field.scalar [if (b != 0) = true then 1 else 0] = .scalar [if b = 0 then 0 else 1]
      rw [if_pos (bne_iff_ne.mpr hzero), if_neg hzero]
  · cases h
    rfl
  · cases h
    rfl
  · cases h

theorem assign_of_kind_ne (h : field.kind ≠ cell.kind) :
    cell.assign field = .error ⟨cell.kind, field.kind⟩ := by
  cases cell with
  | number n =>
    cases field with
    | scalar bs =>
      have hlen : bs.length ≠ n.format.width := fun hlen => h (congrArg Kind.scalar hlen)
      exact if_neg hlen
    | _ => rfl
  | bool flag =>
    cases field with
    | scalar bs =>
      match bs, h with
      | [], _ => rfl
      | [_], h => exact absurd rfl h
      | _ :: _ :: _, _ => rfl
    | _ => rfl
  | text content =>
    cases field with
    | text content' => exact absurd rfl h
    | _ => rfl
  | texts entries =>
    cases field with
    | texts entries' => exact absurd rfl h
    | _ => rfl

/-- What a variable captures is of its kind. A field of that kind is taken over and captured again,
without a mismatch; any other leaves the variable alone, and the mismatch names its kind. What was
captured makes the same value of any variable of the type, and an integer that its format can hold
is stored as its residue and read as itself. -/
theorem captures_what_it_is_given (cell fresh : Cell) (field : Field) (alarms : List Mismatch) :
    let captured := (Slot.capture cell alarms).1
    let after := Slot.restore cell field alarms
    let kind := Slot.kind cell alarms
    captured.kind = kind ∧
    (field.kind = kind →
      (Slot.capture after.1 after.2).1 = cell.echo field ∧
      Slot.kind after.1 after.2 = kind ∧ after.1.blank = cell.blank ∧ after.2 = alarms) ∧
    (field.kind ≠ kind → ∃ mismatch : Mismatch,
      after = (cell, alarms ++ [mismatch]) ∧
      mismatch.wanted = kind ∧ mismatch.got = field.kind ∧
      mismatch.message = (match kind with
        | .scalar _ => "scalar"
        | .text => "text"
        | .texts => "text list") ++ " slot got " ++ field.kind.describe) ∧
    (fresh.blank = cell.blank → Slot.restore fresh captured alarms = (cell, alarms)) ∧
    (∀ format i, NumberFormat.Holds format i → cell = number (Number.ofInt format i) →
      (∃ bs, captured = .scalar bs ∧ bs.length = format.width ∧
        (LittleEndian.value bs : Int) = i % 2 ^ (8 * format.width)) ∧
      (fresh.blank = cell.blank → ∃ n,
        Slot.restore fresh captured alarms = (number n, alarms) ∧ n.int? = some i)) := by
  intro captured after kind
  have hback : fresh.blank = cell.blank → Slot.restore fresh captured alarms = (cell, alarms) := by
    intro hblank
    have hassign : fresh.assign captured = .ok cell := assign_field hblank
    rw [restore_eq, hassign]
  refine ⟨cell.kind_field, ?_, ?_, hback, ?_⟩
  · intro hkind
    obtain ⟨cell', hassign⟩ := assign_of_kind hkind
    have hafter : after = (cell', alarms) := by
      show Slot.restore cell field alarms = _
      rw [restore_eq, hassign]
    rw [hafter]
    exact ⟨field_assign hassign, kind_assign hassign, blank_assign hassign, rfl⟩
  · intro hkind
    have hafter : after = (cell, alarms ++ [⟨cell.kind, field.kind⟩]) := by
      show Slot.restore cell field alarms = _
      rw [restore_eq, assign_of_kind_ne hkind]
    exact ⟨_, hafter, rfl, rfl, rfl⟩
  · rintro format i hholds rfl
    refine ⟨⟨_, rfl, Number.length_bytes _, Number.value_bytes_ofInt format i⟩, ?_⟩
    intro hblank
    exact ⟨_, hback hblank, Number.int?_ofInt hholds⟩

/-- The least integer of sixteen bytes, a float that signals, a byte of a truth value that is
neither zero nor one, and a field of two bytes for a truth value. -/
theorem extremes_given :
    let least := number (Number.ofInt .int128 (-2 ^ 127))
    let signalling := number ⟨.float32, 0x7fa00001#32⟩
    NumberFormat.Holds .int128 (-2 ^ 127) ∧
    (∃ n, Slot.restore (number (Number.ofInt .int128 5)) (Slot.capture least []).1 [] =
      (number n, []) ∧ n.int? = some (-2 ^ 127)) ∧
    Slot.restore (number (Number.zero .float32)) (Slot.capture signalling []).1 [] =
      (signalling, []) ∧
    (Slot.capture (Slot.restore (bool false) (.scalar [7]) []).1 []).1 = .scalar [1] ∧
    (Slot.restore (bool true) (.scalar [7, 0]) []).1 = bool true := by
  intro least signalling
  have hholds : NumberFormat.Holds .int128 (-2 ^ 127) := by
    refine ⟨rfl, ?_⟩
    rw [if_pos (by rfl)]
    decide
  refine ⟨hholds, ?_, ?_, ?_, ?_⟩
  · have hlaw := captures_what_it_is_given least (number (Number.ofInt .int128 5)) (.text "") []
    exact (hlaw.2.2.2.2 .int128 (-2 ^ 127) hholds rfl).2 rfl
  · have hlaw := captures_what_it_is_given signalling (number (Number.zero .float32)) (.text "") []
    exact hlaw.2.2.2.1 rfl
  · have hlaw := captures_what_it_is_given (bool false) (bool false) (.scalar [7]) []
    exact (hlaw.2.1 rfl).1
  · have hlaw := captures_what_it_is_given (bool true) (bool true) (.scalar [7, 0]) []
    obtain ⟨mismatch, hrefused, -⟩ := hlaw.2.2.1 (by decide)
    exact congrArg Prod.fst hrefused

end Cell
end Repaint
