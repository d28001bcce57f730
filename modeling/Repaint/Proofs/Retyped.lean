import Repaint.Proofs.Dealt
import Repaint.Proofs.Echo
import Repaint.Proofs.LastCapture

/-!
Scalars of one width stand for each other under a key. Neither the length nor the layout of an entry
tells them apart, so what was saved from one is read as another: an integer as the one integer of
the new format with the same residue, a float by its bit pattern, a truth value by whether its byte
is zero. The values that the variables of the new list held before do not matter, and neither do the
slots around them.
-/

set_option autoImplicit false

namespace Repaint

namespace NumberFormat

/-- Integers of one format with one residue are the same. -/
theorem Holds.eq_of_modEq {format : NumberFormat} {i j : Int} (hi : format.Holds i)
    (hj : format.Holds j) (h : i ≡ j [ZMOD 2 ^ (8 * format.width)]) : i = j := by
  obtain ⟨-, hi⟩ := hi
  obtain ⟨-, hj⟩ := hj
  -- with a sign or without one, the format holds as many integers as there are residues
  have hdouble : (2 : Int) ^ (8 * format.width) = 2 * 2 ^ (8 * format.width - 1) := by
    cases format <;> rfl
  have hclose : |j - i| < 2 ^ (8 * format.width) := by
    rw [abs_lt]
    split at hi
    · rw [if_pos ‹_›] at hj
      omega
    · rw [if_neg ‹_›] at hj
      omega
  have hzero := Int.eq_zero_of_abs_lt_dvd h.dvd hclose
  omega

end NumberFormat

namespace Number

/-- The number in its format that an integer becomes by its residue: the bit pattern of a float is
the residue, and an integer is the one with that residue that the format can hold. -/
def Represents (n : Number) (i : Int) : Prop :=
  if n.format.isFloat then (n.bits.toNat : Int) = i % 2 ^ (8 * n.format.width)
  else ∃ j, n.int? = some j ∧
    ∀ x, n.format.Holds x ∧ x ≡ i [ZMOD 2 ^ (8 * n.format.width)] ↔ x = j

theorem natCast_toNat_lt (n : Number) : (n.bits.toNat : Int) < 2 ^ (8 * n.format.width) := by
  exact_mod_cast n.bits.isLt

/-- An integer lies in its format and has the residue of its bits. -/
theorem of_int?_eq_some {n : Number} {i : Int} (h : n.int? = some i) :
    n.format.Holds i ∧ i ≡ n.bits.toNat [ZMOD 2 ^ (8 * n.format.width)] := by
  unfold int? at h
  split at h
  · cases h
  · rename_i hfloat
    rw [Bool.not_eq_true] at hfloat
    split at h
    · rename_i hsigned
      obtain rfl := Option.some.inj h
      refine ⟨⟨hfloat, ?_⟩, ?_⟩
      · rw [if_pos hsigned]
        exact ⟨BitVec.le_toInt n.bits, BitVec.toInt_lt⟩
      · rw [BitVec.toInt_eq_toNat_bmod]
        exact_mod_cast Int.bmod_emod
    · rename_i hsigned
      obtain rfl := Option.some.inj h
      refine ⟨⟨hfloat, ?_⟩, rfl⟩
      rw [if_neg hsigned]
      exact ⟨Int.natCast_nonneg _, n.natCast_toNat_lt⟩

theorem represents_of_modEq {n : Number} {i : Int}
    (h : (n.bits.toNat : Int) ≡ i [ZMOD 2 ^ (8 * n.format.width)]) : n.Represents i := by
  unfold Represents
  split
  · rw [← h.eq, Int.emod_eq_of_lt (Int.natCast_nonneg _) n.natCast_toNat_lt]
  · rename_i hfloat
    have hsome : ∃ j, n.int? = some j := by
      unfold int?
      rw [if_neg hfloat]
      split
      · exact ⟨_, rfl⟩
      · exact ⟨_, rfl⟩
    obtain ⟨j, hj⟩ := hsome
    obtain ⟨hholds, hbits⟩ := of_int?_eq_some hj
    refine ⟨j, hj, fun x => ⟨?_, ?_⟩⟩
    · rintro ⟨hx, hresidue⟩
      exact hx.eq_of_modEq hholds (hresidue.trans (h.symm.trans hbits.symm))
    · rintro rfl
      exact ⟨hholds, hbits.trans h⟩

/-- What a number tells another of its width: an integer itself, a float its bit pattern. -/
def told (n : Number) : Int := n.int?.getD n.bits.toNat

theorem told_modEq (n : Number) : n.told ≡ n.bits.toNat [ZMOD 2 ^ (8 * n.format.width)] := by
  unfold told
  cases h : n.int? with
  | none => rfl
  | some i => exact (of_int?_eq_some h).2

end Number

namespace Cell

/-- What a scalar tells another of its width; a truth value tells one or zero. -/
def told? : Cell → Option Int
  | number n => some n.told
  | bool b => some (if b then 1 else 0)
  | _ => none

theorem told?_of_field {cell : Cell} {bs : Bytes} (h : cell.field = .scalar bs) :
    ∃ i, cell.told? = some i ∧ (LittleEndian.value bs : Int) ≡ i [ZMOD 2 ^ (8 * bs.length)] := by
  cases cell with
  | number n =>
    obtain rfl : n.bytes = bs := Field.scalar.inj h
    refine ⟨n.told, rfl, ?_⟩
    rw [n.value_bytes, n.length_bytes]
    exact n.told_modEq.symm
  | bool b =>
    obtain rfl : [if b then 1 else 0] = bs := Field.scalar.inj h
    refine ⟨_, rfl, ?_⟩
    cases b <;> rfl
  | _ => cases h

/-- The variable of the new list is of the type of the old, or both are scalars of one width. -/
inductive StandsFor (fresh cell : Cell) : Prop
  | sameType : fresh.blank = cell.blank → StandsFor fresh cell
  | sameWidth {width : Nat} : fresh.kind = .scalar width → cell.kind = .scalar width →
      StandsFor fresh cell

theorem StandsFor.kind_eq {fresh cell : Cell} (h : StandsFor fresh cell) :
    fresh.kind = cell.kind := by
  cases h with
  | sameType hblank => rw [← fresh.kind_blank, hblank, cell.kind_blank]
  | sameWidth hfresh hcell => rw [hfresh, hcell]

theorem kinds_of_standsFor {fresh saved : List Cell} (h : List.Forall₂ StandsFor fresh saved) :
    fresh.map kind = saved.map kind := by
  induction h with
  | nil => rfl
  | cons hfirst _ ih => rw [List.map_cons, List.map_cons, hfirst.kind_eq, ih]

/-- The second cell is what was saved from `cell`, read as a value of its own type. -/
def ReadAs (cell : Cell) : Cell → Prop
  | number n => ∃ i, cell.told? = some i ∧ n.Represents i
  | bool b => ∃ byte, cell.field = .scalar [byte] ∧ (b = true ↔ byte ≠ 0)
  | text content => cell = text content
  | texts entries => cell = texts entries

theorem readAs_of_assign {cell fresh after : Cell} (h : fresh.assign cell.field = .ok after) :
    cell.ReadAs after := by
  generalize hfield : cell.field = field at h
  unfold assign at h
  split at h
  · rename_i n bs
    split at h
    · rename_i hlen
      cases h
      obtain ⟨i, htold, hvalue⟩ := told?_of_field hfield
      have hbits : (Number.ofBytes n.format bs).bits.toNat = LittleEndian.value bs := by
        rw [← Number.value_bytes, Number.bytes_ofBytes hlen]
      rw [hlen, ← hbits] at hvalue
      exact ⟨i, htold, Number.represents_of_modEq hvalue⟩
    · cases h
  · rename_i flag byte
    cases h
    exact ⟨byte, hfield, bne_iff_ne⟩
  · cases h
    cases cell with
    | text content => exact congrArg text (Field.text.inj hfield)
    | _ => cases hfield
  · cases h
    cases cell with
    | texts entries => exact congrArg texts (Field.texts.inj hfield)
    | _ => cases hfield
  · cases h

end Cell

namespace Store

variable {σ ω : Type} [Slot σ ω] {embed : Cell → σ}

theorem result_save_cells (hembed : Cell.Embedded embed) (store : Store) (key : Key)
    (cells : List Cell) (shared : ω) :
    (store.save key (cells.map embed) shared).1.result =
      .ok (.saved ((cells.map Cell.field).map Field.encodedLength).sum) := by
  simp only [save, hembed.captureAll, Field.writeAll_eq, List.nil_append, Field.length_encodeAll]

/-- Scalars of one width stand for each other. Whatever the configuration, the length and the layout
stand, and the list that takes the place of the one saved is restored whole. Each variable keeps its
type and is what was saved in its place, read as a value of that type. -/
theorem scalars_of_one_width_interchange (hembed : Cell.Embedded embed) {store : Store} {key : Key}
    {saved fresh : List Cell} {shared : ω}
    (hheld : store.Remembers key (saved.map embed) shared)
    (hfits : ∀ cell ∈ saved, cell.field.Fits)
    (hstands : List.Forall₂ Cell.StandsFor fresh saved) (given : ω) :
    let length := ((saved.map Cell.field).map Field.encodedLength).sum
    let reply := (store.cache .restore key (fresh.map embed) given).1
    (∀ earlier : Store, (earlier.cache .capture key (saved.map embed) shared).1.result =
      .ok (.saved length)) ∧
    reply.result = .ok (.restored length) ∧ reply.shared = given ∧
    reply.slots.length = fresh.length ∧
    ∀ (i : Nat) (cell target : Cell), saved[i]? = some cell → fresh[i]? = some target →
      ∃ after, reply.slots[i]? = some (embed after) ∧ after.blank = target.blank ∧
        cell.ReadAs after := by
  intro length reply
  have hkinds := Cell.kinds_of_standsFor hstands
  have hreply := restore_of_saved_cells hembed (entry_of_remembers hheld) hfits hkinds given
  have hgiven : (saved.map Cell.field).map Field.kind = fresh.map Cell.kind := by
    rw [List.map_map, hkinds]
    exact List.map_congr_left fun cell _ => cell.kind_field
  have hwhole : (saved.map Cell.field).map Field.kind =
      (fresh.map Cell.kind).take (saved.map Cell.field).length := by
    rw [← hgiven, ← List.length_map Field.kind, List.take_length]
  refine ⟨fun earlier => result_save_cells hembed earlier key saved shared,
    congrArg Reply.result hreply, ?_, ?_, ?_⟩
  · exact (congrArg Reply.shared hreply).trans (hembed.restoreAll_silent hwhole given)
  · have hlength := congrArg (fun reply => reply.slots.length) hreply
    exact hlength.trans ((Slot.length_restoreAll _ _ given).trans (List.length_map embed))
  · intro i cell target hcell htarget
    have hkind : target.kind = cell.kind := by
      have hplace := congrArg (·[i]?) hkinds
      simpa only [List.getElem?_map, htarget, hcell, Option.map_some, Option.some.injEq] using
        hplace
    obtain ⟨after, hassign⟩ := Cell.assign_of_kind (cell.kind_field.trans hkind.symm)
    have hslot : (fresh.map embed)[i]? = some (embed target) := by
      rw [List.getElem?_map, htarget, Option.map_some]
    have hfield : (saved.map Cell.field)[i]? = some cell.field := by
      rw [List.getElem?_map, hcell, Option.map_some]
    obtain ⟨before, hafter⟩ := Slot.getElem?_restoreAll hslot hfield given
    rw [hembed.restore_eq hassign] at hafter
    have hreplaced := congrArg (fun reply => reply.slots[i]?) hreply
    exact ⟨after, hreplaced.trans hafter, Cell.blank_assign hassign,
      Cell.readAs_of_assign hassign⟩

/-- Under the strict policy and with the layout checked: a negative byte read as one without a sign,
a moment before the epoch as a large number, a signalling float as an integer, two as true. -/
theorem mixed_scalars_interchange :
    let saved := [Cell.number (Number.ofInt .int8 (-1)), .text "Wi-Fi",
      .number (Number.ofInt .timestamp (-2)), .number ⟨.float32, 0x7fa00001#32⟩,
      .number (Number.ofInt .uint8 2)]
    let fresh := [Cell.number (Number.zero .uint8), .text "", .number (Number.zero .uint64),
      .number (Number.zero .int32), .bool false]
    let after := [Cell.number (Number.ofInt .uint8 255), .text "Wi-Fi",
      .number (Number.ofInt .uint64 18446744073709551614),
      .number (Number.ofInt .int32 2141192193), .bool true]
    let store := ((empty { policy := .strict }).cache .capture ⟨"k"⟩ (saved.map Place.cell) []).2
    let reply := (store.cache .restore ⟨"k"⟩ (fresh.map Place.cell) []).1
    (store.Remembers ⟨"k"⟩ (saved.map Place.cell) [] ∧ (∀ cell ∈ saved, cell.field.Fits) ∧
      List.Forall₂ Cell.StandsFor fresh saved) ∧
    store.config.checkLayout = true ∧ reply.result = .ok (.restored 23) ∧
    reply.slots = after.map Place.cell ∧ List.Forall₂ Cell.ReadAs saved after := by
  intro saved fresh after store reply
  have hheld : store.Remembers ⟨"k"⟩ (saved.map Place.cell) [] :=
    ⟨empty { policy := .strict }, .name "k", [], rfl, by simp, rfl⟩
  have hfits : ∀ cell ∈ saved, cell.field.Fits := by decide
  have hstands : List.Forall₂ Cell.StandsFor fresh saved :=
    .cons (.sameWidth rfl rfl) (.cons (.sameType rfl) (.cons (.sameWidth rfl rfl)
      (.cons (.sameWidth rfl rfl) (.cons (.sameWidth rfl rfl) .nil))))
  obtain ⟨-, hresult, -, -, hread⟩ :=
    scalars_of_one_width_interchange Place.embedded hheld hfits hstands []
  have hslots : reply.slots = after.map Place.cell := by decide
  have hplace {i : Nat} {cell target expected : Cell} (hcell : saved[i]? = some cell)
      (htarget : fresh[i]? = some target) (hafter : after[i]? = some expected) :
      cell.ReadAs expected := by
    obtain ⟨found, hfound, -, hreadAs⟩ := hread i cell target hcell htarget
    have hsame : reply.slots[i]? = some (.cell expected) := by
      rw [hslots, List.getElem?_map, hafter, Option.map_some]
    cases hsame.symm.trans hfound
    exact hreadAs
  refine ⟨⟨hheld, hfits, hstands⟩, rfl, hresult, hslots, ?_⟩
  exact .cons (hplace (i := 0) rfl rfl rfl) (.cons (hplace (i := 1) rfl rfl rfl)
    (.cons (hplace (i := 2) rfl rfl rfl) (.cons (hplace (i := 3) rfl rfl rfl)
      (.cons (hplace (i := 4) rfl rfl rfl) .nil))))

end Store
end Repaint
