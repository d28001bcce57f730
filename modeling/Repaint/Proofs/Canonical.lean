import Repaint.Proofs.Reading

/-!
Each field has one stored form. A field is read exactly where its stored form stands, and
writing it again gives the bytes it was read from; all other bytes are refused with the cursor
left in place. So through fields and faults alike a cursor only moves forward, and never past
the end of its buffer.
-/

set_option autoImplicit false

namespace Repaint

theorem Field.write_nil (field : Field) : field.write [] = field.encode := by
  rw [write_eq, List.nil_append]

namespace Cursor

/-- What stands at the cursor begins with a field of the kind, as it is written. -/
def Offers (c : Cursor) (kind : Kind) : Prop :=
  ∃ field : Field, field.kind = kind ∧ field.Fits ∧ field.write [] <+: c.rest

/-- The positions of a scan, with the one it started from. -/
def trail (c : Cursor) (kinds : List Kind) : List Nat :=
  c.offset :: (c.scan kinds).map Prod.snd

/-- A cursor anywhere reads a field just when one is offered. -/
theorem next_ok_iff_offers (c : Cursor) (kind : Kind) :
    (∃ field c', c.next kind = (.ok field, c')) ↔ c.Offers kind := by
  constructor
  · rintro ⟨field, c', hnext⟩
    unfold next at hnext
    split at hnext
    · cases hnext
    · rename_i found tail hdecode
      cases hnext
      obtain ⟨hkind, hfits, hrest⟩ := Kind.decode_eq_ok_iff.mp hdecode
      exact ⟨field, hkind, hfits, by rw [Field.write_nil, hrest]; exact List.prefix_append _ _⟩
  · rintro ⟨field, hkind, hfits, tail, hrest⟩
    rw [Field.write_nil] at hrest
    have hdecode : kind.decode c.rest = .ok (field, tail) :=
      Kind.decode_eq_ok_iff.mpr ⟨hkind, hfits, hrest.symm⟩
    exact ⟨field, ⟨c.buffer, c.buffer.length - tail.length⟩, by simp only [next, hdecode]⟩

/-- The bytes between the two positions are the field as it is written. -/
theorem write_of_next {c c' : Cursor} {kind : Kind} {field : Field}
    (hc : c.offset ≤ c.buffer.length) (h : c.next kind = (.ok field, c')) :
    field.write [] = c.buffer.extract c.offset c'.offset := by
  obtain ⟨-, -, hrest, rfl⟩ := next_eq_ok hc h
  have hdrop : c.buffer.drop c.offset =
      field.encode ++ rest ⟨c.buffer, c.offset + field.encode.length⟩ := hrest
  rw [Field.write_nil, List.extract_eq_take_drop, hdrop, Nat.add_sub_cancel_left, List.take_left]

/-- One step stays within the buffer and does not go back, whether it reads or not. -/
theorem next_forward {c : Cursor} (hc : c.offset ≤ c.buffer.length) (kind : Kind) :
    (c.next kind).2.buffer = c.buffer ∧ c.offset ≤ (c.next kind).2.offset ∧
      (c.next kind).2.offset ≤ c.buffer.length := by
  cases hnext : c.next kind with
  | mk result c' =>
    cases result with
    | error fault =>
      obtain rfl := next_eq_error hnext
      exact ⟨rfl, Nat.le_refl _, hc⟩
    | ok field =>
      have hend := offset_le_of_next hc hnext
      obtain ⟨-, -, -, rfl⟩ := next_eq_ok hc hnext
      exact ⟨rfl, Nat.le_add_right _ _, hend⟩

theorem trail_cons (c : Cursor) (kind : Kind) (kinds : List Kind) :
    c.trail (kind :: kinds) = c.offset :: (c.next kind).2.trail kinds := rfl

/-- Every position of a scan lies between the start and the end of the buffer. -/
theorem trail_within {c : Cursor} (hc : c.offset ≤ c.buffer.length) (kinds : List Kind) :
    ∀ offset ∈ c.trail kinds, c.offset ≤ offset ∧ offset ≤ c.buffer.length := by
  induction kinds generalizing c with
  | nil =>
    intro offset hoffset
    obtain rfl := List.mem_singleton.mp hoffset
    exact ⟨Nat.le_refl _, hc⟩
  | cons kind kinds ih =>
    obtain ⟨hbuffer, hstart, hend⟩ := next_forward hc kind
    have hrest := ih (c := (c.next kind).2) (by rwa [hbuffer])
    rw [hbuffer] at hrest
    intro offset hoffset
    rw [trail_cons] at hoffset
    rcases List.mem_cons.mp hoffset with rfl | hoffset
    · exact ⟨Nat.le_refl _, hc⟩
    · obtain ⟨hfrom, hto⟩ := hrest offset hoffset
      exact ⟨by omega, hto⟩

theorem trail_ordered {c : Cursor} (hc : c.offset ≤ c.buffer.length) (kinds : List Kind) :
    (c.trail kinds).Pairwise (· ≤ ·) := by
  induction kinds generalizing c with
  | nil => exact List.pairwise_singleton _ _
  | cons kind kinds ih =>
    obtain ⟨hbuffer, hstart, hend⟩ := next_forward hc kind
    have hc' : (c.next kind).2.offset ≤ (c.next kind).2.buffer.length := by rwa [hbuffer]
    rw [trail_cons, List.pairwise_cons]
    refine ⟨?_, ih hc'⟩
    intro offset hoffset
    have hfrom := (trail_within hc' kinds offset hoffset).1
    omega

/-- Reading a kind takes exactly the stored forms of that kind. What it takes it would write
again byte for byte, and what it refuses costs it nothing. -/
theorem next_canonical {c : Cursor} (hc : c.offset ≤ c.buffer.length) (kind : Kind) :
    ((∃ field c', c.next kind = (.ok field, c')) ↔ c.Offers kind) ∧
    (∀ field c', c.next kind = (.ok field, c') →
      field.kind = kind ∧ field.Fits ∧ c'.buffer = c.buffer ∧
      c.offset ≤ c'.offset ∧ c'.offset ≤ c.buffer.length ∧
      c'.offset - c.offset = field.encodedLength ∧
      field.write [] = c.buffer.extract c.offset c'.offset) ∧
    (∀ fault c', c.next kind = (.error fault, c') → c' = c) ∧
    ∀ kinds : List Kind, (c.trail kinds).Pairwise (· ≤ ·) ∧
      ∀ offset ∈ c.trail kinds, offset ≤ c.buffer.length := by
  refine ⟨next_ok_iff_offers c kind, ?_, fun fault c' => next_eq_error, ?_⟩
  · intro field c' hnext
    have hwritten := write_of_next hc hnext
    have hend := offset_le_of_next hc hnext
    obtain ⟨hkind, hfits, -, rfl⟩ := next_eq_ok hc hnext
    have hlen : c.offset + field.encode.length - c.offset = field.encodedLength := by
      rw [Nat.add_sub_cancel_left, Field.length_encode]
    exact ⟨hkind, hfits, rfl, Nat.le_add_right _ _, hend, hlen, hwritten⟩
  · intro kinds
    exact ⟨trail_ordered hc kinds, fun offset h => (trail_within hc kinds offset h).2⟩

/-- The length of a text is there and two bytes after it, but they are not UTF-8: no text is
offered, and the scan passes on from where it was. -/
theorem malformed_text_passed_over :
    let c : Cursor := ⟨[9, 2, 0, 0, 0, 195, 40], 1⟩
    c.offset ≤ c.buffer.length ∧ ¬ c.Offers .text ∧
      c.trail [.text, .texts, .scalar 4, .scalar 0, .scalar 9] = [1, 1, 1, 5, 5, 5] ∧
      [1, 1, 1, 5, 5, 5].Pairwise (· ≤ ·) := by
  intro c
  have hc : c.offset ≤ c.buffer.length := by decide
  have hcanonical := next_canonical hc .text
  have hrefused : c.next .text = (.error .malformedText, c) := by decide
  have htrail : c.trail [.text, .texts, .scalar 4, .scalar 0, .scalar 9] = [1, 1, 1, 5, 5, 5] := by
    decide
  refine ⟨hc, ?_, htrail, ?_⟩
  · intro hoffers
    obtain ⟨field, c', hnext⟩ := hcanonical.1.mpr hoffers
    rw [hrefused] at hnext
    cases hnext
  · rw [← htrail]
    exact (hcanonical.2.2.2 _).1

end Cursor
end Repaint
