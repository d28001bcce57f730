import Repaint.Proofs.Faults

/-!
What a count can bring about. Each text of a list takes at least the bytes of its length, so the
bytes after the count, and not the count, say how many texts can be read. A count that asks for more
is refused, and where it stands above that bound nothing tells how far above. The bytes after the
count are arbitrary.
-/

set_option autoImplicit false

namespace Repaint

namespace Wire

variable {count : Nat} {bs : Bytes}

theorem mul_length_le_of_texts (entries : List String) :
    countWidth * entries.length ≤ (entries.flatMap ofText).length := by
  induction entries with
  | nil => exact Nat.zero_le _
  | cons s entries ih =>
    rw [List.flatMap_cons, List.length_append, length_ofText, textLength, List.length_cons,
      Nat.mul_succ]
    omega

/-- However the reading ends, the texts it got stand in front of the bytes, and are no more than the
count. -/
theorem readTexts_prefix (count : Nat) (bs : Bytes) :
    (readTexts count bs).1.length ≤ count ∧ (readTexts count bs).1.flatMap ofText <+: bs := by
  cases hread : readTexts count bs with
  | mk entries ending =>
    cases ending with
    | ok rest =>
      obtain ⟨hlen, -, hbs⟩ := readTexts_eq_ok_iff.mp hread
      exact ⟨Nat.le_of_eq hlen, rest, hbs.symm⟩
    | error fault =>
      obtain ⟨hlen, -, rest, hbs, -⟩ := readTexts_eq_error_iff.mp hread
      exact ⟨Nat.le_of_lt hlen, rest, hbs.symm⟩

/-- Whatever the count, the room set aside is no more than the bytes can hold. -/
theorem mul_reserved_le (count : Nat) (bs : Bytes) :
    countWidth * reserved count bs ≤ bs.length := by
  rw [Nat.mul_comm]
  exact (Nat.le_div_iff_mul_le (by decide)).mp (Nat.min_le_right _ _)

theorem reserved_of_held (h : countWidth * count ≤ bs.length) : reserved count bs = count := by
  rw [Nat.mul_comm] at h
  exact Nat.min_eq_left ((Nat.le_div_iff_mul_le (by decide)).mpr h)

/-- The texts read never outgrow the room. -/
theorem length_readTexts_le (count : Nat) (bs : Bytes) :
    (readTexts count bs).1.length ≤ reserved count bs := by
  obtain ⟨hcount, hfront⟩ := readTexts_prefix count bs
  have hwidth := mul_length_le_of_texts (readTexts count bs).1
  refine Nat.le_min.mpr ⟨hcount, (Nat.le_div_iff_mul_le (by decide)).mpr ?_⟩
  rw [Nat.mul_comm]
  exact hwidth.trans hfront.length_le

/-- A count above what the bytes can hold is refused, and every other such count in the same way,
since the texts in front of the fault are too few for either. -/
theorem readTexts_of_excess (h : bs.length / countWidth < count) :
    ∃ fault, ∀ count', bs.length / countWidth < count' →
      readTexts count' bs = ((readTexts count bs).1, .error fault) := by
  have hfew := (Nat.le_min.mp (length_readTexts_le count bs)).2
  cases hread : readTexts count bs with
  | mk entries ending =>
    rw [hread] at hfew
    cases ending with
    | ok rest =>
      have hlen := (readTexts_eq_ok_iff.mp hread).1
      exact absurd (hlen ▸ hfew) (Nat.not_le_of_lt h)
    | error fault =>
      obtain ⟨-, hfits, hrest⟩ := readTexts_eq_error_iff.mp hread
      exact ⟨fault, fun count' h' =>
        readTexts_eq_error_iff.mpr ⟨Nat.lt_of_le_of_lt hfew h', hfits, hrest⟩⟩

end Wire

namespace Cursor

variable {c c' : Cursor} {count : Nat} {ahead : Bytes}

theorem next_texts (hcount : Wire.readCount c.rest = .ok (count, ahead)) :
    c.next .texts =
      match Wire.readTexts count ahead with
      | (_, .error fault) => (.error fault, c)
      | (entries, .ok rest) =>
        (.ok (.texts entries), ⟨c.buffer, c.buffer.length - rest.length⟩) := by
  simp only [next, Kind.decode, hcount]
  cases Wire.readTexts count ahead with
  | mk entries ending => cases ending <;> rfl

theorem next_texts_eq_ok {field : Field} (hcount : Wire.readCount c.rest = .ok (count, ahead))
    (h : c.next .texts = (.ok field, c')) :
    field = .texts (Wire.readTexts count ahead).1 ∧
      (Wire.readTexts count ahead).1.length = count := by
  rw [next_texts hcount] at h
  split at h
  · cases h
  · rename_i entries rest hread
    cases h
    rw [hread]
    exact ⟨rfl, (Wire.readTexts_eq_ok_iff.mp hread).1⟩

theorem next_texts_eq_error {fault : Fault}
    (hcount : Wire.readCount c.rest = .ok (count, ahead))
    (h : c.next .texts = (.error fault, c')) :
    Wire.readTexts count ahead = ((Wire.readTexts count ahead).1, .error fault) := by
  rw [next_texts hcount] at h
  split at h
  · rename_i entries fault' hread
    cases h
    rw [hread]
  · cases h

/-- The texts read after a count stay within the room set aside for them, which is no more than the
count and no more than the bytes after it can hold, whether the reading ends well or in a fault at
the text behind them. It ends well only with as many texts as the count says, and they fill the
room. Counts above what the bytes can hold are all refused with one fault. -/
theorem texts_bounded_by_bytes (hcount : Wire.readCount c.rest = .ok (count, ahead)) :
    let entries := (Wire.readTexts count ahead).1
    let room := Wire.reserved count ahead
    (entries.length ≤ room ∧ room = min count (ahead.length / Wire.countWidth) ∧
      Wire.countWidth * room ≤ ahead.length) ∧
    (∀ field c', c.next .texts = (.ok field, c') →
      Wire.countWidth * count ≤ ahead.length ∧ field = .texts entries ∧
        entries.length = count ∧ room = count) ∧
    (∀ fault c', c.next .texts = (.error fault, c') →
      entries.length < count ∧ ∃ rest, ahead = entries.flatMap Wire.ofText ++ rest ∧
        Wire.readText rest = .error fault) ∧
    ∀ (other : Cursor) (count' : Nat), Wire.readCount other.rest = .ok (count', ahead) →
      ahead.length / Wire.countWidth < count → ahead.length / Wire.countWidth < count' →
      ∃ fault, c.next .texts = (.error fault, c) ∧ other.next .texts = (.error fault, other) := by
  intro entries room
  have hbound := Wire.length_readTexts_le count ahead
  have hroom := Wire.mul_reserved_le count ahead
  refine ⟨⟨hbound, rfl, hroom⟩, ?_, ?_, ?_⟩
  · intro field c' hnext
    obtain ⟨hfield, hlen⟩ := next_texts_eq_ok hcount hnext
    have hheld : Wire.countWidth * count ≤ ahead.length := by
      rw [hlen] at hbound
      exact (Nat.mul_le_mul_left _ hbound).trans hroom
    exact ⟨hheld, hfield, hlen, Wire.reserved_of_held hheld⟩
  · intro fault c' hnext
    obtain ⟨hlen, -, hrest⟩ :=
      Wire.readTexts_eq_error_iff.mp (next_texts_eq_error hcount hnext)
    exact ⟨hlen, hrest⟩
  · intro other count' hcount' hexcess hexcess'
    obtain ⟨fault, hrefused⟩ := Wire.readTexts_of_excess hexcess
    refine ⟨fault, ?_, ?_⟩
    · rw [next_texts hcount, hrefused count hexcess]
    · rw [next_texts hcount', hrefused count' hexcess']

/-- One text of the list is there and the next is cut short. Told that there are three texts or the
most that four bytes can count, the reading runs out at the same place. -/
theorem greatest_count_refused :
    let ahead := [1, 0, 0, 0, 97, 5, 0, 0, 0, 98]
    let c : Cursor := ⟨[7, 3, 0, 0, 0] ++ ahead, 1⟩
    let greatest : Cursor := ⟨[7, 255, 255, 255, 255] ++ ahead, 1⟩
    (Wire.readCount greatest.rest = .ok (4294967295, ahead) ∧
      Wire.readCount c.rest = .ok (3, ahead) ∧ Wire.reserved 4294967295 ahead = 2) ∧
    (Wire.readTexts 4294967295 ahead).1.length ≤ 2 ∧
    c.next .texts = (.error (.underrun 5 1), c) ∧
    greatest.next .texts = (.error (.underrun 5 1), greatest) := by
  intro ahead c greatest
  have hcount : Wire.readCount c.rest = .ok (3, ahead) := by decide
  have hgreatest : Wire.readCount greatest.rest = .ok (4294967295, ahead) := by decide
  have hroom : Wire.reserved 4294967295 ahead = 2 := by decide
  have hshort : c.next .texts = (.error (.underrun 5 1), c) := by decide
  obtain ⟨⟨hfew, -, -⟩, -, -, hsame⟩ := texts_bounded_by_bytes hgreatest
  obtain ⟨fault, hrefused, hnext⟩ := hsame c 3 hcount (by decide) (by decide)
  rw [hshort] at hnext
  cases hnext
  rw [hroom] at hfew
  exact ⟨⟨hgreatest, hcount, hroom⟩, hfew, hshort, hrefused⟩

end Cursor
end Repaint
