import Repaint.Field.Cursor
import Repaint.Proofs.Wire

/-!
Reading a list of kinds with one cursor, the kinds known beforehand. What was written field after
field reads back field after field, whatever stands before it or after it, and what a reading
without a fault finds is the only way to read the bytes by those kinds.
-/

set_option autoImplicit false

namespace Repaint

/-- The bytes are one field of each kind, in order, and nothing else. -/
structure Spells (kinds : List Kind) (fields : List Field) (bytes : Bytes) : Prop where
  kinds_eq : fields.map Field.kind = kinds
  fits : ∀ field ∈ fields, field.Fits
  bytes_eq : Field.encodeAll fields = bytes

theorem Spells.nil : Spells [] [] [] := ⟨rfl, by simp, rfl⟩

theorem Spells.cons {field : Field} {kinds : List Kind} {fields : List Field} {bytes : Bytes}
    (hfits : field.Fits) (h : Spells kinds fields bytes) :
    Spells (field.kind :: kinds) (field :: fields) (field.encode ++ bytes) where
  kinds_eq := by rw [List.map_cons, h.kinds_eq]
  fits := List.forall_mem_cons.mpr ⟨hfits, h.fits⟩
  bytes_eq := by rw [Field.encodeAll_cons, h.bytes_eq]

theorem Spells.length_eq {kinds : List Kind} {fields : List Field} {bytes : Bytes}
    (h : Spells kinds fields bytes) : fields.length = kinds.length := by
  rw [← h.kinds_eq, List.length_map]

namespace Cursor

/-- One field of each kind, up to the first that cannot be read. -/
def read (c : Cursor) : List Kind → Reading
  | [] => ⟨[], c.offset, none⟩
  | kind :: kinds =>
    match c.next kind with
    | (.error fault, c) => ⟨[], c.offset, some fault⟩
    | (.ok field, c) =>
      let reading := c.read kinds
      { reading with fields := field :: reading.fields }

theorem rest_append (front back : Bytes) : (Cursor.mk (front ++ back) front.length).rest = back :=
  List.drop_left

/-- A field that stands at the cursor is read, whatever comes after it. -/
theorem next_of_prefix {c : Cursor} {field : Field} (hc : c.offset ≤ c.buffer.length)
    (hfits : field.Fits) (h : field.encode <+: c.rest) :
    c.next field.kind = (.ok field, ⟨c.buffer, c.offset + field.encode.length⟩) := by
  obtain ⟨after, hafter⟩ := h
  have hdecode : field.kind.decode c.rest = .ok (field, after) :=
    Kind.decode_eq_ok_iff.mpr ⟨rfl, hfits, hafter.symm⟩
  have hlen := congrArg List.length hafter
  rw [rest, List.length_drop, List.length_append] at hlen
  have hend : c.buffer.length - after.length = c.offset + field.encode.length := by omega
  simp only [next, hdecode, hend]

theorem next_written (front back : Bytes) {field : Field} (fields : List Field)
    (h : field.Fits) :
    (Cursor.mk (Field.writeAll (field.write front) fields ++ back) front.length).next field.kind =
      (.ok field,
        ⟨Field.writeAll (field.write front) fields ++ back, (field.write front).length⟩) := by
  have hbuffer : Field.writeAll (field.write front) fields ++ back =
      front ++ (field.encode ++ (Field.encodeAll fields ++ back)) := by
    rw [Field.writeAll_eq, Field.write_eq, List.append_assoc, List.append_assoc]
  rw [hbuffer, Field.write_eq, List.length_append]
  refine next_of_prefix ?_ h ?_
  · rw [List.length_append]
    exact Nat.le_add_right _ _
  · rw [rest_append]
    exact List.prefix_append _ _

/-- A field that was read stands where reading began, and the cursor has moved to its end. -/
theorem next_eq_ok {c c' : Cursor} {kind : Kind} {field : Field}
    (hc : c.offset ≤ c.buffer.length) (h : c.next kind = (.ok field, c')) :
    field.kind = kind ∧ field.Fits ∧ c.rest = field.encode ++ c'.rest ∧
      c' = ⟨c.buffer, c.offset + field.encode.length⟩ := by
  unfold next at h
  split at h
  · cases h
  · rename_i found tail hdecode
    cases h
    obtain ⟨hkind, hfits, hrest⟩ := Kind.decode_eq_ok_iff.mp hdecode
    have hlen : c.buffer.length - c.offset = field.encode.length + tail.length := by
      rw [← List.length_append, ← hrest, rest, List.length_drop]
    have hend : c.buffer.length - tail.length = c.offset + field.encode.length := by omega
    have htail : c.buffer.drop (c.offset + field.encode.length) = tail := by
      have hdrop : c.buffer.drop c.offset = field.encode ++ tail := hrest
      rw [← List.drop_drop, hdrop, List.drop_left]
    rw [hend]
    exact ⟨hkind, hfits, by rw [hrest, rest, htail], rfl⟩

theorem next_eq_error {c c' : Cursor} {kind : Kind} {fault : Fault}
    (h : c.next kind = (.error fault, c')) : c' = c := by
  unfold next at h
  split at h <;> cases h
  rfl

theorem offset_le_of_next {c c' : Cursor} {kind : Kind} {field : Field}
    (hc : c.offset ≤ c.buffer.length) (h : c.next kind = (.ok field, c')) :
    c'.offset ≤ c'.buffer.length := by
  obtain ⟨-, -, hrest, rfl⟩ := next_eq_ok hc h
  have hlen := congrArg List.length hrest
  rw [rest, List.length_drop, List.length_append] at hlen
  show c.offset + field.encode.length ≤ c.buffer.length
  omega

/-- What a reading has found, wherever it ended. -/
structure Found (c : Cursor) (kinds : List Kind) (reading : Reading) : Prop where
  spelled : ∃ bytes, bytes <+: c.rest ∧ reading.offset = c.offset + bytes.length ∧
    Spells (kinds.take reading.fields.length) reading.fields bytes
  complete : reading.fault? = none → reading.fields.length = kinds.length

theorem Found.cons {c c' : Cursor} {kind : Kind} {kinds : List Kind} {field : Field}
    {reading : Reading} (hc : c.offset ≤ c.buffer.length)
    (hnext : c.next kind = (.ok field, c')) (h : c'.Found kinds reading) :
    c.Found (kind :: kinds) { reading with fields := field :: reading.fields } := by
  obtain ⟨rfl, hfits, hrest, rfl⟩ := next_eq_ok hc hnext
  obtain ⟨bytes, hbytes, hend, hspells⟩ := h.spelled
  refine ⟨⟨field.encode ++ bytes, ?_, ?_, ?_⟩, ?_⟩
  · rw [hrest]
    exact (List.prefix_append_right_inj _).mpr hbytes
  · show reading.offset = c.offset + (field.encode ++ bytes).length
    rw [hend, List.length_append, Nat.add_assoc]
  · exact Spells.cons hfits hspells
  · intro hnone
    exact congrArg (· + 1) (h.complete hnone)

/-- One step finds a field or stops where it is, so by induction on the kinds a reading finds
what it says. -/
theorem found_read {c : Cursor} (hc : c.offset ≤ c.buffer.length) (kinds : List Kind) :
    c.Found kinds (c.read kinds) := by
  induction kinds generalizing c with
  | nil => exact ⟨⟨[], List.nil_prefix, rfl, Spells.nil⟩, fun _ => rfl⟩
  | cons kind kinds ih =>
    rw [read]
    split
    · rename_i fault c' hnext
      -- a step that fails leaves the cursor, so the reading ends here with nothing more
      obtain rfl := next_eq_error hnext
      exact ⟨⟨[], List.nil_prefix, rfl, Spells.nil⟩, fun h => nomatch h⟩
    · rename_i field c' hnext
      exact Found.cons hc hnext (ih (offset_le_of_next hc hnext))

theorem found_start (data : Bytes) (kinds : List Kind) :
    (start data).Found kinds ((start data).read kinds) := by
  have hstart : (start data).offset ≤ (start data).buffer.length := Nat.zero_le data.length
  exact found_read hstart kinds

/-- What was written after `front` is read back from its end, and the reading stops where the
writing did. -/
theorem read_written (front back : Bytes) {fields : List Field}
    (hfits : ∀ field ∈ fields, field.Fits) :
    (Cursor.mk (Field.writeAll front fields ++ back) front.length).read (fields.map Field.kind) =
      ⟨fields, (Field.writeAll front fields).length, none⟩ := by
  induction fields generalizing front with
  | nil => rfl
  | cons field fields ih =>
    obtain ⟨hfield, hrest⟩ := List.forall_mem_cons.mp hfits
    rw [List.map_cons, Field.writeAll_cons, read]
    simp only [next_written front back fields hfield, ih (field.write front) hrest]

/-- The same field by field, each with the position it leaves the cursor at. -/
theorem scan_written (front back : Bytes) {fields : List Field}
    (hfits : ∀ field ∈ fields, field.Fits) :
    (Cursor.mk (Field.writeAll front fields ++ back) front.length).scan (fields.map Field.kind) =
      fields.mapIdx fun i field =>
        (.ok field, (Field.writeAll front (fields.take (i + 1))).length) := by
  induction fields generalizing front with
  | nil => rfl
  | cons field fields ih =>
    obtain ⟨hfield, hrest⟩ := List.forall_mem_cons.mp hfits
    rw [List.map_cons, Field.writeAll_cons, scan, List.mapIdx_cons]
    simp only [next_written front back fields hfield, ih (field.write front) hrest]
    rfl

theorem read_of_spells {kinds : List Kind} {fields : List Field} {front data : Bytes}
    (hfront : front <+: data) (h : Spells kinds fields front) :
    (start data).read kinds = ⟨fields, front.length, none⟩ := by
  obtain ⟨back, hback⟩ := hfront
  have hread := read_written [] back h.fits
  rw [Field.writeAll_eq, List.nil_append, h.kinds_eq, h.bytes_eq, hback] at hread
  exact hread

theorem spells_of_read {kinds : List Kind} {data : Bytes}
    (h : ((start data).read kinds).fault? = none) :
    ∃ front, front <+: data ∧ Spells kinds ((start data).read kinds).fields front := by
  have hfound := found_start data kinds
  obtain ⟨front, hfront, -, hspells⟩ := hfound.spelled
  rw [hfound.complete h, List.take_length] at hspells
  exact ⟨front, hfront, hspells⟩

end Cursor

/-- Bytes are read by a list of kinds from one prefix at most, and in one way. -/
theorem Spells.unique {kinds : List Kind} {fields fields' : List Field}
    {front front' data : Bytes} (hfront : front <+: data) (hfront' : front' <+: data)
    (h : Spells kinds fields front) (h' : Spells kinds fields' front') :
    front = front' ∧ fields = fields' := by
  have hread := Cursor.read_of_spells hfront h
  rw [Cursor.read_of_spells hfront' h'] at hread
  obtain rfl : fields' = fields := congrArg Reading.fields hread
  exact ⟨h.bytes_eq.symm.trans h'.bytes_eq, rfl⟩

/-- Writing fields one after another keeps what stood before them and takes each as many bytes
as its length tells; reading their kinds from where writing began gives the fields back, each
ending where its bytes end. -/
theorem written_reads_back (front back : Bytes) (fields : List Field)
    (hfits : ∀ field ∈ fields, field.Fits) :
    Field.writeAll front fields = front ++ Field.encodeAll fields ∧
    (∀ (i : Nat) (hi : i < fields.length),
      Field.writeAll front (fields.take (i + 1)) =
        Field.writeAll front (fields.take i) ++ fields[i].encode ∧
      fields[i].encode.length = fields[i].encodedLength) ∧
    (Cursor.mk (front ++ Field.encodeAll fields ++ back) front.length).scan
        (fields.map Field.kind) =
      (fields.mapIdx fun i field =>
        (.ok field, (Field.writeAll front (fields.take (i + 1))).length)) ∧
    (Cursor.mk (front ++ Field.encodeAll fields ++ back) front.length).read
        (fields.map Field.kind) =
      ⟨fields, (front ++ Field.encodeAll fields).length, none⟩ := by
  refine ⟨Field.writeAll_eq front fields, ?_, ?_, ?_⟩
  · intro i hi
    refine ⟨?_, Field.length_encode fields[i]⟩
    rw [List.take_succ_eq_append_getElem hi, Field.writeAll, List.foldl_append]
    exact Field.write_eq _ fields[i]
  · rw [← Field.writeAll_eq]
    exact Cursor.scan_written front back hfits
  · rw [← Field.writeAll_eq]
    exact Cursor.read_written front back hfits

/-- A text of two-byte characters, a list with an empty entry and a scalar of no bytes, read
back from between other bytes. -/
theorem mixed_fields_read_back :
    (∀ field ∈ [Field.text "é", .scalar [], .texts ["", "a"]], field.Fits) ∧
    (Cursor.mk ([7] ++ Field.encodeAll [.text "é", .scalar [], .texts ["", "a"]] ++ [255, 1])
        1).scan [.text, .scalar 0, .texts] =
      [(.ok (.text "é"), 7), (.ok (.scalar []), 7), (.ok (.texts ["", "a"]), 20)] :=
  ⟨by decide,
    (written_reads_back [7] [255, 1] [.text "é", .scalar [], .texts ["", "a"]]
      (by decide)).2.2.1⟩

end Repaint
