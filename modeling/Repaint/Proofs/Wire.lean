import Repaint.Bytes.Lemmas
import Repaint.Field.Wire

/-!
What reading one field accepts. Bytes read as a field exactly when they start with its stored
form and its lengths and counts fit their four bytes, so a kind and the bytes ahead determine
the field and where it ends. Nothing is assumed of the bytes.
-/

set_option autoImplicit false

namespace Repaint

/-- Every length and count in the field can be told in four bytes. -/
def Field.Fits : Field → Prop
  | scalar _ => True
  | text content => content.utf8ByteSize < 2 ^ 32
  | texts entries => entries.length < 2 ^ 32 ∧ ∀ s ∈ entries, s.utf8ByteSize < 2 ^ 32

instance : DecidablePred Field.Fits := fun field =>
  match field with
  | .scalar _ => .isTrue trivial
  | .text content => inferInstanceAs (Decidable (content.utf8ByteSize < 2 ^ 32))
  | .texts entries =>
    inferInstanceAs (Decidable (entries.length < 2 ^ 32 ∧ ∀ s ∈ entries, s.utf8ByteSize < 2 ^ 32))

namespace Wire

@[simp] theorem length_ofCount (n : Nat) : (ofCount n).length = countWidth :=
  LittleEndian.length_digits countWidth n

theorem value_ofCount {n : Nat} (h : n < 2 ^ 32) : LittleEndian.value (ofCount n) = n := by
  rw [ofCount, LittleEndian.value_digits]
  exact Nat.mod_eq_of_lt h

theorem ofCount_value {head : Bytes} (h : head.length = countWidth) :
    ofCount (LittleEndian.value head) = head := by
  have hd := LittleEndian.digits_value head
  rwa [h] at hd

theorem value_lt {head : Bytes} (h : head.length = countWidth) :
    LittleEndian.value head < 2 ^ 32 := by
  have hv := LittleEndian.value_lt head
  rwa [h] at hv

theorem length_ofText (s : String) : (ofText s).length = textLength s := by
  rw [ofText, List.length_append, length_ofCount, Text.length_bytes]
  rfl

theorem length_ofTexts (entries : List String) :
    (ofTexts entries).length = entries.foldr (fun s n => textLength s + n) countWidth := by
  rw [ofTexts, List.length_append, length_ofCount]
  induction entries with
  | nil => rfl
  | cons s entries ih =>
    rw [List.flatMap_cons, List.length_append, length_ofText, List.foldr_cons, ← ih]
    omega

theorem take_eq_ok_iff {n : Nat} {bs head rest : Bytes} :
    take n bs = .ok (head, rest) ↔ bs = head ++ rest ∧ head.length = n := by
  unfold take
  constructor
  · intro h
    split at h
    · rename_i hn
      cases h
      exact ⟨(List.take_append_drop n bs).symm, hn⟩
    · cases h
  · rintro ⟨rfl, rfl⟩
    rw [List.take_left, List.drop_left, if_pos rfl]

theorem readCount_eq_ok_iff {n : Nat} {bs rest : Bytes} :
    readCount bs = .ok (n, rest) ↔ n < 2 ^ 32 ∧ bs = ofCount n ++ rest := by
  unfold readCount
  constructor
  · intro h
    split at h
    · cases h
    · rename_i head tail htake
      cases h
      obtain ⟨hbs, hlen⟩ := take_eq_ok_iff.mp htake
      exact ⟨value_lt hlen, by rw [ofCount_value hlen, hbs]⟩
  · rintro ⟨hn, rfl⟩
    simp only [take_eq_ok_iff.mpr ⟨rfl, length_ofCount n⟩, value_ofCount hn]

theorem readText_eq_ok_iff {s : String} {bs rest : Bytes} :
    readText bs = .ok (s, rest) ↔ s.utf8ByteSize < 2 ^ 32 ∧ bs = ofText s ++ rest := by
  unfold readText
  constructor
  · intro h
    split at h
    · cases h
    · rename_i n tail hcount
      obtain ⟨hn, rfl⟩ := readCount_eq_ok_iff.mp hcount
      split at h
      · cases h
      · rename_i body after htake
        obtain ⟨rfl, rfl⟩ := take_eq_ok_iff.mp htake
        split at h
        · cases h
        · rename_i content hbody
          cases h
          obtain rfl := Text.ofBytes?_eq_some_iff.mp hbody
          exact ⟨hn, by rw [ofText, List.append_assoc]⟩
  · rintro ⟨hs, rfl⟩
    have hcount : readCount (ofText s ++ rest) =
        .ok ((Text.bytes s).length, Text.bytes s ++ rest) :=
      readCount_eq_ok_iff.mpr ⟨hs, by rw [ofText, List.append_assoc]⟩
    have htake : take (Text.bytes s).length (Text.bytes s ++ rest) = .ok (Text.bytes s, rest) :=
      take_eq_ok_iff.mpr ⟨rfl, rfl⟩
    have hbody : Text.ofBytes? (Text.bytes s) = some s := Text.ofBytes?_eq_some_iff.mpr rfl
    simp only [hcount, htake, hbody]

/-- Reading by a count takes as many entries as the count says, and each of them whole. -/
theorem readTexts_eq_ok_iff {count : Nat} {bs rest : Bytes} {entries : List String} :
    readTexts count bs = (entries, .ok rest) ↔
      entries.length = count ∧ (∀ s ∈ entries, s.utf8ByteSize < 2 ^ 32) ∧
        bs = entries.flatMap ofText ++ rest := by
  induction count generalizing bs entries with
  | zero =>
    rw [readTexts, List.length_eq_zero_iff]
    constructor
    · intro h
      cases h
      exact ⟨rfl, by simp, rfl⟩
    · rintro ⟨rfl, -, rfl⟩
      rfl
  | succ count ih =>
    rw [readTexts]
    constructor
    · intro h
      split at h
      · cases h
      · rename_i s tail htext
        cases hrest : readTexts count tail with
        | mk more ending =>
          rw [hrest] at h
          cases h
          obtain ⟨hs, rfl⟩ := readText_eq_ok_iff.mp htext
          obtain ⟨hlen, hmore, rfl⟩ := ih.mp hrest
          refine ⟨by rw [List.length_cons, hlen], List.forall_mem_cons.mpr ⟨hs, hmore⟩, ?_⟩
          rw [List.flatMap_cons, List.append_assoc]
    · rintro ⟨hlen, hfits, rfl⟩
      cases entries with
      | nil => cases hlen
      | cons s more =>
        obtain ⟨hs, hmore⟩ := List.forall_mem_cons.mp hfits
        have htext : readText ((s :: more).flatMap ofText ++ rest) =
            .ok (s, more.flatMap ofText ++ rest) :=
          readText_eq_ok_iff.mpr ⟨hs, by rw [List.flatMap_cons, List.append_assoc]⟩
        have hrest : readTexts count (more.flatMap ofText ++ rest) = (more, .ok rest) :=
          ih.mpr ⟨Nat.succ.inj hlen, hmore, rfl⟩
        simp only [htext, hrest]

theorem putText_eq (buffer : Bytes) (s : String) : putText buffer s = buffer ++ ofText s := by
  rw [putText, ofText, List.append_assoc]

theorem foldl_putText (buffer : Bytes) (entries : List String) :
    entries.foldl putText buffer = buffer ++ entries.flatMap ofText := by
  induction entries generalizing buffer with
  | nil => simp
  | cons s entries ih =>
    rw [List.foldl_cons, ih, putText_eq, List.flatMap_cons, List.append_assoc]

end Wire

namespace Field

theorem length_encode (field : Field) : field.encode.length = field.encodedLength := by
  cases field with
  | scalar bytes => rfl
  | text content => exact Wire.length_ofText content
  | texts entries => exact Wire.length_ofTexts entries

@[simp] theorem encodeAll_nil : encodeAll [] = [] := rfl

@[simp] theorem encodeAll_cons (field : Field) (fields : List Field) :
    encodeAll (field :: fields) = field.encode ++ encodeAll fields := rfl

theorem encodeAll_append (fields fields' : List Field) :
    encodeAll (fields ++ fields') = encodeAll fields ++ encodeAll fields' :=
  List.flatMap_append

theorem length_encodeAll (fields : List Field) :
    (encodeAll fields).length = (fields.map encodedLength).sum := by
  induction fields with
  | nil => rfl
  | cons field fields ih =>
    rw [encodeAll_cons, List.length_append, length_encode, ih, List.map_cons, List.sum_cons]

/-- Writing leaves what is in the buffer and adds the stored form. -/
theorem write_eq (buffer : Bytes) (field : Field) :
    field.write buffer = buffer ++ field.encode := by
  cases field with
  | scalar bytes => rfl
  | text content => exact Wire.putText_eq buffer content
  | texts entries =>
    rw [write, Wire.foldl_putText, encode, Wire.ofTexts, List.append_assoc]

@[simp] theorem writeAll_nil (buffer : Bytes) : writeAll buffer [] = buffer := rfl

@[simp] theorem writeAll_cons (buffer : Bytes) (field : Field) (fields : List Field) :
    writeAll buffer (field :: fields) = writeAll (field.write buffer) fields := rfl

theorem writeAll_eq (buffer : Bytes) (fields : List Field) :
    writeAll buffer fields = buffer ++ encodeAll fields := by
  induction fields generalizing buffer with
  | nil => simp
  | cons field fields ih =>
    rw [writeAll_cons, ih, write_eq, encodeAll_cons, List.append_assoc]

end Field

/-- Reading a field succeeds on its stored form and on nothing else, whatever follows. -/
theorem Kind.decode_eq_ok_iff {kind : Kind} {bs rest : Bytes} {field : Field} :
    kind.decode bs = .ok (field, rest) ↔
      field.kind = kind ∧ field.Fits ∧ bs = field.encode ++ rest := by
  constructor
  · intro h
    cases kind with
    | scalar width =>
      simp only [Kind.decode] at h
      split at h
      · cases h
      · rename_i head tail htake
        cases h
        obtain ⟨hbs, hlen⟩ := Wire.take_eq_ok_iff.mp htake
        exact ⟨congrArg Kind.scalar hlen, trivial, hbs⟩
    | text =>
      simp only [Kind.decode] at h
      split at h
      · cases h
      · rename_i content tail htext
        cases h
        obtain ⟨hs, hbs⟩ := Wire.readText_eq_ok_iff.mp htext
        exact ⟨rfl, hs, hbs⟩
    | texts =>
      simp only [Kind.decode] at h
      split at h
      · cases h
      · rename_i count tail hcount
        split at h
        · cases h
        · rename_i entries after htexts
          cases h
          obtain ⟨hn, hbs⟩ := Wire.readCount_eq_ok_iff.mp hcount
          obtain ⟨rfl, hfits, rfl⟩ := Wire.readTexts_eq_ok_iff.mp htexts
          exact ⟨rfl, ⟨hn, hfits⟩, by rw [hbs, Field.encode, Wire.ofTexts, List.append_assoc]⟩
  · rintro ⟨rfl, hfits, rfl⟩
    cases field with
    | scalar bytes =>
      simp only [Field.kind, Kind.decode, Field.encode, Wire.take_eq_ok_iff.mpr ⟨rfl, rfl⟩]
    | text content =>
      simp only [Field.kind, Kind.decode, Field.encode,
        Wire.readText_eq_ok_iff.mpr ⟨hfits, rfl⟩]
    | texts entries =>
      obtain ⟨hn, hentries⟩ := hfits
      have hcount : Wire.readCount (Wire.ofTexts entries ++ rest) =
          .ok (entries.length, entries.flatMap Wire.ofText ++ rest) :=
        Wire.readCount_eq_ok_iff.mpr ⟨hn, by rw [Wire.ofTexts, List.append_assoc]⟩
      have htexts := Wire.readTexts_eq_ok_iff.mpr
        ⟨rfl, hentries, (rfl : entries.flatMap Wire.ofText ++ rest = _)⟩
      simp only [Field.kind, Kind.decode, Field.encode, hcount, htexts]

end Repaint
