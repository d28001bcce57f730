import Repaint.Proofs.Faults
import Repaint.Proofs.LastCapture

/-!
Slots added to the end of a list, or dropped from it, are always told. Fewer slots than were saved
leave bytes over, and the report says how many were taken; more slots run into the end of the
buffer, at the first of them that needs a byte. Neither depends on the configuration, since both are
found before the layout is looked at. The slots need not keep their kinds: those that count are the
kinds they tell the call, each when its turn comes.
-/

set_option autoImplicit false

namespace Repaint

namespace Spells

variable {kinds : List Kind} {fields : List Field} {bytes : Bytes}

theorem take (h : Spells kinds fields bytes) (n : Nat) :
    Spells (kinds.take n) (fields.take n) (Field.encodeAll (fields.take n)) where
  kinds_eq := by rw [List.map_take, h.kinds_eq]
  fits := fun field hfield => h.fits field (List.mem_of_mem_take hfield)
  bytes_eq := rfl

/-- Scalars of no width may follow the fields without a byte more. -/
theorem pad (h : Spells kinds fields bytes) (n : Nat) :
    Spells (kinds ++ List.replicate n (.scalar 0)) (fields ++ List.replicate n (.scalar []))
      bytes where
  kinds_eq := by rw [List.map_append, List.map_replicate, h.kinds_eq]; rfl
  fits := by
    intro field hfield
    rcases List.mem_append.mp hfield with hfield | hpad
    · exact h.fits field hfield
    · obtain rfl := List.eq_of_mem_replicate hpad
      trivial
  bytes_eq := by
    have hpad : Field.encodeAll (List.replicate n (.scalar [])) = [] := by
      rw [Field.encodeAll, List.flatMap_eq_nil_iff]
      intro field hfield
      obtain rfl := List.eq_of_mem_replicate hfield
      rfl
    rw [Field.encodeAll_append, hpad, List.append_nil, h.bytes_eq]

end Spells

/-- A list that goes on from another with nothing but scalars of no width, up to a place. -/
theorem Kind.take_of_pad {kinds kinds' : List Kind} {j : Nat} (h : kinds <+: kinds')
    (hj : kinds.length ≤ j) (hle : j ≤ kinds'.length)
    (hpad : ∀ i, kinds.length ≤ i → i < j → kinds'[i]? = some (.scalar 0)) :
    kinds'.take j = kinds ++ List.replicate (j - kinds.length) (.scalar 0) := by
  obtain ⟨tail, rfl⟩ := h
  rw [List.length_append] at hle
  rw [List.take_append, List.take_of_length_le hj]
  congr 1
  refine List.eq_replicate_iff.mpr ⟨by rw [List.length_take]; omega, ?_⟩
  intro kind hkind
  obtain ⟨i, hi, hget⟩ := List.mem_take_iff_getElem.mp hkind
  have hzero := hpad (kinds.length + i) (by omega) (by omega)
  rw [List.getElem?_append_right (by omega), Nat.add_sub_cancel_left,
    List.getElem?_eq_getElem (by omega), hget] at hzero
  exact Option.some.inj hzero

namespace Store

variable {σ ω τ υ : Type} [Slot σ ω] [Slot τ υ] {store : Store} {key : Key} {entry : Entry}
  {kinds : List Kind} {fields : List Field} {slots : List τ}

/-- The slots read the first of the fields stored, and leave the bytes of the others over. -/
theorem result_of_dropped (hentry : store.entry? key = some entry)
    (h : Spells kinds fields entry.data) {given : υ}
    (hinitial : store.told key slots given <+: kinds)
    (hdropped : 0 < ((fields.drop slots.length).map Field.encodedLength).sum) :
    (store.restore key slots given).result =
      .error (.lengthMismatch key ((fields.take slots.length).map Field.encodedLength).sum
        entry.data.length) := by
  have hkinds := List.prefix_iff_eq_take.mp hinitial
  rw [length_told] at hkinds
  have htaken := h.take slots.length
  rw [← hkinds] at htaken
  have hsplit : Field.encodeAll (fields.take slots.length) ++
      Field.encodeAll (fields.drop slots.length) = entry.data := by
    rw [← Field.encodeAll_append, List.take_append_drop, h.bytes_eq]
  have hread : entry.read (store.told key slots given) =
      ⟨fields.take slots.length, (Field.encodeAll (fields.take slots.length)).length, none⟩ :=
    Cursor.read_of_spells ⟨_, hsplit⟩ htaken
  have hshort : (Field.encodeAll (fields.take slots.length)).length ≠ entry.data.length := by
    rw [← hsplit, List.length_append, Field.length_encodeAll (fields.drop slots.length)]
    omega
  obtain ⟨judged, hresult⟩ := restore_judged hentry slots given
  rw [hresult, hread, ← Field.length_encodeAll]
  exact Entry.result_of_short rfl hshort key store.config.checkLayout judged

/-- The slots read all the fields stored, and of those added the first that asks for a byte fails.
-/
theorem result_of_added (hentry : store.entry? key = some entry)
    (h : Spells kinds fields entry.data) {given : υ}
    (hinitial : kinds <+: store.told key slots given) {j : Nat} {kind : Kind}
    (hj : kinds.length ≤ j) (hkind : (store.told key slots given)[j]? = some kind)
    (hne : kind ≠ .scalar 0)
    (hpad : ∀ i, kinds.length ≤ i → i < j →
      (store.told key slots given)[i]? = some (.scalar 0)) :
    (store.restore key slots given).result =
      .error (.underrun key j entry.data.length kind.leadingWidth 0) := by
  obtain ⟨hlt, -⟩ := List.getElem?_eq_some_iff.mp hkind
  obtain ⟨padded, hpadded⟩ :
      ∃ padded, Spells ((store.told key slots given).take j) padded entry.data := by
    rw [Kind.take_of_pad hinitial hj (Nat.le_of_lt hlt) hpad]
    exact ⟨_, h.pad (j - kinds.length)⟩
  have hlen := hpadded.length_eq
  rw [List.length_take, Nat.min_eq_left (Nat.le_of_lt hlt)] at hlen
  subst hlen
  have hread : entry.read (store.told key slots given) =
      ⟨padded, entry.data.length, some (.underrun kind.leadingWidth 0)⟩ := by
    refine Cursor.read_eq_fault_iff.mpr ⟨Nat.le_refl _, ?_, kind, hkind, ?_⟩
    · rwa [List.take_length]
    · rw [List.drop_length]
      exact Kind.decode_nil hne
  have hfault := congrArg Reading.fault? hread
  obtain ⟨judged, hresult⟩ := restore_judged hentry slots given
  rw [hresult, Entry.result_of_fault hfault, hread]
  rfl

/-- A change at the end of the slot list is always told, under any configuration. Of fewer slots,
where those missing had bytes, the lengths taken and stored are told; of more slots, the first that
asks for a byte finds none left at the end of the buffer. The kinds of the slots are those that they
tell the call. -/
theorem trailing_change_told {saved : List σ} {shared : ω}
    (hheld : store.Remembers key saved shared) (hhonest : Slot.Honest saved shared)
    (hfits : ∀ field ∈ (Slot.captureAll saved shared).1, field.Fits) (slots : List τ)
    (given : υ) :
    let captured := (Slot.captureAll saved shared).1
    let stored := (captured.map Field.encodedLength).sum
    let told := store.told key slots given
    let reply := (store.cache .restore key slots given).1
    (store.get? key).map List.length = some stored ∧
    (told <+: Slot.savedKinds saved shared →
      0 < ((captured.drop slots.length).map Field.encodedLength).sum →
      reply.result = .error (.lengthMismatch key
        ((captured.take slots.length).map Field.encodedLength).sum stored)) ∧
    (Slot.savedKinds saved shared <+: told →
      ∀ j kind, saved.length ≤ j → told[j]? = some kind → kind ≠ .scalar 0 →
        (∀ i, saved.length ≤ i → i < j → told[i]? = some (.scalar 0)) →
        reply.result = .error (.underrun key j stored kind.leadingWidth 0)) := by
  intro captured stored told reply
  have hentry := entry_of_remembers hheld
  have hspells : Spells (Slot.savedKinds saved shared) captured (Field.encodeAll captured) :=
    ⟨hhonest, hfits, rfl⟩
  have hstored : (Field.encodeAll captured).length = stored := Field.length_encodeAll captured
  rw [← hstored]
  refine ⟨by rw [get_of_entry hentry, Option.map_some], ?_, ?_⟩
  · intro hinitial hdropped
    exact result_of_dropped hentry hspells hinitial hdropped
  · intro hinitial j kind hj hkind hne hpad
    rw [← Slot.length_savedKinds saved shared] at hj hpad
    exact result_of_added hentry hspells hinitial hj hkind hne hpad

/-- A clock saved as a text and a time. Asked for the text alone it leaves eight bytes over; asked
for a scalar of no width and a number besides, it has no bytes for the number. -/
theorem clock_with_other_ends :
    let saved := [Place.cell (.text "WIFI_FULL"), .cell (.number (Number.ofInt .timestamp 1000))]
    let store := ((empty {}).save ⟨"time"⟩ saved []).2
    let fewer := [Place.cell (.text "")]
    let more := saved ++ [.custom (.scalar []) none, .cell (.number (Number.zero .int32))]
    (store.Remembers ⟨"time"⟩ saved [] ∧ Slot.Honest saved [] ∧
      ∀ field ∈ (Slot.captureAll saved []).1, field.Fits) ∧
    (store.cache .restore ⟨"time"⟩ fewer []).1.result = .error (.lengthMismatch ⟨"time"⟩ 13 21) ∧
    (store.cache .restore ⟨"time"⟩ more []).1.result = .error (.underrun ⟨"time"⟩ 3 21 4 0) := by
  intro saved store fewer more
  have hheld : store.Remembers ⟨"time"⟩ saved [] :=
    ⟨empty {}, .name "time", [], rfl, by simp, rfl⟩
  have hhonest : Slot.Honest saved [] := rfl
  have hfits : ∀ field ∈ (Slot.captureAll saved []).1, field.Fits := by decide
  refine ⟨⟨hheld, hhonest, hfits⟩, ?_, ?_⟩
  · have htold := (trailing_change_told hheld hhonest hfits fewer []).2.1
    rw [Place.told] at htold
    exact htold ⟨[.scalar 8], rfl⟩ (by decide)
  · have htold := (trailing_change_told hheld hhonest hfits more []).2.2
    rw [Place.told] at htold
    exact htold ⟨[.scalar 0, .scalar 4], rfl⟩ 3 (.scalar 4) (by decide) rfl (by decide)
      fun i hle hlt => by
        obtain rfl : i = 2 := by
          have hsaved : saved.length = 2 := rfl
          omega
        rfl

end Store
end Repaint
