import Repaint.Proofs.Cell
import Repaint.Proofs.Restoring

/-!
The result of a restore told by the bytes alone: which prefix of the buffer can be read by the
kinds of the slots, and whether the layout check, where it is on, knows those kinds. The four
errors exclude each other, and each is decided without regard to how the reading went on. No
restore of the call is to change a kind, be it that of the slot restored or of another.
-/

set_option autoImplicit false

namespace Repaint

/-- A field under the key ran out of bytes or held malformed text. -/
def CacheError.IsReadError (key : Key) : CacheError → Prop
  | .underrun key' _ _ _ _ => key' = key
  | .decode _ => True
  | _ => False

theorem CacheError.isReadError_ofFault (key : Key) (slot offset : Nat) (fault : Fault) :
    (CacheError.ofFault key slot offset fault).IsReadError key := by
  cases fault with
  | underrun needed remaining => exact rfl
  | malformedText => exact trivial

/-- A reading that comes to the end of the bytes has found one field of each kind in them. -/
theorem Entry.spells_of_read {entry : Entry} {kinds : List Kind}
    (hnone : (entry.read kinds).fault? = none)
    (hend : (entry.read kinds).offset = entry.data.length) :
    Spells kinds (entry.read kinds).fields entry.data := by
  obtain ⟨front, hfront, hspells⟩ := Cursor.spells_of_read hnone
  have hread := Cursor.read_of_spells hfront hspells
  have hlen : front.length = entry.data.length := (congrArg Reading.offset hread).symm.trans hend
  obtain rfl := hfront.eq_of_length hlen
  exact hspells

/-- A sound reading has read all the bytes, and the layout stands or is not asked about. -/
theorem Entry.judge_eq_sound_iff {entry : Entry} {key : Key} {checkLayout : Bool}
    {kinds : List Kind} :
    entry.judge key checkLayout (entry.read kinds) kinds = .sound ↔
      (∃ fields, Spells kinds fields entry.data) ∧
        ¬ (checkLayout = true ∧ Layout.fingerprint kinds ≠ entry.layout) := by
  constructor
  · intro h
    cases judged_of_judge h with
    | sound hnone hend hsame =>
      exact ⟨⟨_, spells_of_read hnone hend⟩, fun hdiffers => hdiffers.2 (hsame hdiffers.1)⟩
  · rintro ⟨⟨fields, hspells⟩, hsame⟩
    rw [judge_of_spells List.prefix_rfl hspells, if_neg (by simp), if_neg]
    rwa [Bool.and_eq_true, bne_iff_ne]

namespace Store

/-- The layout check is on, and the kinds are not those the fingerprint was taken of. -/
def LayoutDiffers (store : Store) (entry : Entry) (kinds : List Kind) : Prop :=
  store.config.checkLayout = true ∧ Layout.fingerprint kinds ≠ entry.layout

theorem layoutDiffers_iff {store : Store} {entry : Entry} {kinds : List Kind} :
    store.LayoutDiffers entry kinds ↔
      (store.config.checkLayout && Layout.fingerprint kinds != entry.layout) = true := by
  rw [LayoutDiffers, Bool.and_eq_true, bne_iff_ne]

instance (store : Store) (entry : Entry) (kinds : List Kind) :
    Decidable (store.LayoutDiffers entry kinds) :=
  decidable_of_iff _ layoutDiffers_iff.symm

variable {σ ω : Type} [Slot σ ω] {store : Store} {key : Key} {entry : Entry} {slots : List σ}
  {shared : ω}

/-- Length comes before layout once a prefix has been read. -/
theorem result_of_spells (hentry : store.entry? key = some entry)
    (hkeep : store.KeepsKinds key slots shared) {fields : List Field} {front : Bytes}
    (hfront : front <+: entry.data) (h : Spells (Slot.kinds slots shared) fields front) :
    (store.restore key slots shared).result =
      if front.length ≠ entry.data.length then
        .error (.lengthMismatch key front.length entry.data.length)
      else if store.LayoutDiffers entry (Slot.kinds slots shared) then .error (.layoutMismatch key)
      else .ok (.restored entry.data.length) := by
  rw [restore_result hentry hkeep, Entry.judge_of_spells hfront h]
  simp only [layoutDiffers_iff]
  split
  · rfl
  · split <;> rfl

theorem result_of_not_readable (hentry : store.entry? key = some entry)
    (hkeep : store.KeepsKinds key slots shared)
    (h : ¬ entry.Readable (Slot.kinds slots shared)) :
    ∃ slot offset fault,
      (store.restore key slots shared).result = .error (.ofFault key slot offset fault) := by
  obtain ⟨slot, offset, fault, hjudge⟩ :=
    Entry.judge_of_not_readable h store.config.checkLayout
  refine ⟨slot, offset, fault, ?_⟩
  rw [restore_result hentry hkeep, hjudge]
  rfl

theorem miss_iff (slots : List σ) (shared : ω) :
    (store.restore key slots shared).result = .ok .miss ↔ store.entry? key = none := by
  constructor
  · intro h
    rcases restore_eq_ok h with ⟨habsent, -⟩ | ⟨entry, -, hrestored⟩
    · exact habsent
    · cases hrestored
  · intro h
    rw [restore_of_absent h]

theorem readError_iff (hentry : store.entry? key = some entry)
    (hkeep : store.KeepsKinds key slots shared) :
    (∃ error, (store.restore key slots shared).result = .error error ∧ error.IsReadError key) ↔
      ¬ entry.Readable (Slot.kinds slots shared) := by
  constructor
  · rintro ⟨error, herror, hread⟩ ⟨front, fields, hfront, hspells⟩
    rw [result_of_spells hentry hkeep hfront hspells] at herror
    split at herror
    · cases herror
      exact hread
    · split at herror
      · cases herror
        exact hread
      · cases herror
  · intro h
    obtain ⟨slot, offset, fault, hresult⟩ := result_of_not_readable hentry hkeep h
    exact ⟨_, hresult, CacheError.isReadError_ofFault key slot offset fault⟩

theorem lengthMismatch_iff (hentry : store.entry? key = some entry)
    (hkeep : store.KeepsKinds key slots shared) (consumed stored : Nat) :
    (store.restore key slots shared).result = .error (.lengthMismatch key consumed stored) ↔
      stored = entry.data.length ∧ consumed < stored ∧
        ∃ front fields, front <+: entry.data ∧ front.length = consumed ∧
          Spells (Slot.kinds slots shared) fields front := by
  constructor
  · intro h
    by_cases hread : entry.Readable (Slot.kinds slots shared)
    · obtain ⟨front, fields, hfront, hspells⟩ := hread
      rw [result_of_spells hentry hkeep hfront hspells] at h
      split at h
      · rename_i hne
        cases h
        have hle := hfront.length_le
        exact ⟨rfl, by omega, front, fields, hfront, rfl, hspells⟩
      · split at h <;> cases h
    · obtain ⟨slot, offset, fault, hresult⟩ := result_of_not_readable hentry hkeep hread
      rw [hresult] at h
      cases fault <;> cases h
  · rintro ⟨rfl, hlt, front, fields, hfront, rfl, hspells⟩
    rw [result_of_spells hentry hkeep hfront hspells, if_pos (by omega)]

/-- The results once all the bytes under the key have been read. -/
theorem result_of_spells_data (hentry : store.entry? key = some entry)
    (hkeep : store.KeepsKinds key slots shared) {fields : List Field}
    (h : Spells (Slot.kinds slots shared) fields entry.data) :
    (store.restore key slots shared).result =
      if store.LayoutDiffers entry (Slot.kinds slots shared) then .error (.layoutMismatch key)
      else .ok (.restored entry.data.length) := by
  rw [result_of_spells hentry hkeep List.prefix_rfl h, if_neg (by simp)]

/-- A restore that ends with neither a read error nor a length mismatch took all the bytes. -/
theorem result_cases (hentry : store.entry? key = some entry)
    (hkeep : store.KeepsKinds key slots shared) :
    (∃ error, (store.restore key slots shared).result = .error error ∧ error.IsReadError key) ∨
    (∃ consumed, (store.restore key slots shared).result =
      .error (.lengthMismatch key consumed entry.data.length)) ∨
    ∃ fields, Spells (Slot.kinds slots shared) fields entry.data := by
  by_cases h : entry.Readable (Slot.kinds slots shared)
  · obtain ⟨front, fields, hfront, hspells⟩ := h
    by_cases hlen : front.length = entry.data.length
    · obtain rfl := hfront.eq_of_length hlen
      exact Or.inr (Or.inr ⟨fields, hspells⟩)
    · have hresult := result_of_spells hentry hkeep hfront hspells
      rw [if_pos hlen] at hresult
      exact Or.inr (Or.inl ⟨front.length, hresult⟩)
  · exact Or.inl ((readError_iff hentry hkeep).mpr h)

theorem layoutMismatch_iff (hentry : store.entry? key = some entry)
    (hkeep : store.KeepsKinds key slots shared) :
    (store.restore key slots shared).result = .error (.layoutMismatch key) ↔
      (∃ fields, Spells (Slot.kinds slots shared) fields entry.data) ∧
        store.LayoutDiffers entry (Slot.kinds slots shared) := by
  constructor
  · intro h
    rcases result_cases hentry hkeep with
      ⟨error, herror, hread⟩ | ⟨consumed, hlength⟩ | ⟨fields, hspells⟩
    · rw [h] at herror
      cases herror
      exact hread.elim
    · rw [h] at hlength
      cases hlength
    · rw [result_of_spells_data hentry hkeep hspells] at h
      split at h
      · rename_i hdiffers
        exact ⟨⟨fields, hspells⟩, hdiffers⟩
      · cases h
  · rintro ⟨⟨fields, hspells⟩, hdiffers⟩
    rw [result_of_spells_data hentry hkeep hspells, if_pos hdiffers]

theorem restored_iff (hentry : store.entry? key = some entry)
    (hkeep : store.KeepsKinds key slots shared) (length : Nat) :
    (store.restore key slots shared).result = .ok (.restored length) ↔
      length = entry.data.length ∧ (∃ fields, Spells (Slot.kinds slots shared) fields entry.data) ∧
        ¬ store.LayoutDiffers entry (Slot.kinds slots shared) := by
  rw [restore_result hentry hkeep, Verdict.result_eq_ok_iff, Entry.judge_eq_sound_iff,
    Outcome.restored.injEq, and_comm]
  rfl

/-- All the bytes were read and the layout stands: the whole answer, under either policy. -/
theorem restore_of_spells (hentry : store.entry? key = some entry)
    (hkeep : store.KeepsKinds key slots shared) {fields : List Field}
    (h : Spells (Slot.kinds slots shared) fields entry.data)
    (hsame : ¬ store.LayoutDiffers entry (Slot.kinds slots shared)) :
    store.restore key slots shared =
      ⟨.ok (.restored entry.data.length), (Slot.restoreAll slots fields shared).1,
        (Slot.restoreAll slots fields shared).2, [.restored key slots.length], 0⟩ := by
  have hsound : entry.judge key store.config.checkLayout (entry.read (Slot.kinds slots shared))
      (Slot.kinds slots shared) = .sound := Entry.judge_eq_sound_iff.mpr ⟨⟨fields, h⟩, hsame⟩
  have hread : entry.read (Slot.kinds slots shared) = ⟨fields, entry.data.length, none⟩ :=
    Cursor.read_of_spells List.prefix_rfl h
  have hwhole := restore_of_sound hentry hkeep hsound
  rwa [hread] at hwhole

/-- Every restore, told by the bytes under the key. -/
theorem restore_classified (store : Store) (key : Key) (slots : List σ) (shared : ω)
    (hkeep : store.KeepsKinds key slots shared) :
    let kinds := Slot.kinds slots shared
    let reply := (store.cache .restore key slots shared).1
    (reply.result = .ok .miss ↔ store.entry? key = none) ∧
    ∀ entry, store.entry? key = some entry →
      (∀ front front' fields fields', front <+: entry.data → front' <+: entry.data →
        Spells kinds fields front → Spells kinds fields' front' →
        front = front' ∧ fields = fields') ∧
      ((∃ error, reply.result = .error error ∧ error.IsReadError key) ↔
        ¬ entry.Readable kinds) ∧
      (∀ consumed stored, reply.result = .error (.lengthMismatch key consumed stored) ↔
        stored = entry.data.length ∧ consumed < stored ∧
          ∃ front fields, front <+: entry.data ∧ front.length = consumed ∧
            Spells kinds fields front) ∧
      (reply.result = .error (.layoutMismatch key) ↔
        (∃ fields, Spells kinds fields entry.data) ∧ store.config.checkLayout = true ∧
          Layout.fingerprint kinds ≠ entry.layout) ∧
      (∀ length, reply.result = .ok (.restored length) ↔
        length = entry.data.length ∧ (∃ fields, Spells kinds fields entry.data) ∧
          ¬ (store.config.checkLayout = true ∧ Layout.fingerprint kinds ≠ entry.layout)) ∧
      (∀ fields length, Spells kinds fields entry.data →
        reply.result = .ok (.restored length) →
        Slot.Handed slots fields shared reply.slots reply.shared) := by
  intro kinds reply
  refine ⟨miss_iff slots shared, ?_⟩
  intro entry hentry
  refine ⟨?_, readError_iff hentry hkeep, lengthMismatch_iff hentry hkeep,
    layoutMismatch_iff hentry hkeep, restored_iff hentry hkeep, ?_⟩
  · intro front front' fields fields' hfront hfront' h h'
    exact h.unique hfront hfront' h'
  · intro fields length h hresult
    obtain ⟨-, -, hsame⟩ := (restored_iff hentry hkeep length).mp hresult
    have hlen : slots.length = fields.length := by rw [h.length_eq, Slot.length_kinds]
    show Slot.Handed slots fields shared (store.restore key slots shared).slots
      (store.restore key slots shared).shared
    rw [restore_of_spells hentry hkeep h hsame]
    exact Slot.handed_restoreAll hlen shared

/-- A number and a text of the right length read as a text and a number take all the bytes, and
only the fingerprint tells. -/
theorem swapped_slots_classified :
    let entry : Entry :=
      ⟨Layout.fingerprint [.scalar 4, .text], Field.encodeAll [.scalar [2, 0, 0, 0], .text "hi"]⟩
    let store := (empty {}).insert ⟨"k"⟩ entry
    let slots := [Place.cell (.text ""), Place.cell (.number (Number.zero .int32))]
    store.KeepsKinds ⟨"k"⟩ slots [] ∧
    (store.cache .restore ⟨"k"⟩ slots []).1.result = .error (.layoutMismatch ⟨"k"⟩) := by
  intro entry store slots
  have hkeep : store.KeepsKinds ⟨"k"⟩ slots [] := Place.keepsKinds store ⟨"k"⟩ slots []
  have hentry := entry_insert_self (empty {}) ⟨"k"⟩ entry
  have hspells : Spells (Slot.kinds slots []) [.text "\x02\x00", .scalar [0, 0, 104, 105]]
      entry.data := ⟨rfl, by decide, by decide⟩
  refine ⟨hkeep, ?_⟩
  refine ((restore_classified store ⟨"k"⟩ slots [] hkeep).2 entry hentry).2.2.2.1.mpr ?_
  exact ⟨⟨_, hspells⟩, rfl, by decide⟩

end Store
end Repaint
