import Repaint.Proofs.Inner

/-!
Slots that note what is done to them. A noted slot knows its place in the list, and each time it is
restored it writes down the place and the field it was given; otherwise it does as the slot inside
it does. The notes of a call are thus the restores it made, in the order it made them, and the call
is the one that the slots inside would have had.
-/

set_option autoImplicit false

namespace Repaint

/-- One restore of one slot. -/
structure Note where
  place : Nat
  field : Field
  deriving DecidableEq

theorem Note.numbering : Numbering Note.mk Note.field Note.place :=
  ⟨fun _ _ => rfl, fun _ _ => rfl, fun _ => rfl⟩

structure Noted (σ : Type) where
  place : Nat
  slot : σ
  deriving DecidableEq

variable {σ ω : Type} [Slot σ ω]

/-- The notes stand in front of the state that the slots inside share. -/
instance : Slot (Noted σ) (List Note × ω) where
  kind s state := Slot.kind s.slot state.2
  capture s state :=
    let (field, shared) := Slot.capture s.slot state.2
    (field, state.1, shared)
  restore s field state :=
    let (slot, shared) := Slot.restore s.slot field state.2
    (⟨s.place, slot⟩, state.1 ++ [⟨s.place, field⟩], shared)

namespace Noted

theorem numbering : Numbering (Noted.mk (σ := σ)) Noted.slot Noted.place :=
  ⟨fun _ _ => rfl, fun _ _ => rfl, fun _ => rfl⟩

theorem actsAs_slot : Slot.ActsAs (slot : Noted σ → σ) where
  kind_eq _ _ _ := rfl
  capture_eq _ _ _ := rfl
  restore_eq _ _ _ _ := rfl

theorem updates_notes : Slot.Updates (fun (_ : Noted σ) (notes : List Note) => notes)
    fun s field notes => notes ++ [⟨s.place, field⟩] where
  capture_eq _ _ _ := rfl
  restore_eq _ _ _ _ := rfl

/-- Fields dealt to noted slots are noted in their order. -/
theorem zip_notes {slots : List σ} {fields : List Field} (hle : fields.length ≤ slots.length) :
    ((slots.mapIdx Noted.mk).zip fields).map (fun given => Note.mk given.1.place given.2) =
      fields.mapIdx Note.mk := by
  apply List.ext_getElem
  · simp [hle]
  · simp

/-- The reply of a noted call is that of the plain one, but for the notes. -/
structure Mirrors (noted : Reply (Noted σ) (List Note × ω)) (plain : Reply σ ω) : Prop where
  result : noted.result = plain.result
  slots : noted.slots = plain.slots.mapIdx Noted.mk
  shared : noted.shared.2 = plain.shared
  events : noted.events = plain.events
  discards : noted.discards = plain.discards

end Noted

namespace Store

/-- A restore of slots that note what is done to them, from no notes. -/
def restoreNoted (store : Store) (key : Key) (slots : List σ) (shared : ω) :
    Reply (Noted σ) (List Note × ω) :=
  (store.cache .restore key (slots.mapIdx Noted.mk) ([], shared)).1

/-- Noting changes nothing of a call, whatever its policy and however it ends. -/
theorem restoreNoted_mirrors (store : Store) (key : Key) (slots : List σ) (shared : ω) :
    Noted.Mirrors (store.restoreNoted key slots shared) (store.restore key slots shared) := by
  have hinner := store.restore_inner Noted.actsAs_slot key (slots.mapIdx Noted.mk) [] shared
  have hplaces := store.map_slots_restore Noted.place (fun _ _ _ => rfl) key
    (slots.mapIdx Noted.mk) ([], shared)
  rw [Noted.numbering.map_inner] at hinner
  rw [Noted.numbering.map_place] at hplaces
  rw [hinner]
  exact ⟨rfl, Noted.numbering.eq_mapIdx hplaces, rfl, rfl, rfl⟩

/-- The notes are of the fields dealt, each in its place. -/
theorem notes_dealt (store : Store) (key : Key) (slots : List σ) (shared : ω) :
    (store.restoreNoted key slots shared).shared.1 =
      (store.dealt key (store.told key slots shared)).mapIdx Note.mk := by
  have htold := store.told_inner Noted.actsAs_slot key (slots.mapIdx Noted.mk) [] shared
  have hle := store.length_dealt_le key (store.told key slots shared)
  rw [Noted.numbering.map_inner] at htold
  rw [length_told] at hle
  have hnotes := store.restore_own Noted.updates_notes key (slots.mapIdx Noted.mk) [] shared
  rw [← htold, foldl_log, List.nil_append, Noted.zip_notes hle] at hnotes
  exact hnotes

end Store

end Repaint
