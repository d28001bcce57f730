import Repaint.Proofs.Cell
import Repaint.Proofs.Noted

/-!
The fields that a restore deals out to its slots. Whatever bytes stand under the key, and under
either policy, they go to the first slots, one to each and in order, and each has the kind that its
slot says it has. A variable that comes with the library therefore never meets a field that it would
refuse. How the entry was saved is left open, so its bytes may be those of slots that captured
something else than their kinds said.
-/

set_option autoImplicit false

namespace Repaint

namespace Cell

/-- Cells given fields of their kinds leave the shared state alone. -/
theorem Embedded.restoreAll_silent {σ ω : Type} [Slot σ ω] {embed : Cell → σ}
    (h : Embedded embed) {cells : List Cell} {fields : List Field}
    (hkinds : fields.map Field.kind = (cells.map Cell.kind).take fields.length) (shared : ω) :
    (Slot.restoreAll (cells.map embed) fields shared).2 = shared := by
  induction cells generalizing fields with
  | nil => cases fields <;> rfl
  | cons cell cells ih =>
    cases fields with
    | nil => rfl
    | cons field fields =>
      obtain ⟨hfield, hfields⟩ := List.cons.inj hkinds
      obtain ⟨cell', hassign⟩ := assign_of_kind hfield
      rw [List.map_cons, Slot.restoreAll_cons, h.restore_eq hassign]
      exact ih hfields

theorem embedded_id : Embedded (id : Cell → Cell) where
  kind_eq _ _ := rfl
  capture_eq _ _ := rfl
  restore_eq {cell cell' field} hassign alarms := by
    show Slot.restore cell field alarms = (cell', alarms)
    rw [restore_eq, hassign]

theorem told (store : Store) (key : Key) (cells : List Cell) (alarms : List Mismatch) :
    store.told key cells alarms = cells.map Cell.kind := by
  have htold := embedded_id.told store key cells alarms
  rwa [List.map_id] at htold

/-- No mismatch is told. -/
theorem restoreAll_silent {cells : List Cell} {fields : List Field}
    (hkinds : fields.map Field.kind = (cells.map Cell.kind).take fields.length)
    (alarms : List Mismatch) : (Slot.restoreAll cells fields alarms).2 = alarms := by
  have hsilent := embedded_id.restoreAll_silent hkinds alarms
  rwa [List.map_id] at hsilent

end Cell

namespace Store

/-- No call makes a cell refuse what it is given. A capture saves of every cell a field of its kind.
A restore gives fields to the first cells, one to each and in order, every one of the kind of its
cell, which takes it over; no mismatch is ever told. -/
theorem no_cell_refuses (store : Store) (phase : Phase) (key : Key) (cells : List Cell)
    (alarms : List Mismatch) :
    let reply := (store.cache phase key cells alarms).1
    reply.shared = alarms ∧
    (phase = .capture → reply.slots = cells ∧ Slot.Honest cells alarms) ∧
    (phase = .restore →
      let noted := store.restoreNoted key cells alarms
      Noted.Mirrors noted reply ∧
      noted.shared.1.map Note.place = List.range noted.shared.1.length ∧
      ∀ note ∈ noted.shared.1, ∃ cell cell' : Cell, cells[note.place]? = some cell ∧
        note.field.kind = Slot.kind cell alarms ∧ cell.assign note.field = .ok cell' ∧
        reply.slots[note.place]? = some cell') := by
  intro reply
  cases phase with
  | capture =>
    have hcaptured := Cell.embedded_id.captureAll cells alarms
    have hhonest := Cell.embedded_id.honest cells alarms
    rw [List.map_id] at hcaptured hhonest
    exact ⟨congrArg Prod.snd hcaptured, fun _ => ⟨rfl, hhonest⟩, nofun⟩
  | restore =>
    have hdeals := store.restore_deals key cells alarms
    have hkinds := store.kinds_dealt key (cells.map Cell.kind)
    have hnotes := store.notes_dealt key cells alarms
    rw [Cell.told] at hdeals hnotes
    refine ⟨?_, nofun, fun _ => ⟨store.restoreNoted_mirrors key cells alarms, ?_, ?_⟩⟩
    · exact (congrArg Prod.snd hdeals).trans (Cell.restoreAll_silent hkinds alarms)
    · rw [hnotes, Note.numbering.map_place, List.length_mapIdx]
    · intro note hnote
      rw [hnotes] at hnote
      obtain ⟨i, hi, rfl⟩ := List.mem_mapIdx.mp hnote
      have hfield := List.getElem?_eq_getElem hi
      have hkind := kind_dealt hfield
      rw [List.getElem?_map] at hkind
      obtain ⟨cell, hcell, hsame⟩ := Option.map_eq_some_iff.mp hkind
      obtain ⟨cell', hassign⟩ := Cell.assign_of_kind hsame.symm
      obtain ⟨before, hafter⟩ := Slot.getElem?_restoreAll hcell hfield alarms
      rw [← hdeals, Cell.restore_eq, hassign] at hafter
      exact ⟨cell, cell', hcell, hsame.symm, hassign, hafter⟩

/-- A slot said to be a number has saved a text. Reading that back gives the first variable a byte
of the text's length, and stops before the second. -/
theorem misstated_kind_meets_no_refusal :
    let saved := [Place.custom (.text "hi") (some (.scalar 6))]
    let store := ((empty {}).cache .capture ⟨"k"⟩ saved []).2
    let cells := [Cell.bool false, .text "old"]
    let reply := (store.cache .restore ⟨"k"⟩ cells []).1
    ¬ Slot.Honest saved [] ∧ reply.result = .error (.underrun ⟨"k"⟩ 1 1 1744830464 1) ∧
      reply.slots = [.bool true, .text "old"] ∧ reply.shared = [] := by
  intro saved store cells reply
  refine ⟨?_, ?_, ?_, (no_cell_refuses store .restore ⟨"k"⟩ cells []).1⟩
  · unfold Slot.Honest
    decide
  · decide
  · decide

end Store
end Repaint
