import Repaint.Proofs.LastCapture
import Repaint.Proofs.Strict

/-!
A scalar and a text that have changed places are never restored as if nothing had happened. The
bytes alone cannot tell: a number that equals the length of the text after it reads as that length,
and the swapped slots take the whole buffer. What tells is the layout, whose fingerprints are
computed here, for each width that a scalar of the library can have.
-/

set_option autoImplicit false

namespace Repaint

/-- The widths that numbers come in, the least of which is also that of a truth value. -/
def NumberFormat.widths : List Nat := [1, 2, 4, 8, 16]

theorem NumberFormat.width_mem_widths (format : NumberFormat) : format.width ∈ widths := by
  cases format <;> decide

/-- A kind that opens with a count. -/
def Kind.IsCounted (kind : Kind) : Prop := kind = .text ∨ kind = .texts

namespace Cell

variable {cell : Cell}

theorem kind_of_isScalar (h : cell.field.isScalar = true) :
    ∃ width ∈ NumberFormat.widths, cell.kind = .scalar width := by
  cases cell with
  | number n => exact ⟨n.format.width, n.format.width_mem_widths, rfl⟩
  | bool b => exact ⟨1, by decide, rfl⟩
  | text content => cases h
  | texts entries => cases h

theorem isCounted_of_not_isScalar (h : cell.field.isScalar = false) : cell.kind.IsCounted := by
  cases cell with
  | number n => cases h
  | bool b => cases h
  | text content => exact .inl rfl
  | texts entries => exact .inr rfl

end Cell

namespace Layout

/-- The hash of each description, evaluated. -/
theorem fingerprint_swapped_ne {width : Nat} (hwidth : width ∈ NumberFormat.widths) {kind : Kind}
    (hkind : kind.IsCounted) :
    fingerprint [.scalar width, kind] ≠ fingerprint [kind, .scalar width] := by
  rcases hkind with rfl | rfl
  · revert width
    decide
  · revert width
    decide

theorem fingerprint_reverse_ne {scalar counted : Cell} (hscalar : scalar.field.isScalar = true)
    (hcounted : counted.field.isScalar = false) {kinds : List Kind}
    (hkinds : kinds = [scalar.kind, counted.kind] ∨ kinds = [counted.kind, scalar.kind]) :
    fingerprint kinds.reverse ≠ fingerprint kinds := by
  obtain ⟨width, hwidth, hkind⟩ := Cell.kind_of_isScalar hscalar
  have hne := fingerprint_swapped_ne hwidth (Cell.isCounted_of_not_isScalar hcounted)
  rw [← hkind] at hne
  rcases hkinds with rfl | rfl
  · exact hne.symm
  · exact hne

end Layout

theorem Entry.not_sound_of_layout {entry : Entry} {kinds : List Kind}
    (h : Layout.fingerprint kinds ≠ entry.layout) (key : Key) (reading : Reading) :
    entry.judge key true reading kinds ≠ .sound := by
  intro hsound
  cases judged_of_judge hsound with
  | sound _ _ hsame => exact h (hsame rfl)

namespace Store

variable {σ ω τ υ : Type} [Slot σ ω] [Slot τ υ] {store : Store} {key : Key} {entry : Entry}
  {slots : List τ}

/-- Slots of another fingerprint than the one stored are refused, however the bytes read, and
under the strict policy nothing of the call is left to see. -/
theorem refused_of_layout (hcheck : store.config.checkLayout = true)
    (hentry : store.entry? key = some entry) {given : υ}
    (hlayout : Layout.fingerprint (Slot.kinds slots given) ≠ entry.layout)
    (hkeep : store.KeepsKinds key slots given) :
    (∃ error, (store.restore key slots given).result = .error error) ∧
      (store.config.policy = .strict →
        (store.restore key slots given).slots = slots ∧
          (store.restore key slots given).shared = given ∧
          (store.restoreNoted key slots given).shared.1 = []) := by
  have hnot : entry.judge key store.config.checkLayout (entry.read (Slot.kinds slots given))
      (Slot.kinds slots given) ≠ .sound := by
    rw [hcheck]
    exact Entry.not_sound_of_layout hlayout key _
  constructor
  · rw [restore_result hentry hkeep]
    exact Verdict.result_of_ne_sound hnot
  · intro hstrict
    exact (strict_of_not_sound hstrict hentry hnot).2

/-- A pair saved as a scalar and a text, or list of texts, in either order is not restored in the
other order. The call fails whatever the values were, and a strict call touches no slot. -/
theorem swapped_pair_refused (hcheck : store.config.checkLayout = true) {scalar counted : Cell}
    (hscalar : scalar.field.isScalar = true) (hcounted : counted.field.isScalar = false)
    {saved : List σ} {shared : ω}
    (hsaved : Slot.savedKinds saved shared = [scalar.kind, counted.kind] ∨
      Slot.savedKinds saved shared = [counted.kind, scalar.kind])
    (hheld : store.Remembers key saved shared) {given : υ}
    (hswapped : Slot.kinds slots given = (Slot.savedKinds saved shared).reverse)
    (hkeep : store.KeepsKinds key slots given) :
    let reply := (store.cache .restore key slots given).1
    (∃ error, reply.result = .error error) ∧
      (store.config.policy = .strict →
        reply.slots = slots ∧ reply.shared = given ∧
          (store.restoreNoted key slots given).shared.1 = []) := by
  intro reply
  have hlayout : Layout.fingerprint (Slot.kinds slots given) ≠
      Layout.fingerprint (Slot.savedKinds saved shared) := by
    rw [hswapped]
    exact Layout.fingerprint_reverse_ne hscalar hcounted hsaved
  exact refused_of_layout hcheck (entry_of_remembers hheld) hlayout hkeep

/-- The number is the length of the text, so that the swapped slots read all the bytes and only
their layout is at fault. -/
theorem length_and_text_swapped :
    let length := Cell.number (Number.ofInt .int32 2)
    let word := Cell.text "hi"
    let saved := [Place.cell length, .cell word]
    let slots := [Place.cell word.blank, .cell length.blank]
    let store := ((empty { policy := .strict }).save ⟨"pair"⟩ saved []).2
    let reply := (store.cache .restore ⟨"pair"⟩ slots []).1
    (store.config.checkLayout = true ∧ length.field.isScalar = true ∧
      word.field.isScalar = false ∧ Slot.savedKinds saved [] = [length.kind, word.kind] ∧
      store.Remembers ⟨"pair"⟩ saved [] ∧
      Slot.kinds slots [] = (Slot.savedKinds saved []).reverse ∧
      store.KeepsKinds ⟨"pair"⟩ slots []) ∧
    reply.result = .error (.layoutMismatch ⟨"pair"⟩) ∧ reply.slots = slots := by
  intro length word saved slots store reply
  have hlength : length.field.isScalar = true := rfl
  have hword : word.field.isScalar = false := rfl
  have hsaved : Slot.savedKinds saved [] = [length.kind, word.kind] := rfl
  have hheld : store.Remembers ⟨"pair"⟩ saved [] :=
    ⟨empty { policy := .strict }, .name "pair", [], rfl, by simp, rfl⟩
  have hkeep : store.KeepsKinds ⟨"pair"⟩ slots [] := Place.keepsKinds store _ slots []
  have hresult : reply.result = .error (.layoutMismatch ⟨"pair"⟩) := by decide
  obtain ⟨-, hstrict⟩ := swapped_pair_refused rfl hlength hword (.inl hsaved) hheld rfl hkeep
  exact ⟨⟨rfl, hlength, hword, hsaved, hheld, rfl, hkeep⟩, hresult, (hstrict rfl).1⟩

end Store
end Repaint
