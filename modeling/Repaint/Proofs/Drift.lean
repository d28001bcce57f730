import Repaint.Proofs.LastCapture
import Repaint.Proofs.Layout

/-!
Drift between the slots saved and the slots restored is told unless the hash collides. The
buffer alone cannot tell: other kinds may read all its bytes. What tells them is the layout, and
the widths that a layout cuts short are wider than any buffer considered here.
-/

set_option autoImplicit false

namespace Repaint.Store

variable {σ ω τ υ : Type} [Slot σ ω] [Slot τ υ]

/-- Kinds that read one buffer, and have one description, are the same kinds. -/
theorem kinds_eq_of_describe_eq {fields fields' : List Field}
    (hdata : Field.encodeAll fields = Field.encodeAll fields')
    (hsize : (Field.encodeAll fields).length < 2 ^ 32)
    (h : Layout.describe (fields.map Field.kind) = Layout.describe (fields'.map Field.kind)) :
    fields.map Field.kind = fields'.map Field.kind := by
  have hdescribed := Layout.described_of_describe_eq h
  have hleft := Layout.described_kinds_of_length_lt hsize
  rw [hdata] at hsize
  have hright := Layout.described_kinds_of_length_lt hsize
  rw [← hleft, hdescribed, hright]

/-- With the layout check on, a restore that succeeds has the kinds of the last capture, or the
two descriptions differ and their hashes collide. -/
theorem restored_same_kinds_or_collision {store : Store} {key : Key} {saved : List σ}
    {shared : ω} (hlast : store.LastCaptured key saved shared)
    (hhonest : Slot.Honest saved shared) {data : Bytes} (hdata : store.get? key = some data)
    (hsize : data.length < 2 ^ 32) (slots : List τ) (given : υ)
    (hkeep : store.KeepsKinds key slots given) (hcheck : store.config.checkLayout = true)
    {length : Nat}
    (hrestored : (store.cache .restore key slots given).1.result = .ok (.restored length)) :
    Slot.kinds slots given = Slot.savedKinds saved shared ∨
      Layout.describe (Slot.kinds slots given) ≠ Layout.describe (Slot.savedKinds saved shared) ∧
        XxHash32.hash Layout.seed (Layout.describe (Slot.kinds slots given)) =
          XxHash32.hash Layout.seed (Layout.describe (Slot.savedKinds saved shared)) := by
  have hentry := entry_of_lastCaptured hlast
  rw [get_of_entry hentry] at hdata
  cases hdata
  obtain ⟨-, ⟨fields, hspells⟩, hsame⟩ :=
    (restored_iff hentry hkeep length).mp hrestored
  have hhash : Layout.fingerprint (Slot.kinds slots given) =
      Layout.fingerprint (Slot.savedKinds saved shared) := by
    by_contra hne
    exact hsame ⟨hcheck, hne⟩
  by_cases hdescribe : Layout.describe (Slot.kinds slots given) =
      Layout.describe (Slot.savedKinds saved shared)
  · -- both lists of kinds read the whole buffer, so none of their widths is cut short
    left
    have hsaved : (Slot.captureAll saved shared).1.map Field.kind = Slot.savedKinds saved shared :=
      hhonest
    rw [← hspells.kinds_eq, ← hsaved] at hdescribe ⊢
    have hbytes := hspells.bytes_eq
    exact kinds_eq_of_describe_eq hbytes (hbytes ▸ hsize) hdescribe
  · exact Or.inr ⟨hdescribe, hhash⟩

/-- Saved as an integer and restored as a float of its width, a number is no drift. -/
theorem retyped_number_no_drift :
    let saved := [Place.cell (.number (Number.ofInt .int32 2)), .cell (.text "hi")]
    let slots := [Place.cell (.number (Number.zero .float32)), .cell (.text "")]
    let steps : List (Step Place (List Mismatch)) := [.cache .capture (.name "k") saved []]
    let store := ((empty {}).run steps).2
    (store.LastCaptured ⟨"k"⟩ saved [] ∧ Slot.Honest saved [] ∧
      store.get? ⟨"k"⟩ = some [2, 0, 0, 0, 2, 0, 0, 0, 104, 105] ∧
      store.KeepsKinds ⟨"k"⟩ slots [] ∧ store.config.checkLayout = true ∧
      (store.cache .restore ⟨"k"⟩ slots []).1.result = .ok (.restored 10)) ∧
    (Slot.kinds slots [] = Slot.savedKinds saved [] ∨
      Layout.describe (Slot.kinds slots []) ≠ Layout.describe (Slot.savedKinds saved []) ∧
        XxHash32.hash Layout.seed (Layout.describe (Slot.kinds slots [])) =
          XxHash32.hash Layout.seed (Layout.describe (Slot.savedKinds saved []))) := by
  intro saved slots steps store
  have hlast : store.LastCaptured ⟨"k"⟩ saved [] := ⟨{}, [], [], .name "k", rfl, by decide, rfl⟩
  have hhonest : Slot.Honest saved [] := rfl
  have hfits : ∀ field ∈ (Slot.captureAll saved []).1, field.Fits := by decide
  have hdata : store.get? ⟨"k"⟩ = some [2, 0, 0, 0, 2, 0, 0, 0, 104, 105] := by
    rw [get?, entry_of_lastCaptured hlast]
    rfl
  have hkeep : store.KeepsKinds ⟨"k"⟩ slots [] := Place.keepsKinds store ⟨"k"⟩ slots []
  have hcheck : store.config.checkLayout = true := rfl
  have hkinds : Slot.kinds slots [] = Slot.savedKinds saved [] := rfl
  have hcaptured : Slot.KeepKinds slots (Slot.captureAll saved []).1 [] :=
    Slot.keepKinds_of_owned (fun slot _ => slot.ownsKind) rfl
  have hrestored : (store.cache .restore ⟨"k"⟩ slots []).1.result = .ok (.restored 10) :=
    (restore_of_lastCaptured hlast hhonest hfits hkinds hcaptured).1
  exact ⟨⟨hlast, hhonest, hdata, hkeep, hcheck, hrestored⟩,
    restored_same_kinds_or_collision hlast hhonest hdata (by decide) slots [] hkeep hcheck
      hrestored⟩

end Repaint.Store
