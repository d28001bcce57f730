import Repaint.Proofs.Cell
import Repaint.Proofs.Verdict
import Repaint.Store.Run

/-!
The entry under a key is the one its last capture left, whatever the steps since have done:
captures under other keys, restores that succeeded or failed, questions, changes of the
configuration. Runs start from an empty store, and the ways to spell a key are its identities.
-/

set_option autoImplicit false

namespace Repaint

namespace Store

variable {σ ω : Type} [Slot σ ω]

/-- The step replaces the entry under the key. -/
def Step.Captures (key : Key) : Step σ ω → Prop
  | .cache .capture identity _ _ => identity.canonical = key
  | _ => False

instance (key : Key) : DecidablePred (Step.Captures key (σ := σ) (ω := ω))
  | .cache .capture identity _ _ => inferInstanceAs (Decidable (identity.canonical = key))
  | .cache .restore _ _ _ => .isFalse id
  | .configure _ => .isFalse id
  | .ask _ => .isFalse id

/-- Reached by a run from an empty store in which `slots` were the last to be captured under
the key. -/
def LastCaptured (store : Store) (key : Key) (slots : List σ) (shared : ω) : Prop :=
  ∃ (config : Config) (before after : List (Step σ ω)) (identity : Identity),
    identity.canonical = key ∧ (∀ step ∈ after, ¬ step.Captures key) ∧
      store = ((empty config).run
        (before ++ .cache .capture identity slots shared :: after)).2

theorem entry_save_self (store : Store) (key : Key) (slots : List σ) (shared : ω) :
    entry? (store.save key slots shared).2 key =
      some ⟨Layout.fingerprint (Slot.savedKinds slots shared),
        Field.encodeAll (Slot.captureAll slots shared).1⟩ := by
  rw [save, entry_insert_self, Field.writeAll_eq, List.nil_append, Slot.savedKinds]

/-- Only a capture under a key changes its entry. -/
theorem entry_step (store : Store) {key : Key} {step : Step σ ω} (h : ¬ step.Captures key) :
    entry? (store.step step).2 key = store.entry? key := by
  cases step with
  | cache phase identity slots shared =>
    cases phase with
    | capture => exact entry_insert_of_ne store _ h
    | restore => rfl
  | configure config => rfl
  | ask query => rfl

theorem entry_run (store : Store) {key : Key} {steps : List (Step σ ω)}
    (h : ∀ step ∈ steps, ¬ step.Captures key) :
    entry? (store.run steps).2 key = store.entry? key := by
  induction steps generalizing store with
  | nil => rfl
  | cons step steps ih =>
    obtain ⟨hstep, hsteps⟩ := List.forall_mem_cons.mp h
    exact (ih (store.step step).2 hsteps).trans (entry_step store hstep)

theorem run_append (store : Store) (steps steps' : List (Step σ ω)) :
    (store.run (steps ++ steps')).2 = ((store.run steps).2.run steps').2 := by
  induction steps generalizing store with
  | nil => rfl
  | cons step steps ih => exact ih (store.step step).2

/-- Some store before had `slots` captured under the key, and no step since has captured anything
there. What that store held, and how it came to, is left open. -/
def Remembers (store : Store) (key : Key) (slots : List σ) (shared : ω) : Prop :=
  ∃ (earlier : Store) (identity : Identity) (after : List (Step σ ω)),
    identity.canonical = key ∧ (∀ step ∈ after, ¬ step.Captures key) ∧
      store = (earlier.run (.cache .capture identity slots shared :: after)).2

theorem entry_of_remembers {store : Store} {key : Key} {slots : List σ} {shared : ω}
    (h : store.Remembers key slots shared) :
    store.entry? key = some ⟨Layout.fingerprint (Slot.savedKinds slots shared),
      Field.encodeAll (Slot.captureAll slots shared).1⟩ := by
  obtain ⟨earlier, identity, after, rfl, hafter, rfl⟩ := h
  have hrun := entry_run (earlier.step (.cache .capture identity slots shared)).2 hafter
  exact hrun.trans (entry_save_self earlier identity.canonical slots shared)

theorem LastCaptured.remembers {store : Store} {key : Key} {slots : List σ} {shared : ω}
    (h : store.LastCaptured key slots shared) : store.Remembers key slots shared := by
  obtain ⟨config, before, after, identity, hkey, hafter, rfl⟩ := h
  exact ⟨((empty config).run before).2, identity, after, hkey, hafter, run_append _ _ _⟩

theorem entry_of_lastCaptured {store : Store} {key : Key} {slots : List σ} {shared : ω}
    (h : store.LastCaptured key slots shared) :
    store.entry? key = some ⟨Layout.fingerprint (Slot.savedKinds slots shared),
      Field.encodeAll (Slot.captureAll slots shared).1⟩ :=
  entry_of_remembers h.remembers

/-- The captured fields are the one reading of the entry by the kinds saved, and by those kinds
the layout stands under any configuration. -/
theorem restore_of_saved {τ υ : Type} [Slot τ υ] {store : Store} {key : Key} {saved : List σ}
    {shared : ω}
    (hentry : store.entry? key = some ⟨Layout.fingerprint (Slot.savedKinds saved shared),
      Field.encodeAll (Slot.captureAll saved shared).1⟩)
    (hhonest : Slot.Honest saved shared)
    (hfits : ∀ field ∈ (Slot.captureAll saved shared).1, field.Fits)
    {slots : List τ} {given : υ} (hkinds : Slot.kinds slots given = Slot.savedKinds saved shared)
    (hkeep : Slot.KeepKinds slots (Slot.captureAll saved shared).1 given) :
    let captured := (Slot.captureAll saved shared).1
    store.restore key slots given =
      ⟨.ok (.restored (captured.map Field.encodedLength).sum),
        (Slot.restoreAll slots captured given).1, (Slot.restoreAll slots captured given).2,
        [.restored key slots.length], 0⟩ := by
  intro captured
  have hspells : Spells (Slot.kinds slots given) captured (Field.encodeAll captured) :=
    ⟨hhonest.trans hkinds.symm, hfits, rfl⟩
  have hkeeps : store.KeepsKinds key slots given := by
    intro entry hfound
    obtain rfl := Option.some.inj (hentry.symm.trans hfound)
    rw [Entry.read, Cursor.read_of_spells List.prefix_rfl hspells]
    exact hkeep
  have hsame : ¬ store.LayoutDiffers
      ⟨Layout.fingerprint (Slot.savedKinds saved shared), Field.encodeAll captured⟩
      (Slot.kinds slots given) := by
    rintro ⟨-, hdiffers⟩
    exact hdiffers (congrArg Layout.fingerprint hkinds)
  rw [restore_of_spells hentry hkeeps hspells hsame, Field.length_encodeAll]

/-- Cells of the kinds of those saved are given the fields of the latter. -/
theorem restore_of_saved_cells {embed : Cell → σ} (hembed : Cell.Embedded embed) {store : Store}
    {key : Key} {saved : List Cell} {shared : ω}
    (hentry : store.entry? key =
      some ⟨Layout.fingerprint (Slot.savedKinds (saved.map embed) shared),
        Field.encodeAll (Slot.captureAll (saved.map embed) shared).1⟩)
    (hfits : ∀ cell ∈ saved, cell.field.Fits) {fresh : List Cell}
    (hkinds : fresh.map Cell.kind = saved.map Cell.kind) (given : ω) :
    let fields := saved.map Cell.field
    let written := Slot.restoreAll (fresh.map embed) fields given
    store.restore key (fresh.map embed) given =
      ⟨.ok (.restored (fields.map Field.encodedLength).sum), written.1, written.2,
        [.restored key (fresh.map embed).length], 0⟩ := by
  intro fields written
  have hcaptured : (Slot.captureAll (saved.map embed) shared).1 = fields := by
    rw [hembed.captureAll]
  have hslots : Slot.kinds (fresh.map embed) given = Slot.savedKinds (saved.map embed) shared := by
    rw [hembed.kinds, hembed.savedKinds, hkinds]
  have hgiven : fields.map Field.kind = Slot.kinds (fresh.map embed) given := by
    rw [hslots, ← hembed.honest saved shared, hcaptured]
  have hkeep : Slot.KeepKinds (fresh.map embed) (Slot.captureAll (saved.map embed) shared).1
      given := by
    rw [hcaptured]
    exact Slot.keepKinds_of_owned (List.forall_mem_map.mpr fun cell _ => hembed.ownsKind cell)
      (Field.kinds_take_of_eq hgiven)
  have hall : ∀ field ∈ (Slot.captureAll (saved.map embed) shared).1, field.Fits := by
    rw [hcaptured]
    exact List.forall_mem_map.mpr hfits
  rw [restore_of_saved hentry (hembed.honest saved shared) hall hslots hkeep, hcaptured]

theorem restore_of_lastCaptured {τ υ : Type} [Slot τ υ] {store : Store} {key : Key}
    {saved : List σ} {shared : ω} (hlast : store.LastCaptured key saved shared)
    (hhonest : Slot.Honest saved shared)
    (hfits : ∀ field ∈ (Slot.captureAll saved shared).1, field.Fits)
    {slots : List τ} {given : υ} (hkinds : Slot.kinds slots given = Slot.savedKinds saved shared)
    (hkeep : Slot.KeepKinds slots (Slot.captureAll saved shared).1 given) :
    let captured := (Slot.captureAll saved shared).1
    (store.restore key slots given).result =
      .ok (.restored (captured.map Field.encodedLength).sum) ∧
    Slot.Handed slots captured given (store.restore key slots given).slots
      (store.restore key slots given).shared := by
  intro captured
  have hlen : slots.length = captured.length := by
    rw [← Slot.length_kinds slots given, hkinds, ← hhonest, List.length_map]
  rw [restore_of_saved (entry_of_lastCaptured hlast) hhonest hfits hkinds hkeep]
  exact ⟨rfl, Slot.handed_restoreAll hlen given⟩

end Store
end Repaint
