import Repaint.Proofs.Canonical
import Repaint.Proofs.Restoring
import Repaint.Slot.Place

/-!
When fields are thrown away. A strict restore holds back what it reads and throws it away if it
fails, and the reply counts how often that happened. Drift is counted without a look at what has
been read, so it is counted also for no slots at all, where nothing was. How the entry was saved is
left open.
-/

set_option autoImplicit false

namespace Repaint

/-- A reading gets a field at all just if the first kind is offered where it starts. -/
theorem Cursor.read_fields_ne_nil_iff (c : Cursor) (kinds : List Kind) :
    (c.read kinds).fields ≠ [] ↔ ∃ kind, kinds.head? = some kind ∧ c.Offers kind := by
  cases kinds with
  | nil => simp [Cursor.read]
  | cons kind kinds =>
    simp only [List.head?_cons, Option.some.injEq, exists_eq_left', ← next_ok_iff_offers,
      Cursor.read]
    cases hnext : c.next kind with
    | mk result c' => cases result <;> simp

theorem Verdict.discards_le_one (reading : Reading) (verdict : Verdict) :
    verdict.discards reading ≤ 1 := by
  cases verdict with
  | faulty error =>
    rw [discards]
    split <;> decide
  | drifted error => exact Nat.le_refl 1
  | sound => exact Nat.zero_le 1

namespace Entry

variable {entry : Entry} {kinds : List Kind}

theorem ne_nil_of_fault {fault : Fault} (h : (entry.read kinds).fault? = some fault) :
    kinds ≠ [] := by
  rintro rfl
  cases h

/-- A fault throws away the fields read before it. Drift comes after a field for every kind, so
it throws some away unless there are no kinds. -/
theorem discards_eq_one_iff (entry : Entry) (key : Key) (checkLayout : Bool) (kinds : List Kind) :
    (entry.judge key checkLayout (entry.read kinds) kinds).discards (entry.read kinds) = 1 ↔
      (∃ error, (entry.judge key checkLayout (entry.read kinds) kinds).result entry =
        .error error) ∧ ((entry.read kinds).fields ≠ [] ∨ kinds = []) := by
  have hdrift (hnone : (entry.read kinds).fault? = none) :
      (entry.read kinds).fields ≠ [] ∨ kinds = [] := by
    have hlen := length_read hnone
    cases kinds with
    | nil => exact .inr rfl
    | cons kind kinds => exact .inl (List.ne_nil_of_length_eq_add_one hlen)
  generalize hjudge : entry.judge key checkLayout (entry.read kinds) kinds = verdict
  cases judged_of_judge hjudge with
  | faulty hfault =>
    have hsome := ne_nil_of_fault hfault
    simp [Verdict.discards, Verdict.result, hsome]
  | short hnone => exact ⟨fun _ => ⟨⟨_, rfl⟩, hdrift hnone⟩, fun _ => rfl⟩
  | layout hnone => exact ⟨fun _ => ⟨⟨_, rfl⟩, hdrift hnone⟩, fun _ => rfl⟩
  | sound => simp [Verdict.discards, Verdict.result]

end Entry

namespace Store

variable {σ ω : Type} [Slot σ ω]

/-- The fields that a restore by these kinds has read by the time it ends, however it ends. -/
def fieldsRead (store : Store) (key : Key) (kinds : List Kind) : List Field :=
  match store.entry? key with
  | none => []
  | some entry => (entry.read kinds).fields

theorem fieldsRead_of_entry {store : Store} {key : Key} {entry : Entry}
    (h : store.entry? key = some entry) (kinds : List Kind) :
    store.fieldsRead key kinds = (entry.read kinds).fields := by
  simp only [fieldsRead, h]

theorem fieldsRead_ne_nil_iff (store : Store) (key : Key) (kinds : List Kind) :
    store.fieldsRead key kinds ≠ [] ↔ ∃ data kind, store.get? key = some data ∧
      kinds.head? = some kind ∧ (Cursor.start data).Offers kind := by
  cases hentry : store.entry? key with
  | none =>
    simp [fieldsRead, hentry, get?]
  | some entry =>
    rw [fieldsRead_of_entry hentry, get_of_entry hentry, Entry.read, Cursor.read_fields_ne_nil_iff]
    simp only [Option.some.injEq, exists_eq_left', exists_and_left]

theorem restore_discards_le_one (store : Store) (key : Key) (slots : List σ) (shared : ω) :
    (store.restore key slots shared).discards ≤ 1 := by
  cases hentry : store.entry? key with
  | none =>
    rw [restore_of_absent hentry]
    exact Nat.zero_le 1
  | some entry =>
    cases hpolicy : store.config.policy with
    | permissive =>
      rw [restore_permissive hpolicy hentry]
      exact Nat.zero_le 1
    | strict =>
      rw [restore_strict hpolicy hentry]
      exact Verdict.discards_le_one _ _

theorem restore_discards_iff (store : Store) (key : Key) (slots : List σ) (shared : ω) :
    (store.restore key slots shared).discards = 1 ↔
      store.config.policy = .strict ∧
        (∃ error, (store.restore key slots shared).result = .error error) ∧
          (store.fieldsRead key (store.told key slots shared) ≠ [] ∨ slots = []) := by
  cases hentry : store.entry? key with
  | none => simp [restore_of_absent hentry]
  | some entry =>
    cases hpolicy : store.config.policy with
    | permissive =>
      rw [restore_permissive hpolicy hentry]
      simp [Entry.restorePermissive]
    | strict =>
      have hnone : Slot.kinds slots shared = [] ↔ slots = [] := List.map_eq_nil_iff
      rw [restore_strict hpolicy hentry, Entry.restoreStrict_eq, told_of_strict hpolicy,
        fieldsRead_of_entry hentry, eq_self, true_and, ← hnone]
      exact entry.discards_eq_one_iff key store.config.checkLayout (Slot.kinds slots shared)

/-- A call counts a throwing away of fields once or not at all. It counts one just if it is a strict
restore that fails and has read a field, or that fails and was given no slots, when it can have read
none. A field has been read just if one of the first slot's kind stands at the start of the buffer.
-/
theorem discards_counted (store : Store) (phase : Phase) (key : Key) (slots : List σ)
    (shared : ω) :
    let reply := (store.cache phase key slots shared).1
    let fields := store.fieldsRead key (store.told key slots shared)
    reply.discards ≤ 1 ∧
    (reply.discards = 1 ↔ store.config.policy = .strict ∧ phase = .restore ∧
      (∃ error, reply.result = .error error) ∧ (fields ≠ [] ∨ slots = [])) ∧
    (fields ≠ [] ↔ ∃ data kind, store.get? key = some data ∧
      (Slot.kinds slots shared).head? = some kind ∧ (Cursor.start data).Offers kind) := by
  have hread := store.fieldsRead_ne_nil_iff key (store.told key slots shared)
  rw [head?_told] at hread
  cases phase with
  | capture => exact ⟨Nat.zero_le 1, by simp [cache, save], hread⟩
  | restore =>
    refine ⟨restore_discards_le_one store key slots shared, ?_, hread⟩
    rw [eq_self, true_and]
    exact restore_discards_iff store key slots shared

/-- Restored to no slots, a saved value is drift and is counted as thrown away, though not one field
has been read. -/
theorem nothing_read_counted :
    let store := ((empty { policy := .strict }).cache .capture ⟨"k"⟩ [Place.cell (.bool true)] []).2
    let reply := (store.cache .restore ⟨"k"⟩ ([] : List Place) []).1
    reply.result = .error (.lengthMismatch ⟨"k"⟩ 0 1) ∧ store.fieldsRead ⟨"k"⟩ [] = [] ∧
      reply.discards = 1 ∧
      ¬ (reply.discards = 1 ↔ store.config.policy = .strict ∧ Phase.restore = .restore ∧
        (∃ error, reply.result = .error error) ∧ store.fieldsRead ⟨"k"⟩ [] ≠ []) := by
  intro store reply
  have hresult : reply.result = .error (.lengthMismatch ⟨"k"⟩ 0 1) := by decide
  have hnothing : store.fieldsRead ⟨"k"⟩ [] = [] := by decide
  have hcounted : reply.discards = 1 := by decide
  refine ⟨hresult, hnothing, hcounted, ?_⟩
  intro hclaimed
  obtain ⟨-, -, -, hread⟩ := hclaimed.mp hcounted
  exact hread hnothing

end Store
end Repaint
