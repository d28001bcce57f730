import Mathlib.Data.List.Zip
import Repaint.Proofs.Restoring

/-!
Slots inside slots. A slot may hold another one and have a state of its own in front of the one that
slots share. Where it does otherwise as the slot inside it does, forgetting its own state turns a
call on such slots into the call on the slots inside. What the call has made of that state is told
by the slots it got to and the fields it gave them.
-/

set_option autoImplicit false

namespace Repaint

/-- A log gets an entry for each item. -/
theorem foldl_log {α β : Type} (entry : α → β) (items : List α) (log : List β) :
    items.foldl (fun log item => log ++ [entry item]) log = log ++ items.map entry := by
  rw [List.foldl_append_eq_append, ← List.flatMap_def, List.map_eq_flatMap]

/-- Things that stand in numbered places, each with something inside. -/
structure Numbering {τ α : Type} (wrap : Nat → α → τ) (inner : τ → α) (place : τ → Nat) : Prop where
  inner_wrap : ∀ i a, inner (wrap i a) = a
  place_wrap : ∀ i a, place (wrap i a) = i
  wrap_eq : ∀ t, wrap (place t) (inner t) = t

namespace Numbering

variable {τ α : Type} {wrap : Nat → α → τ} {inner : τ → α} {place : τ → Nat}

theorem map_inner (h : Numbering wrap inner place) (items : List α) :
    (items.mapIdx wrap).map inner = items := by
  apply List.ext_getElem
  · simp
  · simp [h.inner_wrap]

theorem map_place (h : Numbering wrap inner place) (items : List α) :
    (items.mapIdx wrap).map place = List.range items.length := by
  apply List.ext_getElem
  · simp
  · simp [h.place_wrap]

/-- Things numbered from zero are those inside, numbered. -/
theorem eq_mapIdx (h : Numbering wrap inner place) {things : List τ} {n : Nat}
    (hplaces : things.map place = List.range n) : things = (things.map inner).mapIdx wrap := by
  apply List.ext_getElem?
  intro i
  rw [List.getElem?_mapIdx, List.getElem?_map]
  cases hthing : things[i]? with
  | none => rfl
  | some thing =>
    have hplace := congrArg (·[i]?) hplaces
    simp only [List.getElem?_map, hthing, Option.map_some] at hplace
    obtain ⟨_, hi⟩ := List.getElem?_eq_some_iff.mp hplace.symm
    rw [List.getElem_range] at hi
    have hwrap := h.wrap_eq thing
    rw [← hi] at hwrap
    exact congrArg some hwrap.symm

end Numbering

namespace Slot

section

variable {σ τ ω extra : Type} [Slot σ ω] [Slot τ (extra × ω)] {inner : τ → σ}

/-- A slot with a state of its own in front of the shared one does as the slot inside it. What it
does to its own state is left open. -/
structure ActsAs (inner : τ → σ) : Prop where
  kind_eq : ∀ slot (own : extra) (shared : ω),
    kind (inner slot) shared = kind slot (own, shared)
  capture_eq : ∀ slot (own : extra) (shared : ω),
    capture (inner slot) shared =
      ((capture slot (own, shared)).1, (capture slot (own, shared)).2.2)
  restore_eq : ∀ slot field (own : extra) (shared : ω),
    restore (inner slot) field shared =
      (inner (restore slot field (own, shared)).1, (restore slot field (own, shared)).2.2)

theorem kinds_inner (h : ActsAs inner) (slots : List τ) (own : extra) (shared : ω) :
    kinds (slots.map inner) shared = kinds slots (own, shared) := by
  rw [kinds, kinds, List.map_map]
  exact List.map_congr_left fun slot _ => h.kind_eq slot own shared

theorem captureAll_inner (h : ActsAs inner) (slots : List τ) (own : extra) (shared : ω) :
    captureAll (slots.map inner) shared =
      ((captureAll slots (own, shared)).1, (captureAll slots (own, shared)).2.2) := by
  induction slots generalizing own shared with
  | nil => rfl
  | cons slot slots ih =>
    have hslot := h.capture_eq slot own shared
    have hslots := ih (capture slot (own, shared)).2.1 (capture slot (own, shared)).2.2
    simp only [List.map_cons, captureAll, hslot, hslots]

theorem restoreAll_inner (h : ActsAs inner) (slots : List τ) (fields : List Field) (own : extra)
    (shared : ω) :
    restoreAll (slots.map inner) fields shared =
      ((restoreAll slots fields (own, shared)).1.map inner,
        (restoreAll slots fields (own, shared)).2.2) := by
  induction slots generalizing fields own shared with
  | nil => simp only [List.map_nil, restoreAll]
  | cons slot slots ih =>
    cases fields with
    | nil => rfl
    | cons field fields =>
      have hslot := h.restore_eq slot field own shared
      have hslots := ih fields (restore slot field (own, shared)).2.1
        (restore slot field (own, shared)).2.2
      simp only [List.map_cons, restoreAll, hslot, hslots]

theorem hand_inner (h : ActsAs inner) (policy : Policy) (slot : τ) (field : Field) (own : extra)
    (shared : ω) :
    policy.hand (inner slot) field shared =
      (inner (policy.hand slot field (own, shared)).1,
        (policy.hand slot field (own, shared)).2.2) := by
  cases policy with
  | permissive => exact h.restore_eq slot field own shared
  | strict => rfl

end

section

variable {τ ω extra : Type} [Slot τ (extra × ω)] {captured : τ → extra → extra}
  {restored : τ → Field → extra → extra}

/-- What a slot does to the state in front of the shared one, once each time it is captured or
restored. -/
structure Updates (captured : τ → extra → extra) (restored : τ → Field → extra → extra) : Prop where
  capture_eq : ∀ slot (own : extra) (shared : ω),
    (capture slot (own, shared)).2.1 = captured slot own
  restore_eq : ∀ slot field (own : extra) (shared : ω),
    (restore slot field (own, shared)).2.1 = restored slot field own

theorem Updates.captureAll_own (h : Updates captured restored) (slots : List τ) (own : extra)
    (shared : ω) :
    (captureAll slots (own, shared)).2.1 = slots.foldl (fun own slot => captured slot own) own := by
  induction slots generalizing own shared with
  | nil => rfl
  | cons slot slots ih =>
    have hslots := ih (capture slot (own, shared)).2.1 (capture slot (own, shared)).2.2
    rw [List.foldl_cons, ← h.capture_eq slot own shared]
    exact hslots

theorem Updates.restoreAll_own (h : Updates captured restored) (slots : List τ)
    (fields : List Field) (own : extra) (shared : ω) :
    (restoreAll slots fields (own, shared)).2.1 =
      (slots.zip fields).foldl (fun own given => restored given.1 given.2 own) own := by
  induction slots generalizing fields own shared with
  | nil => cases fields <;> rfl
  | cons slot slots ih =>
    cases fields with
    | nil => rfl
    | cons field fields =>
      have hslots := ih fields (restore slot field (own, shared)).2.1
        (restore slot field (own, shared)).2.2
      rw [List.zip_cons_cons, List.foldl_cons, ← h.restore_eq slot field own shared]
      exact hslots

end

/-- Putting fields back leaves what no single restore changes. -/
theorem map_restoreAll {σ ω α : Type} [Slot σ ω] (label : σ → α)
    (h : ∀ slot field (shared : ω), label (restore slot field shared).1 = label slot)
    (slots : List σ) (fields : List Field) (shared : ω) :
    (restoreAll slots fields shared).1.map label = slots.map label := by
  induction slots generalizing fields shared with
  | nil => cases fields <;> rfl
  | cons slot slots ih =>
    cases fields with
    | nil => rfl
    | cons field fields =>
      rw [restoreAll_cons, List.map_cons, List.map_cons, h, ih]

end Slot

/-- The reply as the slots inside would have had it. -/
def Reply.inner {σ τ ω extra : Type} (inner : τ → σ) (reply : Reply τ (extra × ω)) : Reply σ ω where
  result := reply.result
  slots := reply.slots.map inner
  shared := reply.shared.2
  events := reply.events
  discards := reply.discards

section

variable {σ τ ω extra : Type} [Slot σ ω] [Slot τ (extra × ω)] {inner : τ → σ}

namespace Cursor

theorem told_inner (h : Slot.ActsAs inner) (policy : Policy) (c : Cursor) (slots : List τ)
    (own : extra) (shared : ω) :
    c.told policy (slots.map inner) shared = c.told policy slots (own, shared) := by
  induction slots generalizing c own shared with
  | nil => rfl
  | cons slot slots ih =>
    have hkind := h.kind_eq slot own shared
    have hkinds := Slot.kinds_inner h (slot :: slots) own shared
    rcases hnext : c.next (Slot.kind slot (own, shared)) with ⟨fault | field, c'⟩
    · simp only [List.map_cons, told, hkind, hnext]
      exact hkinds
    · simp only [List.map_cons, told, hkind, hnext, Slot.hand_inner h policy slot field own shared]
      rw [ih]

end Cursor

namespace Entry

theorem restorePermissive_inner (h : Slot.ActsAs inner) (entry : Entry) (key : Key)
    (checkLayout : Bool) (slots : List τ) (own : extra) (shared : ω) :
    entry.restorePermissive key checkLayout (slots.map inner) shared =
      (entry.restorePermissive key checkLayout slots (own, shared)).inner inner := by
  have htold : entry.told .permissive (slots.map inner) shared =
      entry.told .permissive slots (own, shared) := Cursor.told_inner h _ _ slots own shared
  let fields := (entry.read (entry.told .permissive slots (own, shared))).fields
  have hwritten := Slot.restoreAll_inner h slots fields own shared
  -- what has been written is judged by its kinds, and these are the same inside and out
  have hkinds := Slot.kinds_inner h (Slot.restoreAll slots fields (own, shared)).1
    (Slot.restoreAll slots fields (own, shared)).2.1
    (Slot.restoreAll slots fields (own, shared)).2.2
  simp only [fields] at hwritten hkinds
  simp only [restorePermissive_eq, htold, hwritten, hkinds, List.length_map]
  rfl

theorem restoreStrict_inner (h : Slot.ActsAs inner) (entry : Entry) (key : Key)
    (checkLayout : Bool) (slots : List τ) (own : extra) (shared : ω) :
    entry.restoreStrict key checkLayout (slots.map inner) shared =
      (entry.restoreStrict key checkLayout slots (own, shared)).inner inner := by
  have hkinds := Slot.kinds_inner h slots own shared
  have hwritten := Slot.restoreAll_inner h slots
    (entry.read (Slot.kinds slots (own, shared))).fields own shared
  simp only [restoreStrict_eq, hkinds, hwritten, List.length_map]
  split <;> rfl

end Entry

namespace Store

theorem told_inner (h : Slot.ActsAs inner) (store : Store) (key : Key) (slots : List τ)
    (own : extra) (shared : ω) :
    store.told key (slots.map inner) shared = store.told key slots (own, shared) := by
  unfold told
  split
  · exact Slot.kinds_inner h slots own shared
  · exact Cursor.told_inner h _ _ slots own shared

theorem save_inner (h : Slot.ActsAs inner) (store : Store) (key : Key) (slots : List τ)
    (own : extra) (shared : ω) :
    store.save key (slots.map inner) shared =
      ((store.save key slots (own, shared)).1.inner inner,
        (store.save key slots (own, shared)).2) := by
  have hkinds := Slot.kinds_inner h slots (Slot.captureAll slots (own, shared)).2.1
    (Slot.captureAll slots (own, shared)).2.2
  simp only [save, Slot.captureAll_inner h slots own shared, hkinds, List.length_map]
  rfl

theorem restore_inner (h : Slot.ActsAs inner) (store : Store) (key : Key) (slots : List τ)
    (own : extra) (shared : ω) :
    store.restore key (slots.map inner) shared =
      (store.restore key slots (own, shared)).inner inner := by
  simp only [restore]
  cases store.entry? key with
  | none => rfl
  | some entry =>
    cases store.config.policy with
    | permissive => exact entry.restorePermissive_inner h key _ slots own shared
    | strict => exact entry.restoreStrict_inner h key _ slots own shared

theorem cache_inner (h : Slot.ActsAs inner) (store : Store) (phase : Phase) (key : Key)
    (slots : List τ) (own : extra) (shared : ω) :
    store.cache phase key (slots.map inner) shared =
      ((store.cache phase key slots (own, shared)).1.inner inner,
        (store.cache phase key slots (own, shared)).2) := by
  cases phase with
  | capture => exact store.save_inner h key slots own shared
  | restore => exact congrArg (·, store) (store.restore_inner h key slots own shared)

end Store

end

namespace Store

variable {σ τ ω extra : Type} [Slot σ ω] [Slot τ (extra × ω)]

/-- The slots that a restore deals fields to have done what they do to the state in front, in order,
and the others have not. -/
theorem restore_own {captured : τ → extra → extra} {restored : τ → Field → extra → extra}
    (h : Slot.Updates captured restored) (store : Store) (key : Key) (slots : List τ) (own : extra)
    (shared : ω) :
    (store.restore key slots (own, shared)).shared.1 =
      (slots.zip (store.dealt key (store.told key slots (own, shared)))).foldl
        (fun own given => restored given.1 given.2 own) own := by
  have hdeals := store.restore_deals key slots (own, shared)
  rw [← h.restoreAll_own slots _ own shared, ← hdeals]

theorem map_slots_restore {α : Type} (label : σ → α)
    (h : ∀ slot field (shared : ω), label (Slot.restore slot field shared).1 = label slot)
    (store : Store) (key : Key) (slots : List σ) (shared : ω) :
    (store.restore key slots shared).slots.map label = slots.map label := by
  have hdeals := store.restore_deals key slots shared
  rw [← Slot.map_restoreAll label h slots _ shared, ← hdeals]

end Store

end Repaint
