import Mathlib.Data.List.Forall2
import Repaint.Proofs.Reading
import Repaint.Store.Cache

/-!
How a restore goes through its slots. What kind a slot says it has may depend on what the slots
before it were given, so the kinds a restore goes by are known only on the way: they are those that
the slots tell it, each when its turn comes. By these it reads as it would by a list of kinds known
beforehand. Where putting fields back changes no kind, they are the kinds that the slots came with,
and to read all the fields before the first is written comes to the same.
-/

set_option autoImplicit false

namespace Repaint

namespace Slot

variable {σ ω : Type} [Slot σ ω]

@[simp] theorem length_kinds (slots : List σ) (shared : ω) :
    (kinds slots shared).length = slots.length :=
  List.length_map _

theorem kinds_cons (slot : σ) (slots : List σ) (shared : ω) :
    kinds (slot :: slots) shared = kind slot shared :: kinds slots shared := rfl

theorem restoreAll_nil (slots : List σ) (shared : ω) :
    restoreAll slots [] shared = (slots, shared) := by
  cases slots <;> rfl

theorem restoreAll_cons (slot : σ) (slots : List σ) (field : Field) (fields : List Field)
    (shared : ω) :
    restoreAll (slot :: slots) (field :: fields) shared =
      ((restore slot field shared).1 ::
          (restoreAll slots fields (restore slot field shared).2).1,
        (restoreAll slots fields (restore slot field shared).2).2) := rfl

theorem length_restoreAll (slots : List σ) (fields : List Field) (shared : ω) :
    (restoreAll slots fields shared).1.length = slots.length := by
  induction slots generalizing fields shared with
  | nil => cases fields <;> rfl
  | cons slot slots ih =>
    cases fields with
    | nil => rfl
    | cons field fields =>
      rw [restoreAll_cons, List.length_cons, List.length_cons, ih]

/-- Slots behind those that are given a field do not matter. -/
theorem restoreAll_append {front : List σ} {fields : List Field}
    (h : front.length = fields.length) (back : List σ) (shared : ω) :
    restoreAll (front ++ back) fields shared =
      ((restoreAll front fields shared).1 ++ back, (restoreAll front fields shared).2) := by
  induction front generalizing fields shared with
  | nil =>
    obtain rfl := List.length_eq_zero_iff.mp h.symm
    rw [List.nil_append, restoreAll_nil]
    rfl
  | cons slot front ih =>
    cases fields with
    | nil => cases h
    | cons field fields =>
      rw [List.cons_append, restoreAll_cons, restoreAll_cons, ih (Nat.succ.inj h), List.cons_append]

theorem getElem?_restoreAll {slots : List σ} {fields : List Field} {i : Nat} {slot : σ}
    {field : Field} (hslot : slots[i]? = some slot) (hfield : fields[i]? = some field)
    (shared : ω) :
    ∃ before, (restoreAll slots fields shared).1[i]? = some (restore slot field before).1 := by
  induction slots generalizing fields i shared with
  | nil => cases hslot
  | cons head slots ih =>
    cases fields with
    | nil => cases hfield
    | cons given fields =>
      rw [restoreAll_cons]
      cases i with
      | zero =>
        cases hslot
        cases hfield
        exact ⟨shared, rfl⟩
      | succ i => exact ih hslot hfield (restore head given shared).2

/-- Each slot is given one field, in order, and nothing is left over; the shared state goes
from one slot to the next. -/
inductive Handed : List σ → List Field → ω → List σ → ω → Prop
  | nil (shared : ω) : Handed [] [] shared [] shared
  | cons {slot : σ} {field : Field} {shared last : ω} {slots slots' : List σ}
      {fields : List Field} :
      Handed slots fields (restore slot field shared).2 slots' last →
      Handed (slot :: slots) (field :: fields) shared
        ((restore slot field shared).1 :: slots') last

theorem handed_restoreAll {slots : List σ} {fields : List Field}
    (h : slots.length = fields.length) (shared : ω) :
    Handed slots fields shared (restoreAll slots fields shared).1
      (restoreAll slots fields shared).2 := by
  induction slots generalizing fields shared with
  | nil =>
    obtain rfl := List.length_eq_zero_iff.mp h.symm
    exact .nil shared
  | cons slot slots ih =>
    cases fields with
    | nil => cases h
    | cons field fields => exact .cons (ih (Nat.succ.inj h) _)

/-- The slot says it has this kind in some state. -/
def Says (slot : σ) (kind : Kind) : Prop := ∃ shared : ω, Slot.kind slot shared = kind

theorem says_kinds (slots : List σ) (shared : ω) : List.Forall₂ Says slots (kinds slots shared) :=
  List.forall₂_map_right_iff.mpr (List.forall₂_same.mpr fun _ _ => ⟨shared, rfl⟩)

/-- Each slot up to the one behind the fields has, in the state that putting back the fields before
it leaves, the kind in its place. -/
def Tells (slots : List σ) (fields : List Field) (shared : ω) (kinds : List Kind) : Prop :=
  ∀ i ≤ fields.length, kinds[i]? =
    slots[i]?.map fun slot => kind slot (restoreAll slots (fields.take i) shared).2

/-- However many of the fields have been put back, the slots have the kinds they came with. -/
def KeepKinds (slots : List σ) (fields : List Field) (shared : ω) : Prop :=
  ∀ n, kinds (restoreAll slots (fields.take n) shared).1
    (restoreAll slots (fields.take n) shared).2 = kinds slots shared

theorem KeepKinds.kinds_restoreAll {slots : List σ} {fields : List Field} {shared : ω}
    (h : KeepKinds slots fields shared) :
    kinds (restoreAll slots fields shared).1 (restoreAll slots fields shared).2 =
      kinds slots shared := by
  have hall := h fields.length
  rwa [List.take_length] at hall

/-- After the first field the others still have the kinds they came with, and go on so. -/
theorem KeepKinds.tail {slot : σ} {slots : List σ} {field : Field} {fields : List Field}
    {shared : ω} (h : KeepKinds (slot :: slots) (field :: fields) shared) :
    kinds slots (restore slot field shared).2 = kinds slots shared ∧
      KeepKinds slots fields (restore slot field shared).2 := by
  have hlater (n : Nat) : kinds (restoreAll slots (fields.take n) (restore slot field shared).2).1
      (restoreAll slots (fields.take n) (restore slot field shared).2).2 = kinds slots shared :=
    (List.cons.inj (h (n + 1))).2
  have hfirst := hlater 0
  rw [List.take_zero, restoreAll_nil] at hfirst
  exact ⟨hfirst, fun n => (hlater n).trans hfirst.symm⟩

/-- The slot has one kind, whatever the shared state is, and keeps it where it is given a field of
that kind. -/
structure OwnsKind (slot : σ) : Prop where
  kind_eq : ∀ shared later : ω, kind slot later = kind slot shared
  kind_restore : ∀ (field : Field) (shared later : ω), field.kind = kind slot shared →
    kind (restore slot field shared).1 later = kind slot shared

variable {slots : List σ}

theorem kinds_of_owned (hown : ∀ slot ∈ slots, OwnsKind slot) (shared later : ω) :
    kinds slots later = kinds slots shared :=
  List.map_congr_left fun slot hslot => (hown slot hslot).kind_eq shared later

theorem kinds_restoreAll_of_owned (hown : ∀ slot ∈ slots, OwnsKind slot) {fields : List Field}
    {shared : ω} (hkinds : fields.map Field.kind = (kinds slots shared).take fields.length)
    (later : ω) : kinds (restoreAll slots fields shared).1 later = kinds slots shared := by
  induction slots generalizing fields shared with
  | nil => rfl
  | cons slot slots ih =>
    cases fields with
    | nil => exact kinds_of_owned hown shared later
    | cons field fields =>
      obtain ⟨hslot, hslots⟩ := List.forall_mem_cons.mp hown
      obtain ⟨hfield, hfields⟩ := List.cons.inj hkinds
      have hstate := kinds_of_owned hslots shared (restore slot field shared).2
      rw [← kinds, ← hstate] at hfields
      rw [restoreAll_cons, kinds_cons, hslot.kind_restore field shared later hfield,
        ih hslots hfields, hstate, kinds_cons]

/-- Slots with kinds of their own, which they keep, keep them among each other. -/
theorem keepKinds_of_owned (hown : ∀ slot ∈ slots, OwnsKind slot) {fields : List Field}
    {shared : ω} (hkinds : fields.map Field.kind = (kinds slots shared).take fields.length) :
    KeepKinds slots fields shared := by
  intro n
  apply kinds_restoreAll_of_owned hown
  rw [List.map_take, hkinds, List.take_take, List.length_take]

end Slot

namespace Cursor

variable {σ ω : Type} [Slot σ ω] (policy : Policy)

/-- The kinds that the slots tell a restore, each when its turn comes. Those behind a field that
cannot be read are not asked, and stand here with the kinds they have then. -/
def told (c : Cursor) : List σ → ω → List Kind
  | [], _ => []
  | slot :: slots, shared =>
    match c.next (Slot.kind slot shared) with
    | (.error _, _) => Slot.kinds (slot :: slots) shared
    | (.ok field, c) =>
      Slot.kind slot shared :: c.told slots (policy.hand slot field shared).2

@[simp] theorem length_told (c : Cursor) (slots : List σ) (shared : ω) :
    (c.told policy slots shared).length = slots.length := by
  induction slots generalizing c shared with
  | nil => rfl
  | cons slot slots ih =>
    rw [told]
    split
    · exact Slot.length_kinds _ shared
    · rw [List.length_cons, List.length_cons, ih]

/-- The first slot is asked before anything has changed. -/
theorem head?_told (c : Cursor) (slots : List σ) (shared : ω) :
    (c.told policy slots shared).head? = (Slot.kinds slots shared).head? := by
  cases slots with
  | nil => rfl
  | cons slot slots =>
    rw [told]
    split <;> rfl

theorem says_told (c : Cursor) (slots : List σ) (shared : ω) :
    List.Forall₂ Slot.Says slots (c.told policy slots shared) := by
  induction slots generalizing c shared with
  | nil => exact .nil
  | cons slot slots ih =>
    rw [told]
    split
    · exact Slot.says_kinds (slot :: slots) shared
    · exact .cons ⟨shared, rfl⟩ (ih _ _)

/-- A restore reads as it would by the kinds it is told. -/
theorem reading_sweep (c : Cursor) (slots : List σ) (shared : ω) :
    (c.sweep policy slots shared).reading = c.read (c.told policy slots shared) := by
  induction slots generalizing c shared with
  | nil => rfl
  | cons slot slots ih =>
    rcases hnext : c.next (Slot.kind slot shared) with ⟨fault | field, c'⟩
    · simp only [sweep, told, hnext, Slot.kinds_cons, read]
    · simp only [sweep, told, hnext, read, ih]

/-- A strict restore has changed nothing by then. -/
theorem sweep_strict (c : Cursor) (slots : List σ) (shared : ω) :
    c.sweep .strict slots shared = ⟨c.read (Slot.kinds slots shared), slots, shared⟩ := by
  induction slots generalizing c with
  | nil => rfl
  | cons slot slots ih =>
    rcases hnext : c.next (Slot.kind slot shared) with ⟨fault | field, c'⟩
    · simp only [sweep, hnext, Slot.kinds_cons, read]
    · simp only [sweep, hnext, Slot.kinds_cons, read, Policy.hand, ih]

theorem told_strict (c : Cursor) (slots : List σ) (shared : ω) :
    c.told .strict slots shared = Slot.kinds slots shared := by
  induction slots generalizing c with
  | nil => rfl
  | cons slot slots ih =>
    rw [told]
    split
    · rfl
    · rw [Policy.hand, ih, Slot.kinds_cons]

/-- A permissive restore has by then put back the fields it read. -/
theorem sweep_permissive (c : Cursor) (slots : List σ) (shared : ω) :
    ((c.sweep .permissive slots shared).slots, (c.sweep .permissive slots shared).shared) =
      Slot.restoreAll slots (c.sweep .permissive slots shared).reading.fields shared := by
  induction slots generalizing c shared with
  | nil => rfl
  | cons slot slots ih =>
    rcases hnext : c.next (Slot.kind slot shared) with ⟨fault | field, c'⟩
    · simp only [sweep, hnext, Slot.restoreAll_nil]
    · simp only [sweep, hnext, Policy.hand, Slot.restoreAll_cons, ← ih]

/-- The kinds told to a permissive restore are those that each slot it gets to has when it is asked.
-/
theorem tells_told (c : Cursor) (slots : List σ) (shared : ω) :
    Slot.Tells slots (c.sweep .permissive slots shared).reading.fields shared
      (c.told .permissive slots shared) := by
  induction slots generalizing c shared with
  | nil => exact fun _ _ => rfl
  | cons slot slots ih =>
    intro i hi
    rcases hnext : c.next (Slot.kind slot shared) with ⟨fault | field, c'⟩
    · simp only [sweep, hnext, List.length_nil, Nat.le_zero] at hi
      subst hi
      simp only [told, hnext, Slot.kinds_cons, List.take_zero, Slot.restoreAll_nil,
        List.getElem?_cons_zero, Option.map_some]
    · simp only [sweep, told, hnext, Policy.hand] at hi ⊢
      cases i with
      | zero => rfl
      | succ i => exact ih c' (Slot.restore slot field shared).2 i (Nat.le_of_succ_le_succ hi)

/-- Where putting back the fields read by the kinds the slots came with changes no kind, these are
the kinds told. -/
theorem told_of_keepKinds {c : Cursor} {slots : List σ} {shared : ω}
    (h : Slot.KeepKinds slots (c.read (Slot.kinds slots shared)).fields shared) :
    c.told policy slots shared = Slot.kinds slots shared := by
  cases policy with
  | strict => exact c.told_strict slots shared
  | permissive =>
    induction slots generalizing c shared with
    | nil => rfl
    | cons slot slots ih =>
      rcases hnext : c.next (Slot.kind slot shared) with ⟨fault | field, c'⟩
      · simp only [told, hnext]
      · simp only [Slot.kinds_cons, read, hnext] at h
        obtain ⟨hkinds, hkeep⟩ := h.tail
        rw [← hkinds] at hkeep
        simp only [told, hnext, Policy.hand, ih hkeep, hkinds, Slot.kinds_cons]

end Cursor

end Repaint
