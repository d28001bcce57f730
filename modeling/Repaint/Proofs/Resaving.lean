import Repaint.Proofs.Echo
import Repaint.Proofs.LastCapture

/-!
Saving again what has just been restored. Under the key the same bytes come to stand, except that a
byte read for a truth value is one wherever it was not zero; while the layout is checked nothing
else of the store can tell either. How the entry came to be there is left open, and so is the policy
it was restored under.
-/

set_option autoImplicit false

namespace Repaint

/-- Where in a buffer the field in a place begins. -/
def Field.startAt (fields : List Field) (i : Nat) : Nat := (encodeAll (fields.take i)).length

theorem Field.startAt_succ (field : Field) (fields : List Field) (i : Nat) :
    startAt (field :: fields) (i + 1) = field.encode.length + startAt fields i := by
  rw [startAt, List.take_succ_cons, encodeAll_cons, List.length_append]
  rfl

variable {σ ω : Type} [Slot σ ω]

/-- Given a field of a kind that it says it has, the slot is of that kind and captures the field,
whatever becomes of the state that slots share. -/
def Slot.Faithful (slot : σ) : Prop :=
  ∀ (field : Field) (shared : ω), Says slot field.kind →
    ∀ later : ω, kind (restore slot field shared).1 later = field.kind ∧
      (capture (restore slot field shared).1 later).1 = field

/-- What slots capture after they have been given fields, one to each: of its byte a truth value
tells whether it was zero, and every other slot tells its field. -/
inductive Retold (embed : Cell → σ) : List σ → List Field → List Field → Prop
  | nil : Retold embed [] [] []
  | truth {slots : List σ} {fields fields' : List Field} (flag : Bool) (b : UInt8) :
      Retold embed slots fields fields' →
      Retold embed (embed (.bool flag) :: slots) (.scalar [b] :: fields)
        (.scalar [if b = 0 then 0 else 1] :: fields')
  | same {slot : σ} {slots : List σ} {fields fields' : List Field} (field : Field) :
      (∀ flag, slot ≠ embed (.bool flag)) → Retold embed slots fields fields' →
      Retold embed (slot :: slots) (field :: fields) (field :: fields')

namespace Cell.Embedded

variable {embed : Cell → σ}

theorem kind_of_says (h : Embedded embed) {cell : Cell} {kind : Kind}
    (hkind : Slot.Says (embed cell) kind) : kind = cell.kind := by
  obtain ⟨shared, rfl⟩ := hkind
  exact h.kind_eq cell shared

theorem faithful (h : Embedded embed) {cell : Cell} (hcell : ∀ flag, cell ≠ .bool flag) :
    Slot.Faithful (embed cell) := by
  intro field shared hkind later
  have hown := h.kind_of_says hkind
  obtain ⟨cell', hassign⟩ := assign_of_kind hown
  rw [h.restore_eq hassign, h.kind_eq, h.capture_eq, hown]
  exact ⟨kind_assign hassign, (field_assign hassign).trans (echo_of_ne_bool hcell field)⟩

/-- A slot is a truth value, or it tells again what it was given. -/
theorem truth_or_faithful (h : Embedded embed) {slot : σ}
    (hslot : (∃ cell, slot = embed cell) ∨ Slot.Faithful slot) :
    (∃ flag, slot = embed (.bool flag)) ∨
      (∀ flag, slot ≠ embed (.bool flag)) ∧ Slot.Faithful slot := by
  by_cases htruth : ∃ flag, slot = embed (.bool flag)
  · exact .inl htruth
  · rw [not_exists] at htruth
    rcases hslot with ⟨cell, rfl⟩ | hfaithful
    · exact .inr ⟨htruth, h.faithful fun flag hcell => htruth flag (congrArg embed hcell)⟩
    · exact .inr ⟨htruth, hfaithful⟩

/-- The slot is of the kind it was asked by. -/
theorem kind_restore (h : Embedded embed) {slot : σ}
    (hslot : (∃ cell, slot = embed cell) ∨ Slot.Faithful slot) {field : Field}
    (hkind : Slot.Says slot field.kind) (shared later : ω) :
    Slot.kind (Slot.restore slot field shared).1 later = field.kind := by
  rcases hslot with ⟨cell, rfl⟩ | hfaithful
  · have hown := h.kind_of_says hkind
    obtain ⟨cell', hassign⟩ := assign_of_kind hown
    rw [h.restore_eq hassign, h.kind_eq, kind_assign hassign, hown]
  · exact (hfaithful field shared hkind later).1

theorem kinds_restoreAll (h : Embedded embed) {slots : List σ}
    (hslots : ∀ slot ∈ slots, (∃ cell, slot = embed cell) ∨ Slot.Faithful slot)
    {fields : List Field}
    (hspoken : List.Forall₂ (fun slot field => Slot.Says slot field.kind) slots fields)
    (shared later : ω) :
    Slot.kinds (Slot.restoreAll slots fields shared).1 later = fields.map Field.kind := by
  induction hspoken generalizing shared with
  | nil => rfl
  | cons hfield hrest ih =>
    obtain ⟨hslot, hothers⟩ := List.forall_mem_cons.mp hslots
    rw [Slot.restoreAll_cons, Slot.kinds_cons, h.kind_restore hslot hfield, ih hothers,
      List.map_cons]

theorem retold (h : Embedded embed) {slots : List σ}
    (hslots : ∀ slot ∈ slots, (∃ cell, slot = embed cell) ∨ Slot.Faithful slot)
    {fields : List Field}
    (hspoken : List.Forall₂ (fun slot field => Slot.Says slot field.kind) slots fields)
    (shared later : ω) :
    Retold embed slots fields
      (Slot.captureAll (Slot.restoreAll slots fields shared).1 later).1 := by
  induction hspoken generalizing shared later with
  | nil => exact .nil
  | @cons slot field slots fields hfield hrest ih =>
    obtain ⟨hslot, hothers⟩ := List.forall_mem_cons.mp hslots
    have htail := ih hothers (Slot.restore slot field shared).2
      (Slot.capture (Slot.restore slot field shared).1 later).2
    have hcons : (Slot.captureAll (Slot.restoreAll (slot :: slots) (field :: fields) shared).1
        later).1 = (Slot.capture (Slot.restore slot field shared).1 later).1 :: _ := rfl
    rw [hcons]
    rcases h.truth_or_faithful hslot with ⟨flag, rfl⟩ | ⟨hother, hfaithful⟩
    · have hown := h.kind_of_says hfield
      obtain ⟨cell', hassign⟩ := assign_of_kind hown
      cases field with
      | scalar bs =>
        obtain ⟨b, rfl⟩ := List.length_eq_one_iff.mp (Kind.scalar.inj hown)
        have hcaptured : (Slot.capture (Slot.restore (embed (.bool flag)) (.scalar [b]) shared).1
            later).1 = .scalar [if b = 0 then 0 else 1] := by
          rw [h.restore_eq hassign, h.capture_eq, field_assign hassign, echo_bool]
        rw [hcaptured]
        exact .truth flag b htail
      | _ => cases hown
    · have hcaptured := (hfaithful field shared hfield later).2
      rw [hcaptured]
      exact .same field hother htail

end Cell.Embedded

namespace Retold

variable {embed : Cell → σ} {slots : List σ} {fields fields' : List Field}

theorem eq_of_no_truth (h : Retold embed slots fields fields')
    (hnone : ∀ slot ∈ slots, ∀ flag, slot ≠ embed (.bool flag)) : fields' = fields := by
  induction h with
  | nil => rfl
  | truth flag b hrest ih => exact absurd rfl (hnone _ (List.mem_cons_self ..) flag)
  | same field hother hrest ih =>
    rw [ih (List.forall_mem_cons.mp hnone).2]

/-- The byte that a truth value was read from is told again as one or zero. -/
theorem byte_of_truth (h : Retold embed slots fields fields') {i : Nat} {flag : Bool}
    (hi : slots[i]? = some (embed (.bool flag))) :
    ∃ b, (Field.encodeAll fields)[Field.startAt fields i]? = some b ∧
      (Field.encodeAll fields')[Field.startAt fields i]? = some (if b = 0 then 0 else 1) := by
  induction h generalizing i with
  | nil => cases hi
  | truth flag' b hrest ih =>
    cases i with
    | zero => exact ⟨b, rfl, rfl⟩
    | succ i =>
      rw [Field.startAt_succ, Nat.add_comm]
      exact ih hi
  | same field hother hrest ih =>
    cases i with
    | zero => exact absurd (Option.some.inj hi) (hother flag)
    | succ i =>
      rw [Field.startAt_succ, Field.encodeAll_cons, Field.encodeAll_cons,
        List.getElem?_append_right (Nat.le_add_right _ _),
        List.getElem?_append_right (Nat.le_add_right _ _), Nat.add_sub_cancel_left]
      exact ih hi

/-- All other bytes stay, and none is added. -/
theorem byte_of_other (h : Retold embed slots fields fields') {n : Nat}
    (hn : ∀ i flag, slots[i]? = some (embed (.bool flag)) → n ≠ Field.startAt fields i) :
    (Field.encodeAll fields')[n]? = (Field.encodeAll fields)[n]? := by
  induction h generalizing n with
  | nil => rfl
  | truth flag b hrest ih =>
    cases n with
    | zero => exact absurd rfl (hn 0 flag rfl)
    | succ n =>
      refine ih ?_
      intro i flag' hi hstart
      refine hn (i + 1) flag' hi ?_
      rw [Field.startAt_succ, hstart, Nat.add_comm]
      rfl
  | same field hother hrest ih =>
    rw [Field.encodeAll_cons, Field.encodeAll_cons]
    by_cases hfront : n < field.encode.length
    · rw [List.getElem?_append_left hfront, List.getElem?_append_left hfront]
    · rw [List.getElem?_append_right (by omega), List.getElem?_append_right (by omega)]
      refine ih ?_
      intro i flag' hi hstart
      refine hn (i + 1) flag' hi ?_
      rw [Field.startAt_succ]
      omega

end Retold

namespace Store

/-- Putting an entry where it stands already changes nothing. -/
theorem insert_of_entry {store : Store} {key : Key} {entry : Entry}
    (h : store.entry? key = some entry) : store.insert key entry = store := by
  have hentries : store.entries.insert key entry = store.entries := by
    apply Std.ExtTreeMap.ext_getElem?
    intro other
    by_cases hkey : key = other
    · subst hkey
      exact (entry_insert_self store key entry).trans h.symm
    · exact entry_insert_of_ne store entry hkey
  show { store with entries := store.entries.insert key entry } = store
  rw [hentries]

variable {store : Store} {key : Key} {slots : List σ}

/-- A call that restores has read all the bytes by the kinds it was told, and has put all the fields
back. Where it checked the layout, it was by these kinds or by those of the slots as written. -/
theorem spells_of_restored {entry : Entry} (hentry : store.entry? key = some entry) {shared : ω}
    {length : Nat} (hrestored : (store.restore key slots shared).result = .ok (.restored length)) :
    let told := store.told key slots shared
    let fields := (entry.read told).fields
    let written := Slot.restoreAll slots fields shared
    Spells told fields entry.data ∧ (store.restore key slots shared).slots = written.1 ∧
      (store.config.checkLayout = true → Layout.fingerprint told = entry.layout ∨
        Layout.fingerprint (Slot.kinds written.1 written.2) = entry.layout) := by
  intro told fields written
  let swept := entry.sweep store.config.policy slots shared
  have hspoken : told = entry.told store.config.policy slots shared :=
    told_of_entry hentry slots shared
  have hread : swept.reading = entry.read told := by
    rw [hspoken]
    exact entry.reading_sweep store.config.policy slots shared
  have hjudges : store.Judges key entry slots shared swept.reading
      (Slot.kinds swept.slots swept.shared) := judges_swept hentry slots shared
  rw [hread] at hjudges
  rw [hjudges.result] at hrestored
  have hsound := (Verdict.result_eq_ok_iff.mp hrestored).1
  cases Entry.judged_of_judge hsound with
  | sound hnone hend hsame =>
    refine ⟨Entry.spells_of_read hnone hend, congrArg Prod.fst (hjudges.written hsound), ?_⟩
    intro hcheck
    rw [← hsame hcheck]
    rcases entry.kinds_swept store.config.policy slots shared with hkinds | hwritten
    · exact .inl (congrArg Layout.fingerprint (hspoken.trans hkinds.symm))
    · right
      change (swept.slots, swept.shared) = Slot.restoreAll slots swept.reading.fields shared
        at hwritten
      rw [hread] at hwritten
      rw [show written = _ from hwritten.symm]

/-- What was restored is saved again as it stood. Of slots without a truth value among them the
buffer is the same, and while the layout is checked the whole store is. With truth values, the
bytes they were read from are told as one or zero, and this is all that changes. -/
theorem resaved_as_restored {embed : Cell → σ} (hembed : Cell.Embedded embed)
    (hslots : ∀ slot ∈ slots, (∃ cell, slot = embed cell) ∨ Slot.Faithful slot) {shared : ω}
    {length : Nat}
    (hrestored : (store.cache .restore key slots shared).1.result = .ok (.restored length))
    (later : ω) :
    let call := store.cache .restore key slots shared
    let resaved := (call.2.cache .capture key call.1.slots later).2
    ((∀ slot ∈ slots, ∀ flag, slot ≠ embed (.bool flag)) →
      resaved.get? key = store.get? key ∧
        (store.config.checkLayout = true → resaved = store)) ∧
    ∃ before after fields, store.entry? key = some before ∧
      Spells (store.told key slots shared) fields before.data ∧
      resaved = store.insert key after ∧
      (store.config.checkLayout = true → after.layout = before.layout) ∧
      (∀ i flag, slots[i]? = some (embed (.bool flag)) →
        ∃ b, before.data[Field.startAt fields i]? = some b ∧
          after.data[Field.startAt fields i]? = some (if b = 0 then 0 else 1)) ∧
      (∀ n, (∀ i flag, slots[i]? = some (embed (.bool flag)) → n ≠ Field.startAt fields i) →
        after.data[n]? = before.data[n]?) := by
  intro call resaved
  rcases restore_eq_ok hrestored with ⟨-, hmiss⟩ | ⟨entry, hentry, -⟩
  · cases hmiss
  obtain ⟨hspells, hwritten, hchecked⟩ := spells_of_restored hentry hrestored
  let told := store.told key slots shared
  let fields := (entry.read told).fields
  have hspoken : List.Forall₂ (fun slot field => Slot.Says slot field.kind) slots fields := by
    have hspoken := store.says_told key slots shared
    rwa [← hspells.kinds_eq, List.forall₂_map_right_iff] at hspoken
  have hkinds (last : ω) : Slot.kinds (Slot.restoreAll slots fields shared).1 last = told :=
    (hembed.kinds_restoreAll hslots hspoken shared last).trans hspells.kinds_eq
  have hretold := hembed.retold hslots hspoken shared later
  have hsaved : resaved = store.insert key ⟨Layout.fingerprint told, Field.encodeAll
      (Slot.captureAll (Slot.restoreAll slots fields shared).1 later).1⟩ := by
    show (store.save key (store.restore key slots shared).slots later).2 = _
    rw [hwritten]
    simp only [save, Field.writeAll_eq, List.nil_append]
    rw [show Slot.kinds _ _ = told from hkinds _]
  have hlayout : store.config.checkLayout = true →
      Layout.fingerprint told = entry.layout := by
    intro hcheck
    have hjudged := hchecked hcheck
    rwa [hkinds, or_self] at hjudged
  constructor
  · intro hnone
    rw [hretold.eq_of_no_truth hnone, hspells.bytes_eq] at hsaved
    constructor
    · rw [hsaved, get_of_entry (entry_insert_self store key _), get_of_entry hentry]
    · intro hcheck
      rw [hsaved, hlayout hcheck]
      exact insert_of_entry hentry
  · refine ⟨entry, _, fields, hentry, hspells, hsaved, hlayout, ?_, ?_⟩
    · intro i flag hi
      rw [← hspells.bytes_eq]
      exact hretold.byte_of_truth hi
    · intro n hn
      rw [← hspells.bytes_eq]
      exact hretold.byte_of_other hn

/-- A truth value saved as seven, a text, and a slot of one's own that holds the byte five: only the
seven is saved as another byte. -/
theorem seven_resaved_as_one :
    let store := (empty {}).insert ⟨"k"⟩
      ⟨Layout.fingerprint [.scalar 1, .text, .scalar 1], [7, 2, 0, 0, 0, 104, 105, 5]⟩
    let slots := [Place.cell (.bool false), .cell (.text ""), .custom (.scalar [9]) none]
    let call := store.cache .restore ⟨"k"⟩ slots []
    let resaved := (call.2.cache .capture ⟨"k"⟩ call.1.slots []).2
    (Cell.Embedded Place.cell ∧
      (∀ slot ∈ slots, (∃ cell, slot = .cell cell) ∨ Slot.Faithful slot) ∧
      call.1.result = .ok (.restored 8)) ∧
    ∃ after, resaved = store.insert ⟨"k"⟩ after ∧
      after.layout = Layout.fingerprint [.scalar 1, .text, .scalar 1] ∧
      after.data[0]? = some 1 ∧ after.data[7]? = some 5 := by
  intro store slots call resaved
  have hcustom : Slot.Faithful (Place.custom (.scalar [9]) none) := by
    intro field alarms hkind later
    exact ⟨rfl, rfl⟩
  have hslots : ∀ slot ∈ slots, (∃ cell, slot = .cell cell) ∨ Slot.Faithful slot := by
    intro slot hslot
    rcases slot with cell | ⟨value, kind?⟩
    · exact .inl ⟨cell, rfl⟩
    · obtain ⟨rfl, rfl⟩ : value = .scalar [9] ∧ kind? = none := by simpa [slots] using hslot
      exact .inr hcustom
  have hrestored : call.1.result = .ok (.restored 8) := by decide
  refine ⟨⟨Place.embedded, hslots, hrestored⟩, ?_⟩
  obtain ⟨-, before, after, fields, hbefore, -, hresaved, hlayout, htruth, hother⟩ :=
    resaved_as_restored Place.embedded hslots hrestored []
  rw [show store.entry? ⟨"k"⟩ = _ from entry_insert_self _ _ _] at hbefore
  obtain rfl := Option.some.inj hbefore
  refine ⟨after, hresaved, hlayout rfl, ?_, ?_⟩
  · obtain ⟨b, hb, hafter⟩ := htruth 0 false rfl
    obtain rfl : 7 = b := Option.some.inj hb
    exact hafter
  · refine hother 7 ?_
    intro i flag hi
    have hplace : i = 0 := by
      rcases i with _ | _ | _ | i
      · rfl
      all_goals cases hi
    rw [hplace]
    exact Nat.succ_ne_zero 6

end Store
end Repaint
