import Repaint.Proofs.Sweep

/-!
What a restore comes to. Where no restore of the call changes a kind the two policies judge alike,
and the verdict depends only on how the bytes under the key can be read by the kinds of the slots.
The entry may have been saved from any slots whatever.
-/

set_option autoImplicit false

namespace Repaint

namespace Slot

variable {σ ω : Type} [Slot σ ω]

/-- The kinds that go into the fingerprint of an entry: those the slots have once they have been
captured. -/
def savedKinds (slots : List σ) (shared : ω) : List Kind := kinds slots (captureAll slots shared).2

/-- Each slot captures a field of the kind it says it has. -/
def Honest (slots : List σ) (shared : ω) : Prop :=
  (captureAll slots shared).1.map Field.kind = savedKinds slots shared

@[simp] theorem length_savedKinds (slots : List σ) (shared : ω) :
    (savedKinds slots shared).length = slots.length :=
  length_kinds slots _

end Slot

theorem Field.length_le_of_kinds {fields : List Field} {kinds : List Kind}
    (h : fields.map Field.kind = kinds.take fields.length) : fields.length ≤ kinds.length := by
  have hlen := congrArg List.length h
  rw [List.length_map, List.length_take] at hlen
  omega

theorem Field.kinds_take_of_eq {fields : List Field} {kinds : List Kind}
    (h : fields.map Field.kind = kinds) : fields.map Field.kind = kinds.take fields.length := by
  rw [← h, ← List.length_map Field.kind, List.take_length]

namespace Entry

def read (entry : Entry) (kinds : List Kind) : Reading := (Cursor.start entry.data).read kinds

/-- Some prefix of the buffer is one field of each kind. -/
def Readable (entry : Entry) (kinds : List Kind) : Prop :=
  ∃ front fields, front <+: entry.data ∧ Spells kinds fields front

variable {entry : Entry} {key : Key} {kinds : List Kind}

theorem kinds_read (entry : Entry) (kinds : List Kind) :
    (entry.read kinds).fields.map Field.kind = kinds.take (entry.read kinds).fields.length := by
  obtain ⟨front, -, -, hspells⟩ := (Cursor.found_start entry.data kinds).spelled
  exact hspells.kinds_eq

theorem length_read_le (entry : Entry) (kinds : List Kind) :
    (entry.read kinds).fields.length ≤ kinds.length :=
  Field.length_le_of_kinds (entry.kinds_read kinds)

theorem length_read (h : (entry.read kinds).fault? = none) :
    (entry.read kinds).fields.length = kinds.length :=
  (Cursor.found_start entry.data kinds).complete h

theorem judge_of_spells {fields : List Field} {front : Bytes} (hfront : front <+: entry.data)
    (h : Spells kinds fields front) (checkLayout : Bool) :
    entry.judge key checkLayout (entry.read kinds) kinds =
      if front.length ≠ entry.data.length then
        .drifted (.lengthMismatch key front.length entry.data.length)
      else if checkLayout && Layout.fingerprint kinds != entry.layout then
        .drifted (.layoutMismatch key)
      else .sound := by
  rw [read, Cursor.read_of_spells hfront h]
  rfl

/-- Without a prefix that can be read there is a fault, whatever the other checks say. -/
theorem judge_of_not_readable (h : ¬ entry.Readable kinds) (checkLayout : Bool) :
    ∃ slot offset fault,
      entry.judge key checkLayout (entry.read kinds) kinds =
        .faulty (.ofFault key slot offset fault) := by
  cases hfault : (entry.read kinds).fault? with
  | none =>
    obtain ⟨front, hfront, hspells⟩ := Cursor.spells_of_read hfault
    exact absurd ⟨front, _, hfront, hspells⟩ h
  | some fault =>
    exact ⟨(entry.read kinds).fields.length, (entry.read kinds).offset, fault,
      by simp only [judge, hfault]⟩

/-- What a reading is judged to be, with the reason. -/
inductive Judged (entry : Entry) (key : Key) (checkLayout : Bool) (reading : Reading)
    (kinds : List Kind) : Verdict → Prop
  | faulty {fault : Fault} : reading.fault? = some fault →
      Judged entry key checkLayout reading kinds
        (.faulty (.ofFault key reading.fields.length reading.offset fault))
  | short : reading.fault? = none → reading.offset ≠ entry.data.length →
      Judged entry key checkLayout reading kinds
        (.drifted (.lengthMismatch key reading.offset entry.data.length))
  | layout : reading.fault? = none → reading.offset = entry.data.length → checkLayout = true →
      Layout.fingerprint kinds ≠ entry.layout →
      Judged entry key checkLayout reading kinds (.drifted (.layoutMismatch key))
  | sound : reading.fault? = none → reading.offset = entry.data.length →
      (checkLayout = true → Layout.fingerprint kinds = entry.layout) →
      Judged entry key checkLayout reading kinds .sound

theorem judged_of_judge {checkLayout : Bool} {reading : Reading} {verdict : Verdict}
    (h : entry.judge key checkLayout reading kinds = verdict) :
    entry.Judged key checkLayout reading kinds verdict := by
  subst h
  unfold judge
  split
  · rename_i fault hfault
    exact .faulty hfault
  · rename_i hnone
    split
    · rename_i hshort
      exact .short hnone hshort
    · rename_i hend
      rw [not_not] at hend
      split
      · rename_i hlayout
        rw [Bool.and_eq_true, bne_iff_ne] at hlayout
        exact .layout hnone hend hlayout.1 hlayout.2
      · rename_i hsame
        rw [Bool.and_eq_true, bne_iff_ne, not_and, not_not] at hsame
        exact .sound hnone hend hsame

end Entry

/-- Only a sound reading restores; every other verdict is an error. -/
theorem Verdict.result_eq_ok_iff {entry : Entry} {verdict : Verdict} {outcome : Outcome} :
    verdict.result entry = .ok outcome ↔
      verdict = .sound ∧ outcome = .restored entry.data.length := by
  cases verdict with
  | faulty error => exact ⟨nofun, fun h => nomatch h.1⟩
  | drifted error => exact ⟨nofun, fun h => nomatch h.1⟩
  | sound =>
    rw [result, Except.ok.injEq]
    exact ⟨fun h => ⟨rfl, h.symm⟩, fun h => h.2.symm⟩

namespace Entry

variable {entry : Entry} {reading : Reading}

/-- A fault is the verdict, whatever the kinds it is judged by. -/
theorem result_of_fault {fault : Fault} (h : reading.fault? = some fault) (key : Key)
    (checkLayout : Bool) (kinds : List Kind) :
    (entry.judge key checkLayout reading kinds).result entry =
      .error (.ofFault key reading.fields.length reading.offset fault) := by
  simp only [judge, h, Verdict.result]

theorem result_of_short (hnone : reading.fault? = none)
    (hshort : reading.offset ≠ entry.data.length) (key : Key) (checkLayout : Bool)
    (kinds : List Kind) :
    (entry.judge key checkLayout reading kinds).result entry =
      .error (.lengthMismatch key reading.offset entry.data.length) := by
  simp only [judge, hnone, if_pos hshort, Verdict.result]

section

variable {σ ω : Type} [Slot σ ω]

/-- The kinds that the slots tell a restore of the entry. -/
def told (entry : Entry) (policy : Policy) (slots : List σ) (shared : ω) : List Kind :=
  (Cursor.start entry.data).told policy slots shared

theorem told_of_keepKinds {entry : Entry} {slots : List σ} {shared : ω}
    (h : Slot.KeepKinds slots (entry.read (Slot.kinds slots shared)).fields shared)
    (policy : Policy) : entry.told policy slots shared = Slot.kinds slots shared :=
  Cursor.told_of_keepKinds policy h

theorem reading_sweep (entry : Entry) (policy : Policy) (slots : List σ) (shared : ω) :
    (entry.sweep policy slots shared).reading = entry.read (entry.told policy slots shared) :=
  Cursor.reading_sweep policy _ slots shared

/-- For the layout a call asks for kinds again. A strict one has asked for the same before; a
permissive one asks the slots as written. -/
theorem kinds_swept (entry : Entry) (policy : Policy) (slots : List σ) (shared : ω) :
    let swept := entry.sweep policy slots shared
    Slot.kinds swept.slots swept.shared = entry.told policy slots shared ∨
      (swept.slots, swept.shared) = Slot.restoreAll slots swept.reading.fields shared := by
  intro swept
  cases policy with
  | permissive => exact .inr ((Cursor.start entry.data).sweep_permissive slots shared)
  | strict =>
    have hswept : swept = ⟨_, slots, shared⟩ := Cursor.sweep_strict _ slots shared
    rw [hswept]
    exact .inl (Cursor.told_strict _ slots shared).symm

/-- What could be read by the kinds told has been written, and the kinds it is judged by are those
of the slots as written. -/
theorem restorePermissive_eq (entry : Entry) (key : Key) (checkLayout : Bool) (slots : List σ)
    (shared : ω) :
    let reading := entry.read (entry.told .permissive slots shared)
    let written := Slot.restoreAll slots reading.fields shared
    let verdict := entry.judge key checkLayout reading (Slot.kinds written.1 written.2)
    entry.restorePermissive key checkLayout slots shared =
      ⟨verdict.result entry, written.1, written.2,
        [verdict.event key entry reading.fields.length slots.length], 0⟩ := by
  have hreading := entry.reading_sweep .permissive slots shared
  have hwritten := (Cursor.start entry.data).sweep_permissive slots shared
  change ((entry.sweep .permissive slots shared).slots,
    (entry.sweep .permissive slots shared).shared) =
      Slot.restoreAll slots (entry.sweep .permissive slots shared).reading.fields shared at hwritten
  intro reading written verdict
  rw [hreading] at hwritten
  obtain ⟨hslots, hshared⟩ := Prod.mk.inj hwritten
  simp only [restorePermissive, hreading, hslots, hshared, verdict, written, reading]

theorem restoreStrict_eq (entry : Entry) (key : Key) (checkLayout : Bool) (slots : List σ)
    (shared : ω) :
    let kinds := Slot.kinds slots shared
    let reading := entry.read kinds
    let verdict := entry.judge key checkLayout reading kinds
    let written :=
      if verdict = .sound then Slot.restoreAll slots reading.fields shared else (slots, shared)
    entry.restoreStrict key checkLayout slots shared =
      ⟨verdict.result entry, written.1, written.2, [verdict.event key entry 0 slots.length],
        verdict.discards reading⟩ := by
  have hswept : entry.sweep .strict slots shared =
      ⟨entry.read (Slot.kinds slots shared), slots, shared⟩ := Cursor.sweep_strict _ slots shared
  simp only [restoreStrict, hswept]

/-- Where putting fields back changes no kind, a permissive restore comes to what it would be with
all kinds asked, and all fields read, before the first is written. -/
theorem restorePermissive_of_keepKinds {entry : Entry} {slots : List σ} {shared : ω}
    (hkeep : Slot.KeepKinds slots (entry.read (Slot.kinds slots shared)).fields shared) (key : Key)
    (checkLayout : Bool) :
    let kinds := Slot.kinds slots shared
    let reading := entry.read kinds
    let written := Slot.restoreAll slots reading.fields shared
    let verdict := entry.judge key checkLayout reading kinds
    entry.restorePermissive key checkLayout slots shared =
      ⟨verdict.result entry, written.1, written.2,
        [verdict.event key entry reading.fields.length slots.length], 0⟩ := by
  have hkinds := hkeep.kinds_restoreAll
  have hpermissive := entry.restorePermissive_eq key checkLayout slots shared
  simp only [told_of_keepKinds hkeep, hkinds] at hpermissive
  exact hpermissive

end

end Entry

namespace Store

variable {σ ω : Type} [Slot σ ω] {store : Store} {key : Key} {entry : Entry} {slots : List σ}

theorem entry_insert_self (store : Store) (key : Key) (entry : Entry) :
    entry? (store.insert key entry) key = some entry :=
  Std.ExtTreeMap.getElem?_insert_self

theorem entry_insert_of_ne (store : Store) {key key' : Key} (entry : Entry) (h : key ≠ key') :
    entry? (store.insert key entry) key' = store.entry? key' := by
  have hne : compare key key' ≠ .eq := fun heq => h (Std.LawfulEqOrd.eq_of_compare heq)
  exact Std.ExtTreeMap.getElem?_insert.trans (if_neg hne)

theorem get_of_entry (h : store.entry? key = some entry) : store.get? key = some entry.data := by
  rw [get?, h, Option.map_some]

theorem restore_of_absent (h : store.entry? key = none) (slots : List σ) (shared : ω) :
    store.restore key slots shared =
      ⟨.ok .miss, slots, shared, store.config.miss.events key, 0⟩ := by
  simp only [restore, h]

theorem restore_permissive (hpermissive : store.config.policy = .permissive)
    (hentry : store.entry? key = some entry) (slots : List σ) (shared : ω) :
    store.restore key slots shared =
      entry.restorePermissive key store.config.checkLayout slots shared := by
  simp only [restore, hentry, hpermissive]

theorem restore_strict (hstrict : store.config.policy = .strict)
    (hentry : store.entry? key = some entry) (slots : List σ) (shared : ω) :
    store.restore key slots shared =
      entry.restoreStrict key store.config.checkLayout slots shared := by
  simp only [restore, hentry, hstrict]

/-- A restore without an error is a miss, or it restores the whole entry. -/
theorem restore_eq_ok {shared : ω} {outcome : Outcome}
    (h : (store.restore key slots shared).result = .ok outcome) :
    store.entry? key = none ∧ outcome = .miss ∨
      ∃ entry, store.entry? key = some entry ∧ outcome = .restored entry.data.length := by
  cases hentry : store.entry? key with
  | none =>
    rw [restore_of_absent hentry] at h
    cases h
    exact .inl ⟨rfl, rfl⟩
  | some entry =>
    refine .inr ⟨entry, rfl, ?_⟩
    simp only [restore, hentry] at h
    split at h
    · exact (Verdict.result_eq_ok_iff.mp h).2
    · exact (Verdict.result_eq_ok_iff.mp h).2

/-- The kinds that the slots tell a restore. One that finds nothing asks for none. -/
def told (store : Store) (key : Key) (slots : List σ) (shared : ω) : List Kind :=
  match store.entry? key with
  | none => Slot.kinds slots shared
  | some entry => entry.told store.config.policy slots shared

theorem told_of_entry (hentry : store.entry? key = some entry) (slots : List σ) (shared : ω) :
    store.told key slots shared = entry.told store.config.policy slots shared := by
  simp only [told, hentry]

theorem told_of_strict (hstrict : store.config.policy = .strict) (key : Key) (slots : List σ)
    (shared : ω) : store.told key slots shared = Slot.kinds slots shared := by
  unfold told
  split
  · rfl
  · rw [hstrict]
    exact Cursor.told_strict _ slots shared

@[simp] theorem length_told (store : Store) (key : Key) (slots : List σ) (shared : ω) :
    (store.told key slots shared).length = slots.length := by
  unfold told
  split
  · exact Slot.length_kinds slots shared
  · exact Cursor.length_told _ _ slots shared

theorem head?_told (store : Store) (key : Key) (slots : List σ) (shared : ω) :
    (store.told key slots shared).head? = (Slot.kinds slots shared).head? := by
  unfold told
  split
  · rfl
  · exact Cursor.head?_told _ _ slots shared

theorem says_told (store : Store) (key : Key) (slots : List σ) (shared : ω) :
    List.Forall₂ Slot.Says slots (store.told key slots shared) := by
  unfold told
  split
  · exact Slot.says_kinds slots shared
  · exact Cursor.says_told _ _ slots shared

/-- No restore that the call can make changes a kind. -/
def KeepsKinds (store : Store) (key : Key) (slots : List σ) (shared : ω) : Prop :=
  ∀ entry, store.entry? key = some entry →
    Slot.KeepKinds slots (entry.read (Slot.kinds slots shared)).fields shared

theorem told_of_keepsKinds {shared : ω} (h : store.KeepsKinds key slots shared) :
    store.told key slots shared = Slot.kinds slots shared := by
  unfold told
  split
  · rfl
  · rename_i entry hentry
    exact Entry.told_of_keepKinds (h entry hentry) _

/-- Slots with kinds of their own change none, whatever stands under the key. -/
theorem keepsKinds_of_owned (hown : ∀ slot ∈ slots, Slot.OwnsKind slot) (store : Store) (key : Key)
    (shared : ω) : store.KeepsKinds key slots shared :=
  fun entry _ => Slot.keepKinds_of_owned hown (entry.kinds_read _)

/-- The call judges this reading by these kinds, and where that is sound it has put the fields
back. -/
structure Judges (store : Store) (key : Key) (entry : Entry) (slots : List σ) (shared : ω)
    (reading : Reading) (kinds : List Kind) : Prop where
  result : (store.restore key slots shared).result =
    (entry.judge key store.config.checkLayout reading kinds).result entry
  written : entry.judge key store.config.checkLayout reading kinds = .sound →
    ((store.restore key slots shared).slots, (store.restore key slots shared).shared) =
      Slot.restoreAll slots reading.fields shared

/-- What is judged is how the call itself came through its slots. -/
theorem judges_swept (hentry : store.entry? key = some entry) (slots : List σ)
    (shared : ω) :
    let swept := entry.sweep store.config.policy slots shared
    store.Judges key entry slots shared swept.reading (Slot.kinds swept.slots swept.shared) := by
  intro swept
  cases hpolicy : store.config.policy with
  | permissive =>
    have hwritten := (Cursor.start entry.data).sweep_permissive slots shared
    have hswept : swept = entry.sweep .permissive slots shared := by
      simp only [swept, hpolicy]
    rw [hswept]
    constructor
    · rw [restore_permissive hpolicy hentry]
      rfl
    · intro _
      rw [restore_permissive hpolicy hentry]
      exact hwritten
  | strict =>
    have hswept : swept = ⟨entry.read (Slot.kinds slots shared), slots, shared⟩ := by
      simp only [swept, hpolicy]
      exact Cursor.sweep_strict _ slots shared
    rw [hswept]
    constructor
    · rw [restore_strict hpolicy hentry, Entry.restoreStrict_eq]
    · intro hsound
      rw [restore_strict hpolicy hentry, Entry.restoreStrict_eq]
      simp only [if_pos hsound]

/-- Either policy judges the reading, and only for its last check it asks for kinds again. -/
theorem restore_judged (hentry : store.entry? key = some entry) (slots : List σ) (shared : ω) :
    ∃ kinds, (store.restore key slots shared).result =
      (entry.judge key store.config.checkLayout (entry.read (store.told key slots shared))
        kinds).result entry := by
  rw [told_of_entry hentry, ← Entry.reading_sweep]
  exact ⟨_, (judges_swept hentry slots shared).result⟩

/-- Both policies judge the reading by the kinds that the slots came with. -/
theorem restore_result (hentry : store.entry? key = some entry) {shared : ω}
    (hkeep : store.KeepsKinds key slots shared) :
    (store.restore key slots shared).result =
      (entry.judge key store.config.checkLayout (entry.read (Slot.kinds slots shared))
        (Slot.kinds slots shared)).result entry := by
  cases hpolicy : store.config.policy with
  | permissive =>
    rw [restore_permissive hpolicy hentry,
      Entry.restorePermissive_of_keepKinds (hkeep entry hentry)]
  | strict => rw [restore_strict hpolicy hentry, Entry.restoreStrict_eq]

/-- A sound reading reaches every slot under either policy. -/
theorem restore_of_sound (hentry : store.entry? key = some entry) {shared : ω}
    (hkeep : store.KeepsKinds key slots shared)
    (hsound : entry.judge key store.config.checkLayout (entry.read (Slot.kinds slots shared))
      (Slot.kinds slots shared) = .sound) :
    let written := Slot.restoreAll slots (entry.read (Slot.kinds slots shared)).fields shared
    store.restore key slots shared =
      ⟨.ok (.restored entry.data.length), written.1, written.2,
        [.restored key slots.length], 0⟩ := by
  cases hpolicy : store.config.policy with
  | permissive =>
    rw [restore_permissive hpolicy hentry,
      Entry.restorePermissive_of_keepKinds (hkeep entry hentry)]
    simp only [hsound]
    rfl
  | strict =>
    rw [restore_strict hpolicy hentry, Entry.restoreStrict_eq]
    simp only [hsound]
    rfl

/-- The fields that a restore gives to slots of these kinds: all that could be read, but none under
the strict policy unless the reading is sound. -/
def dealt (store : Store) (key : Key) (kinds : List Kind) : List Field :=
  match store.entry? key with
  | none => []
  | some entry =>
    match store.config.policy with
    | .permissive => (entry.read kinds).fields
    | .strict =>
      if entry.judge key store.config.checkLayout (entry.read kinds) kinds = .sound then
        (entry.read kinds).fields
      else []

theorem kinds_dealt (store : Store) (key : Key) (kinds : List Kind) :
    (store.dealt key kinds).map Field.kind = kinds.take (store.dealt key kinds).length := by
  unfold dealt
  split
  · rfl
  · rename_i entry hentry
    split
    · exact entry.kinds_read kinds
    · split
      · exact entry.kinds_read kinds
      · rfl

theorem length_dealt_le (store : Store) (key : Key) (kinds : List Kind) :
    (store.dealt key kinds).length ≤ kinds.length :=
  Field.length_le_of_kinds (store.kinds_dealt key kinds)

theorem kind_dealt {store : Store} {key : Key} {kinds : List Kind} {i : Nat} {field : Field}
    (h : (store.dealt key kinds)[i]? = some field) : kinds[i]? = some field.kind := by
  obtain ⟨hi, -⟩ := List.getElem?_eq_some_iff.mp h
  have hkind := congrArg (·[i]?) (store.kinds_dealt key kinds)
  simp only [List.getElem?_map, h, Option.map_some, List.getElem?_take_of_lt hi] at hkind
  exact hkind.symm

/-- What a restore writes, it writes by dealing out those fields. -/
theorem restore_deals (store : Store) (key : Key) (slots : List σ) (shared : ω) :
    ((store.restore key slots shared).slots, (store.restore key slots shared).shared) =
      Slot.restoreAll slots (store.dealt key (store.told key slots shared)) shared := by
  cases hentry : store.entry? key with
  | none =>
    rw [restore_of_absent hentry, dealt, hentry]
    exact (Slot.restoreAll_nil slots shared).symm
  | some entry =>
    cases hpolicy : store.config.policy with
    | permissive =>
      rw [restore_permissive hpolicy hentry, Entry.restorePermissive_eq, told_of_entry hentry]
      simp only [dealt, hentry, hpolicy]
    | strict =>
      rw [restore_strict hpolicy hentry, Entry.restoreStrict_eq, told_of_strict hpolicy]
      simp only [dealt, hentry, hpolicy]
      split
      · rfl
      · exact (Slot.restoreAll_nil slots shared).symm

end Store

end Repaint
