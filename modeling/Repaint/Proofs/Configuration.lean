import Repaint.Proofs.Cell

/-!
What the configuration can change of a cache call. The policy shows in the slots of a failed
call and the miss report in the events, but neither shows in what is stored or in the result;
the layout check may turn a success into a failure and does nothing else. Between the two
policies this holds as long as no restore of the call changes a kind. A permissive restore asks each
slot when it has written those before it, a strict one when it has written none; that every slot
keeps its own kind is not enough where one slot can change what another says.
-/

set_option autoImplicit false

namespace Repaint

/-- Without the layout check a reading is judged as with it, unless it is only the layout that
is at fault; then it is sound. -/
theorem Entry.judge_layout (entry : Entry) (key : Key) (reading : Reading) (kinds : List Kind) :
    let checked := entry.judge key true reading kinds
    let unchecked := entry.judge key false reading kinds
    checked.result entry = .error (.layoutMismatch key) ∧ unchecked = .sound ∨
      checked.result entry ≠ .error (.layoutMismatch key) ∧ checked = unchecked := by
  unfold judge
  cases reading.fault? with
  | some fault =>
    right
    cases fault <;> exact ⟨nofun, rfl⟩
  | none =>
    by_cases hend : reading.offset = entry.data.length
    · by_cases hlayout : Layout.fingerprint kinds = entry.layout
      · right
        simp [hend, hlayout, Verdict.result]
      · left
        simp [hend, hlayout, Verdict.result]
    · right
      simp [hend, Verdict.result]

namespace Store

variable {σ ω : Type} [Slot σ ω] {store store' : Store} {key : Key} {slots : List σ}

theorem entry_congr (h : store.entries = store'.entries) (key : Key) :
    store.entry? key = store'.entry? key := by
  unfold entry?
  rw [h]

/-- A cache call stores the same under any configuration, and leaves the configuration. -/
theorem cache_entries (h : store.entries = store'.entries) (phase : Phase) (key : Key)
    (slots : List σ) (shared : ω) :
    (store.cache phase key slots shared).2.entries =
        (store'.cache phase key slots shared).2.entries ∧
      (store.cache phase key slots shared).2.config = store.config := by
  cases phase with
  | capture =>
    refine ⟨?_, rfl⟩
    simp only [cache, save, insert, h]
  | restore => exact ⟨h, rfl⟩

/-- Where no restore of the call changes a kind, either policy judges by the kinds that the slots
came with. -/
theorem judges_kept {entry : Entry} (hentry : store.entry? key = some entry) {shared : ω}
    (hkeep : store.KeepsKinds key slots shared) :
    store.Judges key entry slots shared (entry.read (Slot.kinds slots shared))
      (Slot.kinds slots shared) where
  result := restore_result hentry hkeep
  written hsound := by rw [restore_of_sound hentry hkeep hsound]

/-- Calls of one policy come through the slots alike, and those of two policies where no kind is
changed. -/
theorem judges_alike {entry : Entry} (hentry : store.entry? key = some entry)
    (hentry' : store'.entry? key = some entry) {shared : ω}
    (hkeep : store.config.policy ≠ store'.config.policy → store.KeepsKinds key slots shared) :
    ∃ reading kinds, store.Judges key entry slots shared reading kinds ∧
      store'.Judges key entry slots shared reading kinds := by
  by_cases hpolicy : store.config.policy = store'.config.policy
  · have hjudges := judges_swept hentry slots shared
    rw [hpolicy] at hjudges
    exact ⟨_, _, hjudges, judges_swept hentry' slots shared⟩
  · have hkept := hkeep hpolicy
    have hkept' : store'.KeepsKinds key slots shared := by
      intro found hfound
      rw [hentry', ← hentry] at hfound
      exact hkept found hfound
    exact ⟨_, _, judges_kept hentry hkept, judges_kept hentry' hkept'⟩

theorem restore_result_congr (h : store.entries = store'.entries) {shared : ω}
    (hkeep : store.config.policy ≠ store'.config.policy → store.KeepsKinds key slots shared)
    (hcheck : store.config.checkLayout = store'.config.checkLayout) :
    (store.restore key slots shared).result = (store'.restore key slots shared).result := by
  cases hentry : store.entry? key with
  | none =>
    have hentry' := (entry_congr h key).symm.trans hentry
    rw [restore_of_absent hentry, restore_of_absent hentry']
  | some entry =>
    have hentry' := (entry_congr h key).symm.trans hentry
    obtain ⟨reading, kinds, hjudges, hjudges'⟩ := judges_alike hentry hentry' hkeep
    rw [hjudges.result, hjudges'.result, hcheck]

/-- Turning the layout check off lets pass what only the check refused. -/
theorem restore_result_unchecked (h : store.entries = store'.entries) {shared : ω}
    (hkeep : store.config.policy ≠ store'.config.policy → store.KeepsKinds key slots shared)
    (hon : store.config.checkLayout = true) (hoff : store'.config.checkLayout = false) :
    ((store.restore key slots shared).result = .error (.layoutMismatch key) ∧
      ∃ entry, store.entry? key = some entry ∧
        (store'.restore key slots shared).result = .ok (.restored entry.data.length)) ∨
    ((store.restore key slots shared).result ≠ .error (.layoutMismatch key) ∧
      (store.restore key slots shared).result = (store'.restore key slots shared).result) := by
  cases hentry : store.entry? key with
  | none =>
    have hentry' := (entry_congr h key).symm.trans hentry
    rw [restore_of_absent hentry, restore_of_absent hentry']
    exact .inr ⟨nofun, rfl⟩
  | some entry =>
    have hentry' := (entry_congr h key).symm.trans hentry
    obtain ⟨reading, kinds, hjudges, hjudges'⟩ := judges_alike hentry hentry' hkeep
    rw [hjudges.result, hjudges'.result, hon, hoff]
    rcases entry.judge_layout key reading kinds with ⟨hlayout, hsound⟩ | ⟨hother, hsame⟩
    · rw [hsound]
      exact .inl ⟨hlayout, entry, rfl, rfl⟩
    · rw [← hsame]
      exact .inr ⟨hother, rfl⟩

/-- A restore that succeeds under two configurations writes the same under both. -/
theorem restore_ok_congr (h : store.entries = store'.entries) {shared : ω}
    (hkeep : store.config.policy ≠ store'.config.policy → store.KeepsKinds key slots shared)
    {outcome outcome' : Outcome} (hok : (store.restore key slots shared).result = .ok outcome)
    (hok' : (store'.restore key slots shared).result = .ok outcome') :
    (store.restore key slots shared).slots = (store'.restore key slots shared).slots ∧
      (store.restore key slots shared).shared = (store'.restore key slots shared).shared := by
  cases hentry : store.entry? key with
  | none =>
    have hentry' := (entry_congr h key).symm.trans hentry
    rw [restore_of_absent hentry, restore_of_absent hentry']
    exact ⟨rfl, rfl⟩
  | some entry =>
    have hentry' := (entry_congr h key).symm.trans hentry
    obtain ⟨reading, kinds, hjudges, hjudges'⟩ := judges_alike hentry hentry' hkeep
    rw [hjudges.result] at hok
    rw [hjudges'.result] at hok'
    -- each policy has written the whole reading once its verdict is sound
    have hwritten := hjudges.written (Verdict.result_eq_ok_iff.mp hok).1
    have hwritten' := hjudges'.written (Verdict.result_eq_ok_iff.mp hok').1
    exact Prod.mk.inj (hwritten.trans hwritten'.symm)

/-- Of two configurations over the same entries, neither changes what is cached, and the results
differ in one case only: the first checks the layout and finds it changed, and the second does
not check it and restores. The two stores may change places. Where their policies differ too, no
restore of the call is to change a kind. -/
theorem configuration_gates_layout_alone (hentries : store.entries = store'.entries)
    (phase : Phase) (key : Key) (slots : List σ) (shared : ω)
    (hkeep : phase = .restore → store.config.policy ≠ store'.config.policy →
      store.KeepsKinds key slots shared) :
    let call := store.cache phase key slots shared
    let call' := store'.cache phase key slots shared
    (call.2.entries = call'.2.entries ∧ call.2.config = store.config ∧
      call'.2.config = store'.config) ∧
    (store.config.checkLayout = store'.config.checkLayout → call.1.result = call'.1.result) ∧
    (store.config.checkLayout = true → store'.config.checkLayout = false →
      (call.1.result = .error (.layoutMismatch key) ∧
        ∃ entry, store.entry? key = some entry ∧
          call'.1.result = .ok (.restored entry.data.length)) ∨
      (call.1.result ≠ .error (.layoutMismatch key) ∧ call.1.result = call'.1.result)) ∧
    (∀ outcome outcome', call.1.result = .ok outcome → call'.1.result = .ok outcome' →
      call.1.slots = call'.1.slots ∧ call.1.shared = call'.1.shared) := by
  obtain ⟨hstored, hconfig⟩ := cache_entries hentries phase key slots shared
  have hconfig' := (cache_entries hentries.symm phase key slots shared).2
  refine ⟨⟨hstored, hconfig, hconfig'⟩, ?_⟩
  cases phase with
  | capture =>
    -- a capture does not look at the configuration
    exact ⟨fun _ => rfl, fun _ _ => .inr ⟨nofun, rfl⟩, fun _ _ _ _ => ⟨rfl, rfl⟩⟩
  | restore =>
    refine ⟨?_, ?_, ?_⟩
    · intro hcheck
      exact restore_result_congr hentries (hkeep rfl) hcheck
    · intro hon hoff
      exact restore_result_unchecked hentries (hkeep rfl) hon hoff
    · intro outcome outcome' hok hok'
      exact restore_ok_congr hentries (hkeep rfl) hok hok'

/-- A number and a text restored in the wrong order, by a store that is strict and checks the
layout and by one that is neither. -/
theorem swapped_slots_under_two_configurations :
    let entry : Entry := ⟨Layout.fingerprint [.scalar 4, .text], [2, 0, 0, 0, 2, 0, 0, 0, 104, 105]⟩
    let checking := (empty { policy := .strict }).insert ⟨"k"⟩ entry
    let lenient := (empty { miss := .silent, checkLayout := false }).insert ⟨"k"⟩ entry
    let slots := [Place.cell (.text ""), .cell (.number (Number.zero .int32))]
    (checking.entries = lenient.entries ∧ checking.config.policy ≠ lenient.config.policy ∧
        checking.KeepsKinds ⟨"k"⟩ slots []) ∧
      (checking.cache .restore ⟨"k"⟩ slots []).1.result = .error (.layoutMismatch ⟨"k"⟩) ∧
      (lenient.cache .restore ⟨"k"⟩ slots []).1.result = .ok (.restored 10) := by
  intro entry checking lenient slots
  have hentries : checking.entries = lenient.entries := rfl
  have hkeep : checking.KeepsKinds ⟨"k"⟩ slots [] := Place.keepsKinds _ _ slots []
  have hrefused : (checking.cache .restore ⟨"k"⟩ slots []).1.result =
      .error (.layoutMismatch ⟨"k"⟩) := by decide
  refine ⟨⟨hentries, by decide, hkeep⟩, hrefused, ?_⟩
  have hgate := configuration_gates_layout_alone hentries .restore ⟨"k"⟩ slots []
    fun _ _ => hkeep
  rcases hgate.2.2.1 rfl rfl with ⟨-, entry', hentry, hrestored⟩ | ⟨hother, -⟩
  · rw [show checking.entry? ⟨"k"⟩ = some entry from entry_insert_self _ _ _] at hentry
    cases hentry
    exact hrestored
  · exact absurd hrefused hother

end Store

/-- The slot keeps its kind where it is given a field of that kind. What this does to the kinds of
other slots is left open. -/
def Slot.KeepsKind {σ ω : Type} [Slot σ ω] (slot : σ) : Prop :=
  ∀ (field : Field) (shared : ω), field.kind = kind slot shared →
    kind (restore slot field shared).1 (restore slot field shared).2 = kind slot shared

/-- Two slots that share a tag: the tag itself, one byte, and a payload, which is a text where the
tag is zero and four bytes otherwise. -/
inductive Tagged where
  | tag
  | payload (value : Field)
  deriving DecidableEq

namespace Tagged

instance : Slot Tagged UInt8 where
  kind
    | tag, _ => .scalar 1
    | payload _, live => if live = 0 then .text else .scalar 4
  capture
    | tag, live => (.scalar [live], live)
    | payload value, live => (value, live)
  restore
    | tag, .scalar [live], _ => (tag, live)
    | payload _, value, live => (payload value, live)
    | slot, _, live => (slot, live)

theorem keepsKind (slot : Tagged) : Slot.KeepsKind slot := by
  intro field live _
  cases slot with
  | tag =>
    have htag : (Slot.restore tag field live).1 = tag := by
      rcases field with (_ | ⟨byte, _ | _⟩) | _ | _ <;> rfl
    rw [htag]
    rfl
  | payload value => rfl

/-- Each of the two keeps its kind, and the policies come to different results: the tag put back
makes the payload four bytes again, which only the permissive call asks after. -/
theorem restored_tag_retypes_payload :
    let saved (policy : Policy) := ((Store.empty { policy }).cache .capture ⟨"k"⟩
      [tag, payload (.scalar [5, 0, 0, 0])] 1).2
    let slots := [tag, payload (.text "")]
    (∀ slot ∈ slots, Slot.KeepsKind slot) ∧
      (saved .strict).entries = (saved .permissive).entries ∧
      (saved .strict).config.checkLayout = (saved .permissive).config.checkLayout ∧
      ((saved .strict).cache .restore ⟨"k"⟩ slots 0).1.result =
        .error (.underrun ⟨"k"⟩ 1 1 5 0) ∧
      ((saved .permissive).cache .restore ⟨"k"⟩ slots 0).1.result = .ok (.restored 5) := by
  refine ⟨fun slot _ => slot.keepsKind, ?_, ?_, ?_, ?_⟩
  · exact (Store.cache_entries rfl .capture ⟨"k"⟩ _ 1).1
  · rfl
  · decide
  · decide

end Tagged

end Repaint
