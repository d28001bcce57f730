import Repaint.Proofs.Permissive
import Repaint.Proofs.SharedStore
import Repaint.Proofs.Strict

/-!
The flag after a cache call. It stands as the last slot that the call has captured or restored set
it, and as it stood before if none of them sets it. Which slots these are is told by the phase and
the result: all of them, none, or those in front of a field that could not be read. What a slot does
besides setting the flag is left open, and so are the bytes under the key. The slots are also asked
for their kinds, even where none of them is restored; a kind is asked for without the flag.
-/

set_option autoImplicit false

namespace Repaint

/-- Some slots set the flag when they are captured or restored, and the others leave it alone. -/
def Slot.SetsFlag {τ ω : Type} [Slot τ (Bool × ω)] (sets? : Phase → τ → Option Bool) : Prop :=
  Updates (fun slot flag => (sets? .capture slot).getD flag)
    fun slot _ flag => (sets? .restore slot).getD flag

/-- The last one to write decides. -/
theorem foldl_getD {α β : Type} (write? : α → Option β) (writers : List α) (value : β) :
    writers.foldl (fun value writer => (write? writer).getD value) value =
      (writers.filterMap write?).getLast?.getD value := by
  induction writers generalizing value with
  | nil => rfl
  | cons writer writers ih =>
    rw [List.foldl_cons, ih]
    cases hwrite : write? writer with
    | none => rw [List.filterMap_cons_none hwrite, Option.getD_none]
    | some written =>
      rw [List.filterMap_cons_some hwrite, List.getLast?_cons, Option.getD_some, Option.getD_some]

theorem map_fst_zip_take {α β : Type} {xs : List α} {ys : List β} (h : ys.length ≤ xs.length) :
    (xs.zip ys).map Prod.fst = xs.take ys.length := by
  rw [List.zip_eq_zip_take_min, Nat.min_eq_right h, List.take_length]
  exact List.map_fst_zip (List.length_take_le _ _)

/-- One capture or restore of one slot. -/
structure Deed where
  phase : Phase
  place : Nat
  deriving DecidableEq

/-- A slot that tells of its captures and restores, and otherwise does as the slot inside it. -/
structure Handled (τ : Type) where
  place : Nat
  slot : τ

namespace Handled

variable {τ ω : Type}

theorem numbering : Numbering (Handled.mk (τ := τ)) Handled.slot Handled.place :=
  ⟨fun _ _ => rfl, fun _ _ => rfl, fun _ => rfl⟩

variable [Slot τ ω]

instance : Slot (Handled τ) (List Deed × ω) where
  kind s state := Slot.kind s.slot state.2
  capture s state :=
    let (field, shared) := Slot.capture s.slot state.2
    (field, state.1 ++ [⟨.capture, s.place⟩], shared)
  restore s field state :=
    let (slot, shared) := Slot.restore s.slot field state.2
    (⟨s.place, slot⟩, state.1 ++ [⟨.restore, s.place⟩], shared)

theorem actsAs_slot : Slot.ActsAs (slot : Handled τ → τ) where
  kind_eq _ _ _ := rfl
  capture_eq _ _ _ := rfl
  restore_eq _ _ _ _ := rfl

theorem updates_deeds : Slot.Updates
    (fun (s : Handled τ) (deeds : List Deed) => deeds ++ [⟨.capture, s.place⟩])
    fun s _ deeds => deeds ++ [⟨.restore, s.place⟩] where
  capture_eq _ _ _ := rfl
  restore_eq _ _ _ _ := rfl

end Handled

namespace Switched

variable {σ ω : Type}

/-- The flag that the slot sets, if it sets one. -/
def sets? : Switched σ → Option Bool
  | plain _ => none
  | switching restoring inner => some (inner.leaves restoring)

theorem leaves_eq (s : Switched σ) (flag : Bool) : s.leaves flag = s.sets?.getD flag := by
  cases s <;> rfl

variable [Slot σ ω]

theorem setsFlag : Slot.SetsFlag fun _ (s : Switched σ) => s.sets? where
  capture_eq s flag shared := by
    rw [← leaves_eq]
    exact congrArg (fun captured => captured.2.1) (s.capture_slot flag shared)
  restore_eq s field flag shared := by
    rw [← leaves_eq]
    exact congrArg Prod.fst (s.restore_slot field flag shared).2

end Switched

namespace Store

section

variable {σ ω : Type} [Slot σ ω]

/-- To how many of its slots a call gets. -/
def reach (store : Store) (phase : Phase) (key : Key) (slots : List σ) (shared : ω) : Nat :=
  match phase with
  | .capture => slots.length
  | .restore => (store.dealt key (store.told key slots shared)).length

theorem reach_le (store : Store) (phase : Phase) (key : Key) (slots : List σ) (shared : ω) :
    store.reach phase key slots shared ≤ slots.length := by
  cases phase with
  | capture => exact Nat.le_refl _
  | restore =>
    rw [← store.length_told key slots shared]
    exact store.length_dealt_le key _

/-- How many slots a call has captured or restored, by its phase and its result. -/
inductive Reaches (store : Store) (key : Key) (slots : List σ) (shared : ω) :
    Phase → Except CacheError Outcome → Nat → Prop
  | saved (length : Nat) :
      Reaches store key slots shared .capture (.ok (.saved length)) slots.length
  | restored (length : Nat) :
      Reaches store key slots shared .restore (.ok (.restored length)) slots.length
  | missed : Reaches store key slots shared .restore (.ok .miss) 0
  | refused {error : CacheError} : store.config.policy = .strict →
      Reaches store key slots shared .restore (.error error) 0
  | drifted {error : CacheError} : store.config.policy = .permissive →
      error.isSchemaDrift = true →
      Reaches store key slots shared .restore (.error error) slots.length
  | stopped {data : Bytes} {fields : List Field} {place offset : Nat} {fault : Fault} :
      store.config.policy = .permissive → store.get? key = some data →
      StopsAt data (store.told key slots shared) fields place offset →
      Reaches store key slots shared .restore (.error (.ofFault key place offset fault)) place

theorem reaches_of_permissive {store : Store} {key : Key} {entry : Entry}
    (hpermissive : store.config.policy = .permissive) (hentry : store.entry? key = some entry)
    (slots : List σ) (shared : ω) :
    store.Reaches key slots shared .restore (store.restore key slots shared).result
      (store.reach .restore key slots shared) := by
  rw [reach, dealt_of_permissive hpermissive hentry]
  obtain ⟨judged, hresult⟩ := restore_judged hentry slots shared
  cases hfault : (entry.read (store.told key slots shared)).fault? with
  | some fault =>
    obtain ⟨hstops, -⟩ := Entry.stopsAt_of_fault hfault
    rw [hresult, Entry.result_of_fault hfault]
    exact .stopped hpermissive (get_of_entry hentry) hstops
  | none =>
    rw [Entry.length_read hfault, length_told]
    cases hended : (store.restore key slots shared).result with
    | ok outcome =>
      rw [hresult] at hended
      obtain ⟨-, rfl⟩ := Verdict.result_eq_ok_iff.mp hended
      exact .restored entry.data.length
    | error error =>
      rw [hresult] at hended
      exact .drifted hpermissive (Entry.isSchemaDrift_of_error hfault hended)

theorem reaches_of_strict {store : Store} {key : Key} {entry : Entry}
    (hstrict : store.config.policy = .strict) (hentry : store.entry? key = some entry)
    (slots : List σ) (shared : ω) :
    store.Reaches key slots shared .restore (store.restore key slots shared).result
      (store.reach .restore key slots shared) := by
  simp only [reach, told_of_strict hstrict, dealt, hentry, hstrict]
  split
  · rename_i hsound
    obtain ⟨⟨fields, hspells⟩, -⟩ := Entry.judge_eq_sound_iff.mp hsound
    have hread : entry.read (Slot.kinds slots shared) = ⟨fields, entry.data.length, none⟩ :=
      Cursor.read_of_spells List.prefix_rfl hspells
    rw [strict_of_sound hstrict hentry hsound, hread, hspells.length_eq, Slot.length_kinds]
    exact .restored entry.data.length
  · rename_i hnot
    obtain ⟨⟨error, herror⟩, -⟩ := strict_of_not_sound hstrict hentry hnot
    rw [herror]
    exact .refused hstrict

theorem reaches_cache (store : Store) (phase : Phase) (key : Key) (slots : List σ) (shared : ω) :
    store.Reaches key slots shared phase (store.cache phase key slots shared).1.result
      (store.reach phase key slots shared) := by
  cases phase with
  | capture => exact .saved _
  | restore =>
    show store.Reaches key slots shared .restore (store.restore key slots shared).result _
    cases hentry : store.entry? key with
    | none =>
      rw [restore_of_absent hentry, reach, dealt, hentry]
      exact .missed
    | some entry =>
      cases hpolicy : store.config.policy with
      | permissive => exact reaches_of_permissive hpolicy hentry slots shared
      | strict => exact reaches_of_strict hpolicy hentry slots shared

end

/-- The slots that a call gets to have done what they do to the state in front, in order, and the
others have not. -/
theorem cache_own {τ ω extra : Type} [Slot τ (extra × ω)] (update : Phase → τ → extra → extra)
    (h : Slot.Updates (update .capture) fun slot _ => update .restore slot) (store : Store)
    (phase : Phase) (key : Key) (slots : List τ) (own : extra) (shared : ω) :
    (store.cache phase key slots (own, shared)).1.shared.1 =
      (slots.take (store.reach phase key slots (own, shared))).foldl
        (fun own slot => update phase slot own) own := by
  cases phase with
  | capture =>
    rw [reach, List.take_length]
    exact h.captureAll_own slots own shared
  | restore =>
    have hle := store.reach_le .restore key slots (own, shared)
    rw [reach] at hle
    rw [reach, ← map_fst_zip_take hle, List.foldl_map]
    exact store.restore_own h key slots own shared

theorem cache_deeds {σ ω : Type} [Slot σ ω] (store : Store) (phase : Phase) (key : Key)
    (slots : List σ) (shared : ω) :
    (store.cache phase key (slots.mapIdx Handled.mk) ([], shared)).1.shared.1 =
      (List.range (store.reach phase key slots shared)).map (Deed.mk phase) := by
  have htold := store.told_inner Handled.actsAs_slot key (slots.mapIdx Handled.mk) [] shared
  have hle := store.reach_le phase key slots shared
  rw [Handled.numbering.map_inner] at htold
  have hreach : store.reach phase key (slots.mapIdx Handled.mk) (([] : List Deed), shared) =
      store.reach phase key slots shared := by
    simp only [reach, htold, List.length_mapIdx]
  have hplaces : (((slots.mapIdx Handled.mk).take (store.reach phase key slots shared)).map
      Handled.place) = List.range (store.reach phase key slots shared) := by
    rw [List.map_take, Handled.numbering.map_place, List.take_range, Nat.min_eq_left hle]
  rw [cache_own (fun phase s deeds => deeds ++ [⟨phase, s.place⟩]) Handled.updates_deeds, hreach,
    foldl_log, List.nil_append, ← hplaces, List.map_map]
  rfl

end Store

namespace Session

/-- After a call the flag is what the last slot to set it has set, among the slots that the call
captured or restored, and as before if none of these sets it. A saving call captures them all. A
restore captures none; it restores all of them, in order, unless it misses, fails strictly, or stops
at a field that it cannot read, when it has restored those in front. -/
theorem flag_after_call {τ ω : Type} [Slot τ (Bool × ω)] {sets? : Phase → τ → Option Bool}
    (hsets : Slot.SetsFlag sets?) (session : Session) (key : Key) (slots : List τ) (shared : ω) :
    let call := session.cache key slots shared
    let told := session.store.cache session.phase key (slots.mapIdx Handled.mk)
      ([], session.restoring, shared)
    (told.1.inner Handled.slot, told.2) = (call.1, call.2.store) ∧
    ∃ reached, session.store.Reaches key slots (session.restoring, shared) session.phase
        call.1.result reached ∧
      told.1.shared.1 = (List.range reached).map (Deed.mk session.phase) ∧
      call.2.restoring =
        ((slots.take reached).filterMap (sets? session.phase)).getLast?.getD session.restoring := by
  intro call told
  have hinner := session.store.cache_inner Handled.actsAs_slot session.phase key
    (slots.mapIdx Handled.mk) [] (session.restoring, shared)
  rw [Handled.numbering.map_inner] at hinner
  refine ⟨hinner.symm, session.store.reach session.phase key slots (session.restoring, shared),
    ?_, ?_, ?_⟩
  · exact session.store.reaches_cache session.phase key slots (session.restoring, shared)
  · exact session.store.cache_deeds session.phase key slots (session.restoring, shared)
  · rw [← foldl_getD]
    exact Store.cache_own (fun phase slot flag => (sets? phase slot).getD flag) hsets session.store
      session.phase key slots session.restoring shared

/-- A permissive restore stops at a list that is too short. The flag stands as the slot before the
list set it, the inner of its two settings last. -/
theorem flag_after_short_list :
    let data := [1, 2, 0, 0, 0, 104, 105, 9, 0, 0, 0]
    let session : Session := ⟨(Store.empty {}).insert ⟨"k"⟩ ⟨0, data⟩, true, []⟩
    let slots : List (Switched Place) :=
      [.switching true (.plain (.cell (.bool false))),
        .switching true (.switching false (.plain (.cell (.text "")))),
        .switching true (.plain (.cell (.texts [])))]
    let call := session.cache ⟨"k"⟩ slots []
    let told := session.store.cache session.phase ⟨"k"⟩ (slots.mapIdx Handled.mk)
      ([], session.restoring, [])
    Slot.SetsFlag (fun _ (s : Switched Place) => s.sets?) ∧
      call.1.result = .error (.underrun ⟨"k"⟩ 2 7 4 0) ∧
      told.1.shared.1 = [⟨.restore, 0⟩, ⟨.restore, 1⟩] ∧ call.2.restoring = false := by
  intro data session slots call told
  have hsets : Slot.SetsFlag fun _ (s : Switched Place) => s.sets? := Switched.setsFlag
  have hresult : call.1.result = .error (.underrun ⟨"k"⟩ 2 7 4 0) := by decide
  have htold : told.1.shared.1 = [⟨.restore, 0⟩, ⟨.restore, 1⟩] := by decide
  obtain ⟨-, reached, -, hdeeds, hflag⟩ := flag_after_call hsets session ⟨"k"⟩ slots []
  have hreached := congrArg List.length (htold.symm.trans hdeeds)
  rw [List.length_map, List.length_range] at hreached
  subst hreached
  exact ⟨hsets, hresult, htold, hflag⟩

end Session
end Repaint
