import Repaint.Proofs.Inner
import Repaint.Proofs.LastCapture
import Repaint.Proofs.Mode

/-!
The store that a process shares is a plain store. Forgetting the flag, and what slots do to it,
turns a run of a session into a run of a store of one's own, in which every cache call has the
phase that the flag stood for when the call started. What slots and guards make of the flag
meanwhile decides the phases of later calls and nothing else.
-/

set_option autoImplicit false

namespace Repaint

namespace Switched

variable {σ ω : Type} [Slot σ ω]

theorem capture_slot (s : Switched σ) (flag : Bool) (shared : ω) :
    s.capture (flag, shared) =
      ((Slot.capture s.slot shared).1, s.leaves flag, (Slot.capture s.slot shared).2) := by
  induction s generalizing flag with
  | plain slot => rfl
  | switching restoring inner ih => exact ih restoring

theorem restore_slot (s : Switched σ) (field : Field) (flag : Bool) (shared : ω) :
    (s.restore field (flag, shared)).1.slot = (Slot.restore s.slot field shared).1 ∧
      (s.restore field (flag, shared)).2 =
        (s.leaves flag, (Slot.restore s.slot field shared).2) := by
  induction s generalizing flag with
  | plain slot => exact ⟨rfl, rfl⟩
  | switching restoring inner ih => exact ih restoring

theorem actsAs_slot : Slot.ActsAs (slot : Switched σ → σ) where
  kind_eq _ _ _ := rfl
  capture_eq s flag shared := by
    show _ = ((s.capture (flag, shared)).1, (s.capture (flag, shared)).2.2)
    rw [capture_slot]
  restore_eq s field flag shared := by
    obtain ⟨hslot, hstate⟩ := s.restore_slot field flag shared
    show _ = ((s.restore field (flag, shared)).1.slot, (s.restore field (flag, shared)).2.2)
    rw [hslot, hstate]

theorem slot_map {τ : Type} (f : σ → τ) (s : Switched σ) : (s.map f).slot = f s.slot := by
  induction s with
  | plain slot => rfl
  | switching restoring inner ih => exact ih

end Switched

namespace Session

variable {σ ω : Type} [Slot σ ω]

/-- What a step asks of the store when the flag stands for the phase. Slots that set the flag
give way to the slots inside them. -/
def Step.plain? (phase : Phase) : Step σ ω → Option (Store.Step σ ω)
  | .cache identity slots shared =>
    some (.cache phase identity (slots.map fun s => s.slot.start phase) shared)
  | .ask query => some (.ask query)
  | .configure config => some (.configure config)
  | _ => none

/-- What the steps of a run ask of the store. With the answers they tell the flag that each finds.
-/
def plainSteps (mode : Mode) : List (Step σ ω × Answer σ ω) → List (Store.Step σ ω)
  | [] => []
  | deed :: deeds => (deed.1.plain? mode.phase).toList ++ plainSteps (mode.after deed) deeds

theorem cache_inner {τ : Type} [Slot τ (Bool × ω)] {inner : τ → σ} (h : Slot.ActsAs inner)
    (session : Session) (key : Key) (slots : List τ) (shared : ω) :
    session.store.cache session.phase key (slots.map inner) shared =
      ((session.cache key slots shared).1.inner inner, (session.cache key slots shared).2.store) :=
  session.store.cache_inner h session.phase key slots session.restoring shared

theorem store_leaveAt (session : Session) (place : Nat) :
    (session.leaveAt place).store = session.store := by
  unfold leaveAt
  split <;> rfl

theorem step_cache (session : Session) (identity : Identity) (slots : List (Switched (Source σ)))
    (shared : ω) :
    ∃ reply, (session.step (.cache identity slots shared)).1 = .cached reply ∧
      session.store.cache session.phase identity.canonical
          (slots.map fun s => s.slot.start session.phase) shared =
        (reply.inner Switched.slot, (session.step (.cache identity slots shared)).2.store) := by
  have hslots : (slots.map (Switched.map (Source.start session.phase))).map Switched.slot =
      slots.map fun s => s.slot.start session.phase := by
    rw [List.map_map]
    exact List.map_congr_left fun s _ => s.slot_map (Source.start session.phase)
  have hcall := cache_inner Switched.actsAs_slot session identity.canonical
    (slots.map (Switched.map (Source.start session.phase))) shared
  rw [hslots] at hcall
  exact ⟨_, rfl, hcall⟩

/-- A step leaves the store that its plain step leaves, or the store as it was. -/
theorem store_step (session : Session) (s : Step σ ω) :
    (session.step s).2.store = (session.store.run (s.plain? session.phase).toList).2 := by
  cases s with
  | cache identity slots shared =>
    obtain ⟨reply, -, hcall⟩ := session.step_cache identity slots shared
    exact (congrArg Prod.snd hcall).symm
  | drawOnly blank live => rfl
  | ask query => rfl
  | setMode restoring => rfl
  | configure config => rfl
  | enter phase => rfl
  | leave => exact session.store_leaveAt 0
  | leaveFirst => exact session.store_leaveAt _
  | leaveAt place => exact session.store_leaveAt place

theorem store_run (session : Session) (steps : List (Step σ ω)) :
    (session.run steps).2.store =
      (session.store.run (plainSteps session.mode (steps.zip (session.run steps).1))).2 := by
  induction steps generalizing session with
  | nil => rfl
  | cons s steps ih =>
    have hrest := ih (session.step s).2
    rw [mode_step, store_step, ← Store.run_append] at hrest
    exact hrest

/-- The answer to a step is the one that the session reached by the steps before it gives. -/
theorem answer_run (session : Session) (before : List (Step σ ω)) (s : Step σ ω)
    (after : List (Step σ ω)) :
    (session.run (before ++ s :: after)).1[before.length]? =
      some ((session.run before).2.step s).1 := by
  induction before generalizing session with
  | nil => rfl
  | cons earlier before ih => exact ih (session.step earlier).2

/-- Every call on the shared store has the result, the slots, the records and the effect of a
call on a plain store that has seen the same calls before, in the phase that the flag stands for
when the call starts, with the slots inside those that set the flag. The flag is as the steps before
the call tell it. The last part lets slots do as they like with the flag. Setting the configuration
changes that alone, and no other step changes the store. -/
theorem shared_store_is_plain (before : List (Step σ ω)) (s : Step σ ω)
    (after : List (Step σ ω)) :
    let session := (fresh.run before).2
    let deeds := before.zip (fresh.run before).1
    let mode := Mode.fresh.afterAll deeds
    let store := ((Store.empty {}).run (plainSteps Mode.fresh deeds)).2
    let next := session.step s
    (fresh.run (before ++ s :: after)).1[before.length]? = some next.1 ∧
    session.mode = mode ∧ session.store = store ∧
    (match s with
    | .cache identity slots shared =>
      ∃ reply, next.1 = .cached reply ∧
        (reply.inner Switched.slot, next.2.store) =
          store.cache mode.phase identity.canonical (slots.map fun s => s.slot.start mode.phase)
            shared
    | .ask query => next.1 = .found (store.ask query) ∧ next.2.store = store
    | .configure config => next.2.store.config = config ∧ next.2.store.entries = store.entries
    | _ => next.2.store = store) ∧
    ∀ {τ : Type} [Slot τ (Bool × ω)] (inner : τ → σ), Slot.ActsAs inner →
      ∀ (key : Key) (slots : List τ) (shared : ω),
        ((session.cache key slots shared).1.inner inner, (session.cache key slots shared).2.store) =
          store.cache mode.phase key (slots.map inner) shared := by
  intro session deeds mode store next
  have hstore : session.store = store := fresh.store_run before
  have hmode : session.mode = mode := fresh.mode_run before
  have hphase : session.phase = mode.phase := congrArg Mode.phase hmode
  refine ⟨fresh.answer_run before s after, hmode, hstore, ?_, ?_⟩
  · have hnext : next.2.store = (session.store.run (s.plain? session.phase).toList).2 :=
      session.store_step s
    cases s with
    | cache identity slots shared =>
      obtain ⟨reply, hanswer, hcall⟩ := session.step_cache identity slots shared
      rw [hstore, hphase] at hcall
      exact ⟨reply, hanswer, hcall.symm⟩
    | ask query =>
      have hfound : session.store.ask query = store.ask query := by rw [hstore]
      exact ⟨congrArg Answer.found hfound, hnext.trans hstore⟩
    | configure config =>
      have hentries : session.store.entries = store.entries := by rw [hstore]
      exact ⟨rfl, hentries⟩
    | drawOnly blank live => exact hnext.trans hstore
    | setMode restoring => exact hnext.trans hstore
    | enter phase => exact hnext.trans hstore
    | leave => exact hnext.trans hstore
    | leaveFirst => exact hnext.trans hstore
    | leaveAt place => exact hnext.trans hstore
  · intro τ _ inner hinner key slots shared
    rw [← hstore, ← hphase]
    exact (session.cache_inner hinner key slots shared).symm

/-- A slot sets the flag in the middle of a saving call, which saves the slot after it as well; the
call after that restores both. -/
theorem flag_set_while_saving :
    let saved : List (Switched (Source Place)) :=
      [.switching true (.plain (.given (.cell (.text "hi")))), .plain (.given (.cell (.bool true)))]
    let before : List (Step Place (List Mismatch)) := [.enter .capture, .cache (.pair 2 1) saved []]
    let slots : List (Switched Place) :=
      [.switching false (.plain (.cell (.text ""))), .plain (.cell (.bool false))]
    let reply := ((fresh.run before).2.cache ⟨"2,1"⟩ slots []).1
    Slot.ActsAs (Switched.slot : Switched Place → Place) ∧
      reply.result = .ok (.restored 7) ∧
      reply.slots.map Switched.slot = [.cell (.text "hi"), .cell (.bool true)] := by
  intro saved before slots reply
  have hacts : Slot.ActsAs (Switched.slot : Switched Place → Place) := Switched.actsAs_slot
  obtain ⟨-, -, -, -, hcalls⟩ := shared_store_is_plain before .leave []
  have hreply : reply.inner Switched.slot = _ :=
    congrArg Prod.fst (hcalls Switched.slot hacts ⟨"2,1"⟩ slots [])
  refine ⟨hacts, ?_, ?_⟩
  · show (reply.inner Switched.slot).result = _
    rw [hreply]
    decide
  · show (reply.inner Switched.slot).slots = _
    rw [hreply]
    decide

end Session
end Repaint
