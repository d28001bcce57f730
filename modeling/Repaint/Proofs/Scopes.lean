import Mathlib.Logic.ExistsUnique
import Repaint.Session
import Repaint.Slot.Place

/-!
Guards that are dropped newest first put back what they found. In a bracketed list of steps every
guard taken is dropped again, and between the two anything may be done to the flag: it is set
outright, slots set it while they are captured or restored, and more guards are taken and dropped.
What the guards outside are to put back stays untouched below on the stack. Guards dropped in
another order are not considered.
-/

set_option autoImplicit false

namespace Repaint.Session

variable {σ ω : Type}

/-- The step takes a guard or drops one. -/
def Step.handlesGuard : Step σ ω → Bool
  | .enter _ => true
  | .leave => true
  | .leaveFirst => true
  | .leaveAt _ => true
  | _ => false

/-- Every guard taken is dropped later on, the newest first, and no other guard is dropped. -/
inductive Bracketed : List (Step σ ω) → Prop
  | nil : Bracketed []
  | cons {s : Step σ ω} {steps : List (Step σ ω)} :
      s.handlesGuard = false → Bracketed steps → Bracketed (s :: steps)
  | scope {phase : Phase} {inner steps : List (Step σ ω)} :
      Bracketed inner → Bracketed steps → Bracketed (.enter phase :: (inner ++ .leave :: steps))

/-- After the steps of `before`, the newest guard held is the one taken right after `outer`. -/
def Awaits (outer before : List (Step σ ω)) : Prop :=
  ∃ phase inner, before = outer ++ .enter phase :: inner ∧ Bracketed inner

/-- The step between the two lists is taken in the scope of a guard. -/
def Enclosed (before : List (Step σ ω)) (s : Step σ ω) (after : List (Step σ ω)) : Prop :=
  ∃ outer phase inner rest last, before = outer ++ .enter phase :: inner ∧
    after = rest ++ .leave :: last ∧ Bracketed (inner ++ s :: rest)

/-- Two ways to single out an element: the same one, an earlier one or a later one. -/
private theorem split_cases {α : Type} {front back before after : List α} {a b : α}
    (h : front ++ a :: back = before ++ b :: after) :
    (before = front ∧ b = a) ∨ (∃ mid, front = before ++ b :: mid ∧ after = mid ++ a :: back) ∨
      ∃ mid, before = front ++ a :: mid ∧ back = mid ++ b :: after := by
  rcases List.append_eq_append_iff.mp h with ⟨mid, hbefore, hback⟩ | ⟨mid, hfront, hafter⟩
  · cases mid with
    | nil => exact .inl ⟨by rw [hbefore, List.append_nil], (List.cons.inj hback).1.symm⟩
    | cons c mid =>
      obtain ⟨rfl, hlater⟩ := List.cons.inj hback
      exact .inr (.inr ⟨mid, hbefore, hlater⟩)
  · cases mid with
    | nil => exact .inl ⟨by rw [hfront, List.append_nil], (List.cons.inj hafter).1⟩
    | cons c mid =>
      obtain ⟨rfl, hlater⟩ := List.cons.inj hafter
      exact .inr (.inl ⟨mid, hfront, hlater⟩)

/-- A drop in a bracketed list is that of a guard taken in it. -/
theorem Bracketed.awaits {steps : List (Step σ ω)} (h : Bracketed steps)
    {before after : List (Step σ ω)} (hsplit : steps = before ++ .leave :: after) :
    ∃ outer, Awaits outer before := by
  induction h generalizing before after with
  | nil => simp at hsplit
  | @cons s steps hs _ ih =>
    cases before with
    | nil =>
      obtain rfl := (List.cons.inj hsplit).1
      cases hs
    | cons s' before =>
      obtain ⟨rfl, hrest⟩ := List.cons.inj hsplit
      obtain ⟨outer, phase, inner, rfl, hinner⟩ := ih hrest
      exact ⟨s :: outer, phase, inner, rfl, hinner⟩
  | @scope phase inner steps hinner _ ihinner ihsteps =>
    cases before with
    | nil => cases (List.cons.inj hsplit).1
    | cons s' before =>
      obtain ⟨rfl, hrest⟩ := List.cons.inj hsplit
      -- the drop ends this scope, or it stands in the scope or behind it
      rcases split_cases hrest with ⟨rfl, -⟩ | ⟨mid, hinside, -⟩ | ⟨mid, rfl, hlater⟩
      · exact ⟨[], phase, before, rfl, hinner⟩
      · obtain ⟨outer, phase', inner', rfl, hinner'⟩ := ihinner hinside
        exact ⟨.enter phase :: outer, phase', inner', rfl, hinner'⟩
      · obtain ⟨outer, phase', inner', rfl, hinner'⟩ := ihsteps hlater
        refine ⟨.enter phase :: (inner ++ .leave :: outer), phase', inner', ?_, hinner'⟩
        simp

/-- Whatever is done between taking a guard and dropping it is done in its scope. -/
theorem enclosed_of_scope {phase : Phase} {inner : List (Step σ ω)} (h : Bracketed inner)
    {before after : List (Step σ ω)} {s : Step σ ω} (hs : s.handlesGuard = false)
    (hsplit : .enter phase :: (inner ++ [.leave]) = before ++ s :: after) :
    Enclosed before s after := by
  cases before with
  | nil =>
    obtain rfl := (List.cons.inj hsplit).1
    cases hs
  | cons first before =>
    obtain ⟨rfl, hrest⟩ := List.cons.inj hsplit
    rcases split_cases hrest with ⟨-, rfl⟩ | ⟨mid, rfl, rfl⟩ | ⟨mid, -, hnone⟩
    · cases hs
    · exact ⟨[], phase, before, mid, [], rfl, rfl, h⟩
    · simp at hnone

variable [Slot σ ω]

/-- The flag after the steps. -/
def flagAfter (session : Session) (steps : List (Step σ ω)) : Bool :=
  (session.run steps).2.restoring

theorem run_append (session : Session) (steps steps' : List (Step σ ω)) :
    (session.run (steps ++ steps')).2 = ((session.run steps).2.run steps').2 := by
  induction steps generalizing session with
  | nil => rfl
  | cons s steps ih => exact ih (session.step s).2

/-- Only taking and dropping guards changes which are held. -/
theorem guards_step (session : Session) {s : Step σ ω} (h : s.handlesGuard = false) :
    (session.step s).2.guards = session.guards := by
  cases s with
  | enter phase => cases h
  | leave => cases h
  | leaveFirst => cases h
  | leaveAt place => cases h
  | _ => rfl

/-- Dropping the newest guard puts back its flag and uncovers the guards below it. -/
theorem leave_of_guards {session : Session} {found : Bool} {guards : List Bool}
    (h : session.guards = found :: guards) :
    session.leave.restoring = found ∧ session.leave.guards = guards := by
  simp [leave, leaveAt, h]

theorem run_scope (session : Session) (phase : Phase) (inner steps : List (Step σ ω)) :
    (session.run (.enter phase :: (inner ++ .leave :: steps))).2 =
      (((session.enter phase).run inner).2.leave.run steps).2 :=
  (session.enter phase).run_append inner (.leave :: steps)

theorem guards_run {steps : List (Step σ ω)} (h : Bracketed steps) (session : Session) :
    (session.run steps).2.guards = session.guards := by
  induction h generalizing session with
  | nil => rfl
  | @cons s steps hs _ ih => exact (ih (session.step s).2).trans (session.guards_step hs)
  | @scope phase inner steps _ _ ihinner ihsteps =>
    rw [run_scope, ihsteps]
    exact (leave_of_guards (ihinner (session.enter phase))).2

/-- The steps of a scope leave flag and guards as they were. -/
theorem leave_scope (session : Session) (phase : Phase) {inner : List (Step σ ω)}
    (h : Bracketed inner) :
    let closed := ((session.enter phase).run inner).2.leave
    closed.restoring = session.restoring ∧ closed.guards = session.guards :=
  leave_of_guards (guards_run h (session.enter phase))

/-- On the way through a bracketed list the guards from outside stay at the bottom of the stack. -/
theorem guards_suffix {steps : List (Step σ ω)} (h : Bracketed steps) (session : Session)
    {before after : List (Step σ ω)} (hsplit : steps = before ++ after) :
    session.guards <:+ (session.run before).2.guards := by
  induction h generalizing session before after with
  | nil =>
    obtain ⟨rfl, -⟩ := List.append_eq_nil_iff.mp hsplit.symm
    exact List.suffix_rfl
  | @cons s steps hs _ ih =>
    cases before with
    | nil => exact List.suffix_rfl
    | cons s' before =>
      obtain ⟨rfl, hrest⟩ := List.cons.inj hsplit
      rw [← session.guards_step hs]
      exact ih (session.step s).2 hrest
  | @scope phase inner steps hinner _ ihinner ihsteps =>
    cases before with
    | nil => exact List.suffix_rfl
    | cons s' before =>
      obtain ⟨rfl, hrest⟩ := List.cons.inj hsplit
      have hheld : session.guards <:+ (session.enter phase).guards := List.suffix_cons _ _
      rcases List.append_eq_append_iff.mp hrest with ⟨mid, rfl, htail⟩ | ⟨mid, hinside, -⟩
      · cases mid with
        | nil =>
          have hinside : inner = (inner ++ []) ++ [] := by simp
          exact hheld.trans (ihinner (session.enter phase) hinside)
        | cons s mid =>
          obtain ⟨rfl, hlater⟩ := List.cons.inj htail
          rw [run_scope, ← (session.leave_scope phase hinner).2]
          exact ihsteps _ hlater
      · exact hheld.trans (ihinner (session.enter phase) hinside)

/-- A drop leaves the flag that stood before its guard was taken, whatever was done meanwhile. -/
theorem flagAfter_leave (session : Session) {outer before : List (Step σ ω)}
    (h : Awaits outer before) :
    session.flagAfter (before ++ [.leave]) = session.flagAfter outer := by
  obtain ⟨phase, inner, rfl, hinner⟩ := h
  rw [flagAfter, List.append_assoc, run_append, List.cons_append, run_scope]
  exact ((session.run outer).2.leave_scope phase hinner).1

/-- A guard taken and not dropped is still held after a bracketed list. -/
theorem not_bracketed_of_enter {inner inner' : List (Step σ ω)} {phase : Phase}
    (hinner' : Bracketed inner') : ¬ Bracketed (inner ++ .enter phase :: inner') := by
  intro h
  have hall := guards_run h fresh
  have htail := guards_run hinner' ((fresh.run inner).2.enter phase)
  rw [run_append] at hall
  cases hall.symm.trans htail

theorem Awaits.unique {outer outer' before : List (Step σ ω)} (h : Awaits outer before)
    (h' : Awaits outer' before) : outer = outer' := by
  obtain ⟨phase, inner, rfl, hinner⟩ := h
  obtain ⟨phase', inner', hsplit, hinner'⟩ := h'
  rcases split_cases hsplit with ⟨hsame, -⟩ | ⟨mid, -, hearlier⟩ | ⟨mid, -, hlater⟩
  · exact hsame.symm
  · rw [hearlier] at hinner'
    exact absurd hinner' (not_bracketed_of_enter hinner)
  · rw [hlater] at hinner
    exact absurd hinner (not_bracketed_of_enter hinner')

/-- In the scope of a guard more guards are held than at the start. -/
theorem guards_lt_of_enclosed {before after : List (Step σ ω)} {s : Step σ ω}
    (h : Bracketed (before ++ s :: after)) (henclosed : Enclosed before s after)
    (session : Session) : session.guards.length < (session.run before).2.guards.length := by
  obtain ⟨outer, phase, inner, rest, last, rfl, -, hinner⟩ := henclosed
  let opening := (session.run outer).2
  have houter : session.guards <:+ opening.guards :=
    guards_suffix h session (List.append_assoc _ _ _)
  have hheld : (opening.enter phase).guards <:+ ((opening.enter phase).run inner).2.guards :=
    guards_suffix hinner (opening.enter phase) rfl
  have hle := houter.length_le
  have hle' := hheld.length_le
  rw [run_append]
  exact Nat.lt_of_lt_of_le (Nat.lt_succ_of_le hle) hle'

/-- Where the flag changes only while a guard taken on the way is held, it ends as it started. -/
theorem flagAfter_of_held {steps : List (Step σ ω)} (h : Bracketed steps) (session : Session)
    (hheld : ∀ before s after, steps = before ++ s :: after → s.handlesGuard = false →
      session.flagAfter (before ++ [s]) ≠ session.flagAfter before →
      session.guards.length < (session.run before).2.guards.length) :
    session.flagAfter steps = session.restoring := by
  induction h generalizing session with
  | nil => rfl
  | @cons s steps hs _ ih =>
    have hflag : (session.step s).2.restoring = session.restoring :=
      Decidable.byContradiction fun hchanged =>
        Nat.lt_irrefl _ (hheld [] s steps rfl hs hchanged)
    rw [← hflag]
    apply ih (session.step s).2
    intro before s' after hsplit hs' hchanged
    rw [session.guards_step hs]
    exact hheld (s :: before) s' after (congrArg (s :: ·) hsplit) hs' hchanged
  | @scope phase inner steps hinner _ _ ihsteps =>
    obtain ⟨hflag, hguards⟩ := session.leave_scope phase hinner
    rw [flagAfter, run_scope, ← hflag]
    apply ihsteps
    intro before s' after hsplit hs' hchanged
    have hrun : ∀ later : List (Step σ ω),
        session.flagAfter (.enter phase :: (inner ++ .leave :: later)) =
          ((session.enter phase).run inner).2.leave.flagAfter later := by
      intro later
      rw [flagAfter, run_scope, flagAfter]
    rw [← hrun, ← hrun] at hchanged
    rw [hguards, ← run_scope]
    exact hheld (.enter phase :: (inner ++ .leave :: before)) s' after (by rw [hsplit]; simp) hs'
      (by simpa using hchanged)

/-- Scoped guards leave no flag stuck. Each drop in a bracketed list is that of one guard, and puts
the flag back to what it was before that guard was taken. If moreover every other step that changes
the flag on the way is taken in the scope of a guard, the flag ends as it started. The session may
hold guards already. -/
theorem scopes_put_back_flag (session : Session) {steps : List (Step σ ω)}
    (h : Bracketed steps) :
    (∀ before after, steps = before ++ .leave :: after →
      (∃! outer, Awaits outer before) ∧
      ∀ outer, Awaits outer before →
        session.flagAfter (before ++ [.leave]) = session.flagAfter outer) ∧
    ((∀ before s after, steps = before ++ s :: after → s.handlesGuard = false →
        session.flagAfter (before ++ [s]) ≠ session.flagAfter before → Enclosed before s after) →
      session.flagAfter steps = session.restoring) := by
  constructor
  · intro before after hsplit
    obtain ⟨outer, houter⟩ := h.awaits hsplit
    exact ⟨⟨outer, houter, fun outer' houter' => houter'.unique houter⟩,
      fun outer' houter' => session.flagAfter_leave houter'⟩
  · intro henclosed
    apply flagAfter_of_held h session
    intro before s after hsplit hs hchanged
    have hinside := henclosed before s after hsplit hs hchanged
    rw [hsplit] at h
    exact guards_lt_of_enclosed h hinside session

/-- A slot sets the flag in the inner scope, and it is set outright on both sides of that scope: the
drops undo what each scope did. -/
theorem nested_scopes_put_back_flag :
    let flip : Step Place (List Mismatch) :=
      .cache (.name "k") [.switching true (.plain (.given (.cell (.bool true))))] []
    let inside := [.setMode false, .enter .capture, flip, .leave, .setMode true]
    let steps := .enter .restore :: (inside ++ [.leave])
    Bracketed steps ∧ fresh.flagAfter (steps.take 4) = true ∧
      fresh.flagAfter (steps.take 5) = fresh.flagAfter (steps.take 2) ∧
      fresh.flagAfter steps = fresh.restoring := by
  intro flip inside steps
  have hflip : Bracketed [flip] := .cons rfl .nil
  have hinside : Bracketed inside := .cons rfl (.scope hflip (.cons rfl .nil))
  have hsteps : Bracketed steps := .scope hinside .nil
  obtain ⟨hdrops, hends⟩ := scopes_put_back_flag fresh hsteps
  refine ⟨hsteps, by decide, ?_, ?_⟩
  · have hdrop := hdrops (steps.take 4) [.setMode true, .leave] rfl
    exact hdrop.2 (steps.take 2) ⟨.capture, [flip], rfl, hflip⟩
  · apply hends
    intro before s after hsplit hs _
    exact enclosed_of_scope hinside hs hsplit

end Repaint.Session
