import Repaint.Session

/-!
What becomes of the flag. Setting it, taking a guard and dropping one say what it is next, a cache
call leaves it as its slots have left it, and no other step touches it. So the phase of a call is
told by the steps before it and by what slots did in them; the store has no part in it.
-/

set_option autoImplicit false

namespace Repaint

/-- The flag, and what the guards still held put back, the newest first. -/
structure Mode where
  restoring : Bool
  guards : List Bool

namespace Mode

variable {σ ω : Type}

def fresh : Mode := ⟨false, []⟩

def phase (mode : Mode) : Phase := .ofRestoring mode.restoring

/-- A guard puts back the flag it found; where there is none in the place nothing happens. -/
def drop (mode : Mode) (place : Nat) : Mode :=
  ⟨mode.guards[place]?.getD mode.restoring, mode.guards.eraseIdx place⟩

/-- A step, with its answer, which tells the flag that the slots of a call have left. -/
def after (mode : Mode) : Session.Step σ ω × Session.Answer σ ω → Mode
  | (_, .cached reply) => { mode with restoring := reply.shared.1 }
  | (.setMode restoring, _) => { mode with restoring }
  | (.enter phase, _) => ⟨phase.isRestoring, mode.restoring :: mode.guards⟩
  | (.leave, _) => mode.drop 0
  | (.leaveFirst, _) => mode.drop (mode.guards.length - 1)
  | (.leaveAt place, _) => mode.drop place
  | _ => mode

def afterAll (mode : Mode) (deeds : List (Session.Step σ ω × Session.Answer σ ω)) : Mode :=
  deeds.foldl after mode

end Mode

namespace Session

variable {σ ω : Type} [Slot σ ω]

def mode (session : Session) : Mode := ⟨session.restoring, session.guards⟩

theorem mode_leaveAt (session : Session) (place : Nat) :
    (session.leaveAt place).mode = session.mode.drop place := by
  unfold leaveAt
  split
  · rename_i hnone
    have hout := List.eraseIdx_of_length_le (List.getElem?_eq_none_iff.mp hnone)
    simp only [mode, Mode.drop, hnone, Option.getD_none, hout]
  · rename_i found hfound
    simp only [mode, Mode.drop, hfound, Option.getD_some]

theorem mode_step (session : Session) (s : Step σ ω) :
    (session.step s).2.mode = session.mode.after (s, (session.step s).1) := by
  cases s with
  | leave => exact session.mode_leaveAt 0
  | leaveFirst => exact session.mode_leaveAt (session.guards.length - 1)
  | leaveAt place => exact session.mode_leaveAt place
  | _ => rfl

/-- The flag that stands after a run is the one that its steps and their answers tell. -/
theorem mode_run (session : Session) (steps : List (Step σ ω)) :
    (session.run steps).2.mode = session.mode.afterAll (steps.zip (session.run steps).1) := by
  induction steps generalizing session with
  | nil => rfl
  | cons s steps ih =>
    have hrest := ih (session.step s).2
    rw [mode_step] at hrest
    exact hrest

end Session

end Repaint
