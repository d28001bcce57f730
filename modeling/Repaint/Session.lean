import Repaint.Slot.Source
import Repaint.Slot.Switched
import Repaint.Store.Cache

/-!
The store that a whole process shares, and the flag that says which phase its cache calls are
in. The flag can be set outright or for the time of a guard, and slots may set it while they
are captured or restored; a call reads it once, when it starts. Guards may be dropped in any
order, and each puts back the flag it found.
-/

set_option autoImplicit false

namespace Repaint

structure Session where
  store : Store
  restoring : Bool
  /-- What the guards still held put back, the newest first. -/
  guards : List Bool

namespace Session

def fresh : Session := ⟨default, false, []⟩

def phase (session : Session) : Phase := .ofRestoring session.restoring

def setMode (session : Session) (restoring : Bool) : Session := { session with restoring }

def configure (session : Session) (config : Config) : Session :=
  { session with store := session.store.configure config }

def enter (session : Session) (phase : Phase) : Session :=
  { session with
    restoring := phase.isRestoring
    guards := session.restoring :: session.guards }

/-- Drops the guard in a place counted from the newest, if there is one. -/
def leaveAt (session : Session) (place : Nat) : Session :=
  match session.guards[place]? with
  | none => session
  | some found => { session with restoring := found, guards := session.guards.eraseIdx place }

def leave (session : Session) : Session := session.leaveAt 0

/-- Drops the oldest guard, if there is one. -/
def leaveFirst (session : Session) : Session := session.leaveAt (session.guards.length - 1)

variable {σ ω : Type} [Slot σ ω]

/-- Slots may set the flag on the way, but the phase is the one at the start. -/
def cache {τ : Type} [Slot τ (Bool × ω)] (session : Session) (key : Key) (slots : List τ)
    (shared : ω) : Reply τ (Bool × ω) × Session :=
  let (reply, store) := session.store.cache session.phase key slots (session.restoring, shared)
  (reply, { session with store, restoring := reply.shared.1 })

inductive Step (σ ω : Type) where
  | cache (identity : Identity) (slots : List (Switched (Source σ))) (shared : ω)
  | drawOnly (blank live : σ)
  | ask (query : Query)
  | setMode (restoring : Bool)
  | configure (config : Config)
  | enter (phase : Phase)
  | leave
  | leaveFirst
  | leaveAt (place : Nat)

inductive Answer (σ ω : Type) where
  | cached (reply : Reply (Switched σ) (Bool × ω))
  | drawn (value : σ) (asked : Bool)
  | found (finding : Finding)
  | done

def step (session : Session) : Step σ ω → Answer σ ω × Session
  | .cache identity slots shared =>
    let slots := slots.map (Switched.map (Source.start session.phase))
    let (reply, session) := session.cache identity.canonical slots shared
    (.cached reply, session)
  | .drawOnly blank live =>
    let (value, asked) := session.phase.drawOnlyNoting blank live
    (.drawn value asked, session)
  | .ask query => (.found (session.store.ask query), session)
  | .setMode restoring => (.done, session.setMode restoring)
  | .configure config => (.done, session.configure config)
  | .enter phase => (.done, session.enter phase)
  | .leave => (.done, session.leave)
  | .leaveFirst => (.done, session.leaveFirst)
  | .leaveAt place => (.done, session.leaveAt place)

def run (session : Session) : List (Step σ ω) → List (Answer σ ω) × Session
  | [] => ([], session)
  | s :: steps =>
    let (answer, session) := session.step s
    let (answers, session) := session.run steps
    (answer :: answers, session)

end Session

end Repaint
