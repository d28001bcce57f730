import Repaint.Slot.Source
import Repaint.Store.Cache

/-!
One frame is drawn in two passes over the same list of calls: the erasing pass paints what was
drawn last, and the drawing pass paints and caches what is drawn now. A call may belong to one
of the passes only.
-/

set_option autoImplicit false

namespace Repaint

/-- What a drawing routine may do with its context. -/
inductive Action (σ ω : Type) where
  | cache (identity : Identity) (slots : List (Source σ)) (shared : ω)
  | drawOnly (blank live : σ)
  | phase
  | ask (query : Query)

namespace Action

inductive Answer (σ ω : Type) where
  | cached (reply : Reply σ ω)
  | drawn (value : σ) (asked : Bool)
  | phase (phase : Phase) (erasing : Bool)
  | found (finding : Finding)

variable {σ ω : Type} [Slot σ ω]

def perform (phase : Phase) (store : Store) : Action σ ω → Answer σ ω × Store
  | cache identity slots shared =>
    let (reply, store) :=
      store.cache phase identity.canonical (slots.map (Source.start phase)) shared
    (.cached reply, store)
  | drawOnly blank live =>
    let (value, asked) := phase.drawOnlyNoting blank live
    (.drawn value asked, store)
  | .phase => (.phase phase phase.isRestoring, store)
  | ask query => (.found (store.ask query), store)

def performAll (phase : Phase) (store : Store) :
    List (Action σ ω) → List (Answer σ ω) × Store
  | [] => ([], store)
  | action :: actions =>
    let (answer, store) := action.perform phase store
    let (answers, store) := performAll phase store actions
    (answer :: answers, store)

end Action

/-- An action of a drawing routine, and the pass it is restricted to, if any. -/
structure Call (σ ω : Type) where
  only? : Option Phase
  action : Action σ ω

def Call.appearsIn {σ ω : Type} (phase : Phase) (call : Call σ ω) : Bool :=
  call.only?.all (· == phase)

/-- The answers to the calls of both passes. -/
structure Frame (σ ω : Type) where
  erased : List (Action.Answer σ ω)
  drawn : List (Action.Answer σ ω)

namespace Store

variable {σ ω : Type} [Slot σ ω]

def pass (store : Store) (phase : Phase) (calls : List (Call σ ω)) :
    List (Action.Answer σ ω) × Store :=
  Action.performAll phase store ((calls.filter (Call.appearsIn phase)).map Call.action)

def eraseAndRedraw (store : Store) (calls : List (Call σ ω)) : Frame σ ω × Store :=
  let (erased, store) := store.pass .restore calls
  let (drawn, store) := store.pass .capture calls
  (⟨erased, drawn⟩, store)

def redrawAll (store : Store) : List (List (Call σ ω)) → List (Frame σ ω) × Store
  | [] => ([], store)
  | calls :: rest =>
    let (frame, store) := store.eraseAndRedraw calls
    let (frames, store) := store.redrawAll rest
    (frame :: frames, store)

end Store

end Repaint
