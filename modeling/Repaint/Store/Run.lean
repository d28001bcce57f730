import Repaint.Store.Cache

/-!
A run of a store is a list of steps taken one after another, each with its answer. A cache step
brings its slots and the state they share at that moment, so a run speaks of the store alone.
-/

set_option autoImplicit false

namespace Repaint.Store

inductive Step (σ ω : Type) where
  | cache (phase : Phase) (identity : Identity) (slots : List σ) (shared : ω)
  | configure (config : Config)
  | ask (query : Query)

inductive Answer (σ ω : Type) where
  | cached (reply : Reply σ ω)
  | configured (config : Config)
  | found (finding : Finding)

variable {σ ω : Type} [Slot σ ω]

def step (store : Store) : Step σ ω → Answer σ ω × Store
  | .cache phase identity slots shared =>
    let (reply, store) := store.cache phase identity.canonical slots shared
    (.cached reply, store)
  | .configure config => (.configured config, store.configure config)
  | .ask query => (.found (store.ask query), store)

def run (store : Store) : List (Step σ ω) → List (Answer σ ω) × Store
  | [] => ([], store)
  | s :: steps =>
    let (answer, store) := store.step s
    let (answers, store) := store.run steps
    (answer :: answers, store)

end Repaint.Store
