import Repaint.Proofs.LastCapture

/-!
What is done under one key cannot be seen under another. Two runs that agree on the configurations
they set and on their steps under a key answer those steps alike, however their other steps differ
in number, kind or result. All that a step under the key can see of the store is the entry there and
the configuration, and nothing but these steps changes either.
-/

set_option autoImplicit false

namespace Repaint.Store

variable {σ ω : Type} [Slot σ ω] {store store' : Store} {key : Key}

/-- A step under the key, or one that sets the configuration for all keys. -/
def Step.concerns (key : Key) : Step σ ω → Bool
  | .cache _ identity _ _ => identity.canonical = key
  | .configure _ => true
  | .ask (.buffer identity) => identity.canonical = key
  | .ask (.contains identity) => identity.canonical = key
  | .ask .config => false
  | .ask .summary => false

/-- The step with its key in place of whatever it was called by. -/
def Step.canonical : Step σ ω → Step σ ω
  | .cache phase identity slots shared => .cache phase (.key identity.canonical) slots shared
  | .ask (.buffer identity) => .ask (.buffer (.key identity.canonical))
  | .ask (.contains identity) => .ask (.contains (.key identity.canonical))
  | step => step

/-- The steps that concern the key, in their order, however they call it. -/
def stepsOn (key : Key) (steps : List (Step σ ω)) : List (Step σ ω) :=
  (steps.filter (Step.concerns key)).map Step.canonical

/-- The answers that a run gives to the steps that concern the key, in their order. -/
def answersOn (store : Store) (key : Key) (steps : List (Step σ ω)) : List (Answer σ ω) :=
  ((steps.zip (store.run steps).1).filter fun asked => asked.1.concerns key).map Prod.snd

/-- The stores cannot be told apart under the key. -/
structure Alike (key : Key) (store store' : Store) : Prop where
  entry : store.entry? key = store'.entry? key
  config : store.config = store'.config

theorem Alike.refl (key : Key) (store : Store) : Alike key store store := ⟨rfl, rfl⟩

theorem Alike.trans {last : Store} (h : Alike key store store') (h' : Alike key store' last) :
    Alike key store last :=
  ⟨h.entry.trans h'.entry, h.config.trans h'.config⟩

theorem restore_alike (h : Alike key store store') (slots : List σ) (shared : ω) :
    store.restore key slots shared = store'.restore key slots shared := by
  simp only [restore, h.entry, h.config]

theorem contains_alike (h : Alike key store store') : store.contains key = store'.contains key := by
  have hpresent : ∀ s : Store, s.contains key = (s.entry? key).isSome := by
    intro s
    exact Std.ExtTreeMap.contains_eq_isSome_getElem?
  rw [hpresent, hpresent, h.entry]

theorem save_alike (h : Alike key store store') (slots : List σ) (shared : ω) :
    Alike key (store.save key slots shared).2 (store'.save key slots shared).2 := by
  refine ⟨?_, h.config⟩
  rw [entry_save_self, entry_save_self]

/-- Stores alike under the key answer a step that concerns it alike, and stay so. -/
theorem step_alike (h : Alike key store store') {step : Step σ ω} (hstep : step.concerns key) :
    (store.step step).1 = (store'.step step).1 ∧
      Alike key (store.step step).2 (store'.step step).2 := by
  cases step with
  | cache phase identity slots shared =>
    obtain rfl : identity.canonical = key := of_decide_eq_true hstep
    cases phase with
    | capture => exact ⟨rfl, save_alike h slots shared⟩
    | restore =>
      have hreply := restore_alike h slots shared
      exact ⟨congrArg Answer.cached hreply, h⟩
  | configure config => exact ⟨rfl, h.entry, rfl⟩
  | ask query =>
    refine ⟨?_, h⟩
    cases query with
    | buffer identity =>
      obtain rfl : identity.canonical = key := of_decide_eq_true hstep
      have hdata : store.get? identity.canonical = store'.get? identity.canonical :=
        congrArg (Option.map Entry.data) h.entry
      simp only [step, ask, hdata]
    | contains identity =>
      obtain rfl : identity.canonical = key := of_decide_eq_true hstep
      simp only [step, ask, contains_alike h]
    | config => cases hstep
    | summary => cases hstep

/-- A step that does not concern the key leaves the store as it was there. -/
theorem alike_of_not_concerns (store : Store) {step : Step σ ω} (h : ¬ step.concerns key) :
    Alike key (store.step step).2 store := by
  cases step with
  | cache phase identity slots shared =>
    cases phase with
    | capture =>
      have hne : identity.canonical ≠ key := fun heq => h (decide_eq_true heq)
      exact ⟨entry_insert_of_ne store _ hne, rfl⟩
    | restore => exact Alike.refl key store
  | configure config => exact absurd rfl h
  | ask query => exact Alike.refl key store

theorem answersOn_cons (store : Store) (key : Key) (step : Step σ ω) (steps : List (Step σ ω)) :
    store.answersOn key (step :: steps) =
      if step.concerns key then (store.step step).1 :: (store.step step).2.answersOn key steps
      else (store.step step).2.answersOn key steps := by
  simp only [answersOn, run, List.zip_cons_cons, List.filter_cons]
  split <;> rfl

/-- Left to the steps that concern the key, a run gives the answers it gave among all the others.
The induction carries two stores, since the steps left out do change the one that takes them. -/
theorem answersOn_eq_run (h : Alike key store store') (steps : List (Step σ ω)) :
    store.answersOn key steps = (store'.run (steps.filter (Step.concerns key))).1 := by
  induction steps generalizing store store' with
  | nil => rfl
  | cons step steps ih =>
    rw [answersOn_cons]
    by_cases hstep : step.concerns key
    · obtain ⟨hanswer, hafter⟩ := step_alike h hstep
      rw [if_pos hstep, List.filter_cons_of_pos hstep, run, hanswer, ih hafter]
    · have hafter : Alike key (store.step step).2 store' :=
        (alike_of_not_concerns store hstep).trans h
      rw [if_neg hstep, List.filter_cons_of_neg hstep, ih hafter]

/-- A step sees nothing of its identity but the key. -/
theorem step_canonical (store : Store) (step : Step σ ω) :
    store.step step.canonical = store.step step := by
  cases step with
  | ask query => cases query <;> rfl
  | _ => rfl

theorem run_canonical (store : Store) (steps : List (Step σ ω)) :
    store.run (steps.map Step.canonical) = store.run steps := by
  induction steps generalizing store with
  | nil => rfl
  | cons step steps ih =>
    have hrest := ih (store.step step).2
    simp only [List.map_cons, run, step_canonical, hrest]

theorem length_run (store : Store) (steps : List (Step σ ω)) :
    (store.run steps).1.length = steps.length := by
  induction steps generalizing store with
  | nil => rfl
  | cons step steps ih => exact congrArg (· + 1) (ih (store.step step).2)

/-- Two runs from the same configuration that agree on the steps concerning a key, by whatever names
they call it, answer each of those steps, and alike: the results with their errors, the slots as
they end up, the records, and what is found under the key. -/
theorem isolated_between_keys (key : Key) (config : Config) {steps steps' : List (Step σ ω)}
    (h : stepsOn key steps = stepsOn key steps') :
    (empty config).answersOn key steps = (empty config).answersOn key steps' ∧
      ((empty config).answersOn key steps).length = (stepsOn key steps).length := by
  have hanswers (steps : List (Step σ ω)) :
      (empty config).answersOn key steps = ((empty config).run (stepsOn key steps)).1 := by
    rw [stepsOn, run_canonical]
    exact answersOn_eq_run (Alike.refl key (empty config)) steps
  rw [hanswers, hanswers, h, length_run]
  exact ⟨rfl, rfl⟩

/-- Among steps under keys of the same digits, a failed restore and a miss, a position is answered
as if it had been alone and called by one name throughout. -/
theorem same_digits_apart :
    let key : Key := ⟨"1,23"⟩
    let saved (identity : Identity) : Step Place (List Mismatch) :=
      .cache .capture identity [.cell (.text "hi")] []
    let restored (identity : Identity) : Step Place (List Mismatch) :=
      .cache .restore identity [.cell (.text "")] []
    let alone := [saved (.name "1,23"), restored (.name "1,23"), .ask (.contains (.name "1,23"))]
    let among := [.cache .capture (.pair 12 3) [.cell (.bool true)] [], saved (.name "1,23"),
      restored (.pair 12 3), .ask .summary, restored (.coord ⟨1, 23⟩), restored (.name "1,2"),
      .ask (.contains (.pair 1 23))]
    stepsOn key among = stepsOn key alone ∧
      (empty {}).answersOn key among = (empty {}).answersOn key alone ∧
      ((empty {}).answersOn key among).length = 3 := by
  intro key saved restored alone among
  have hsame : stepsOn key among = stepsOn key alone := by rfl
  obtain ⟨hanswers, hlength⟩ := isolated_between_keys key {} hsame
  exact ⟨hsame, hanswers, hlength.trans rfl⟩

end Repaint.Store
