import Repaint.Proofs.LastCapture
import Repaint.Render

/-!
What the erasing passes paint. An erasing pass changes nothing of the store, so each of its calls
is answered as if it were the only one; a drawing pass leaves what its own caching calls capture.
Across cycles a key therefore comes back with the values it was last drawn with, and a key never
drawn leaves the live ones. Nothing is assumed of the other calls, in either pass.
-/

set_option autoImplicit false

namespace Repaint

/-- The value worked out in this pass. -/
def Source.live {σ : Type} : Source σ → σ
  | given slot => slot
  | deferred live _ => live

theorem Source.start_restore {σ : Type} (source : Source σ) :
    source.start .restore = source.live := by
  cases source <;> rfl

/-- A variable of a type that comes with the library, as a drawing routine hands it over. -/
structure Variable where
  cell : Cell
  deferred : Bool
  deriving DecidableEq

namespace Variable

/-- What a deferred variable has in a drawing pass is the blank of its type. -/
def drawn (v : Variable) : Cell := if v.deferred then v.cell.blank else v.cell

def source {σ : Type} (embed : Cell → σ) (v : Variable) : Source σ :=
  if v.deferred then .deferred (embed v.cell) (embed v.cell.blank) else .given (embed v.cell)

theorem start_capture {σ : Type} (embed : Cell → σ) (v : Variable) :
    (v.source embed).start .capture = embed v.drawn := by
  unfold source drawn
  cases v.deferred <;> rfl

theorem start_restore {σ : Type} (embed : Cell → σ) (v : Variable) :
    (v.source embed).start .restore = embed v.cell := by
  unfold source
  cases v.deferred <;> rfl

theorem blank_drawn (v : Variable) : v.drawn.blank = v.cell.blank := by
  unfold drawn
  cases v.deferred with
  | false => rfl
  | true => cases v.cell <;> rfl

end Variable

variable {σ ω : Type} [Slot σ ω]

/-- The actions of a pass, in order. -/
def Call.actions (phase : Phase) (calls : List (Call σ ω)) : List (Action σ ω) :=
  (calls.filter (Call.appearsIn phase)).map Call.action

namespace Action

/-- What an action leaves in the store when it is performed in a drawing pass. -/
def captured? : Action σ ω → Option (Key × Entry)
  | cache identity sources shared =>
    let slots := sources.map (Source.start .capture)
    some (identity.canonical, ⟨Layout.fingerprint (Slot.savedKinds slots shared),
      Field.encodeAll (Slot.captureAll slots shared).1⟩)
  | _ => none

def CachesUnder (key : Key) : Action σ ω → Prop
  | cache identity _ _ => identity.canonical = key
  | _ => False

/-- The last of the actions to cache under the key hands these sources over. -/
def LastCached (key : Key) (sources : List (Source σ)) (actions : List (Action σ ω)) : Prop :=
  ∃ front identity shared back, actions = front ++ cache identity sources shared :: back ∧
    identity.canonical = key ∧ ∀ action ∈ back, ¬ action.CachesUnder key

theorem ne_of_captured {action : Action σ ω} {key : Key} {held : Key × Entry}
    (h : ¬ action.CachesUnder key) (hheld : action.captured? = some held) : held.1 ≠ key := by
  cases action with
  | cache identity sources shared =>
    cases hheld
    exact h
  | drawOnly blank live => cases hheld
  | phase => cases hheld
  | ask query => cases hheld

end Action

namespace Store

/-- The store with entries put into it one after another. -/
def record (store : Store) (entries : List (Key × Entry)) : Store :=
  entries.foldl (fun store held => store.insert held.1 held.2) store

theorem record_append (store : Store) (front back : List (Key × Entry)) :
    store.record (front ++ back) = (store.record front).record back :=
  List.foldl_append

theorem entry_record_of_ne (store : Store) {key : Key} {entries : List (Key × Entry)}
    (h : ∀ held ∈ entries, held.1 ≠ key) :
    entry? (store.record entries) key = store.entry? key := by
  induction entries generalizing store with
  | nil => rfl
  | cons held entries ih =>
    obtain ⟨hheld, hentries⟩ := List.forall_mem_cons.mp h
    exact (ih (store.insert held.1 held.2) hentries).trans (store.entry_insert_of_ne held.2 hheld)

theorem entry_record_of_not_cached (store : Store) {key : Key} {actions : List (Action σ ω)}
    (h : ∀ action ∈ actions, ¬ action.CachesUnder key) :
    entry? (store.record (actions.filterMap Action.captured?)) key = store.entry? key := by
  apply entry_record_of_ne
  intro held hheld
  obtain ⟨action, hmem, hcaptured⟩ := List.mem_filterMap.mp hheld
  exact Action.ne_of_captured (h action hmem) hcaptured

theorem entry_record_of_lastCached (store : Store) {key : Key} {sources : List (Source σ)}
    {actions : List (Action σ ω)} (h : Action.LastCached key sources actions) :
    let slots := sources.map (Source.start .capture)
    ∃ shared, entry? (store.record (actions.filterMap Action.captured?)) key =
      some ⟨Layout.fingerprint (Slot.savedKinds slots shared),
        Field.encodeAll (Slot.captureAll slots shared).1⟩ := by
  intro slots
  obtain ⟨front, identity, shared, back, rfl, rfl, hback⟩ := h
  refine ⟨shared, ?_⟩
  rw [List.filterMap_append, record_append]
  exact (entry_record_of_not_cached _ hback).trans (entry_insert_self _ _ _)

end Store

namespace Action

/-- No action of an erasing pass changes the store. -/
theorem store_perform_restore (store : Store) (action : Action σ ω) :
    (action.perform .restore store).2 = store := by
  cases action <;> rfl

theorem performAll_restore (store : Store) (actions : List (Action σ ω)) :
    performAll .restore store actions =
      (actions.map fun action => (action.perform .restore store).1, store) := by
  induction actions with
  | nil => rfl
  | cons action actions ih =>
    have hstore := action.store_perform_restore store
    simp only [performAll, hstore, ih, List.map_cons]

theorem store_perform_capture (store : Store) (action : Action σ ω) :
    (action.perform .capture store).2 = store.record action.captured?.toList := by
  cases action with
  | cache identity sources shared =>
    simp only [perform, Store.cache, Store.save, Field.writeAll_eq, List.nil_append]
    rfl
  | drawOnly blank live => rfl
  | phase => rfl
  | ask query => rfl

theorem store_performAll_capture (store : Store) (actions : List (Action σ ω)) :
    (performAll .capture store actions).2 = store.record (actions.filterMap captured?) := by
  induction actions generalizing store with
  | nil => rfl
  | cons action actions ih =>
    have hsplit : (action :: actions).filterMap captured? =
        action.captured?.toList ++ actions.filterMap captured? := by
      cases hcaptured : action.captured? with
      | none => simp [hcaptured]
      | some held => simp [hcaptured]
    rw [hsplit, Store.record_append, ← store_perform_capture]
    exact ih (action.perform .capture store).2

end Action

namespace Store

theorem pass_restore (store : Store) (calls : List (Call σ ω)) :
    store.pass .restore calls =
      ((Call.actions .restore calls).map fun action => (action.perform .restore store).1, store) :=
  Action.performAll_restore store (Call.actions .restore calls)

theorem store_eraseAndRedraw (store : Store) (calls : List (Call σ ω)) :
    (store.eraseAndRedraw calls).2 =
      store.record ((Call.actions .capture calls).filterMap Action.captured?) := by
  simp only [eraseAndRedraw, pass_restore]
  exact Action.store_performAll_capture store (Call.actions .capture calls)

theorem store_redrawAll (store : Store) (cycles : List (List (Call σ ω))) :
    (store.redrawAll cycles).2 =
      store.record ((cycles.flatMap (Call.actions .capture)).filterMap Action.captured?) := by
  induction cycles generalizing store with
  | nil => rfl
  | cons calls cycles ih =>
    rw [List.flatMap_cons, List.filterMap_append, record_append, ← store_eraseAndRedraw]
    exact ih (store.eraseAndRedraw calls).2

/-- A cycle runs on the store that the cycles before it left. -/
theorem frame_redrawAll (store : Store) {cycles : List (List (Call σ ω))} {n : Nat}
    {calls : List (Call σ ω)} (h : cycles[n]? = some calls) :
    (store.redrawAll cycles).1[n]? =
      some ((store.redrawAll (cycles.take n)).2.eraseAndRedraw calls).1 := by
  induction cycles generalizing store n with
  | nil => cases h
  | cons first cycles ih =>
    cases n with
    | zero =>
      cases h
      rfl
    | succ n => exact ih (store.eraseAndRedraw first).2 h

theorem store_redrawAll_succ (store : Store) {cycles : List (List (Call σ ω))} {n : Nat}
    {calls : List (Call σ ω)} (h : cycles[n]? = some calls) :
    (store.redrawAll (cycles.take (n + 1))).2 =
      (store.redrawAll (cycles.take n)).2.record
        ((Call.actions .capture calls).filterMap Action.captured?) := by
  have htake : cycles.take (n + 1) = cycles.take n ++ [calls] := by
    rw [List.take_add_one, h, Option.toList_some]
  rw [store_redrawAll, store_redrawAll, htake, List.flatMap_append, List.filterMap_append,
    record_append, List.flatMap_singleton]

/-- Cells of the types saved are given back what was saved. -/
theorem restore_saved_cells {embed : Cell → σ} (hembed : Cell.Embedded embed) {store : Store}
    {key : Key} {saved : List Cell} {shared : ω}
    (hentry : store.entry? key =
      some ⟨Layout.fingerprint (Slot.savedKinds (saved.map embed) shared),
        Field.encodeAll (Slot.captureAll (saved.map embed) shared).1⟩)
    (hfits : ∀ cell ∈ saved, cell.field.Fits) {cells : List Cell}
    (htypes : cells.map Cell.blank = saved.map Cell.blank) (given : ω) :
    (store.restore key (cells.map embed) given).result =
        .ok (.restored (saved.map fun cell => cell.field.encodedLength).sum) ∧
      (store.restore key (cells.map embed) given).slots = saved.map embed := by
  have hkinds : cells.map Cell.kind = saved.map Cell.kind := by
    have hmap := congrArg (List.map Cell.kind) htypes
    simpa only [List.map_map, Function.comp_def, Cell.kind_blank] using hmap
  rw [restore_of_saved_cells hembed hentry hfits hkinds, hembed.restoreAll htypes, List.map_map]
  exact ⟨rfl, rfl⟩

/-- A call that erases under a key paints what was drawn under it last. -/
theorem painted_of_lastCached {embed : Cell → σ} (hembed : Cell.Embedded embed) (store : Store)
    {key : Key} {earlier : List (Action σ ω)} {vs saved : List Variable}
    (hlast : Action.LastCached key (saved.map (Variable.source embed)) earlier)
    (htypes : vs.map (fun v => v.cell.blank) = saved.map fun v => v.cell.blank)
    (hfits : ∀ v ∈ saved, v.drawn.field.Fits) (shared : ω) :
    let start := store.record (earlier.filterMap Action.captured?)
    let live := (vs.map (Variable.source embed)).map (Source.start .restore)
    (start.restore key live shared).result =
        .ok (.restored (saved.map fun v => v.drawn.field.encodedLength).sum) ∧
      (start.restore key live shared).slots = saved.map fun v => embed v.drawn := by
  intro start live
  obtain ⟨shared', hentry⟩ := store.entry_record_of_lastCached hlast
  have hsaved : (saved.map (Variable.source embed)).map (Source.start .capture) =
      (saved.map Variable.drawn).map embed := by
    simp only [List.map_map, Function.comp_def, Variable.start_capture]
  have hlive : live = (vs.map Variable.cell).map embed := by
    simp only [live, List.map_map, Function.comp_def, Variable.start_restore]
  have hblanks : (vs.map Variable.cell).map Cell.blank =
      (saved.map Variable.drawn).map Cell.blank := by
    simpa only [List.map_map, Function.comp_def, Variable.blank_drawn] using htypes
  have hfits' : ∀ cell ∈ saved.map Variable.drawn, cell.field.Fits := by
    intro cell hcell
    obtain ⟨v, hv, rfl⟩ := List.mem_map.mp hcell
    exact hfits v hv
  simp only [hsaved] at hentry
  have hrestored := restore_saved_cells hembed hentry hfits' hblanks shared
  rw [hlive]
  simpa only [List.map_map, Function.comp_def] using hrestored

/-- A call that erases under a key never drawn and not known at first paints what is live. -/
theorem live_of_not_cached (store : Store) {key : Key} {earlier : List (Action σ ω)}
    (hnever : ∀ action ∈ earlier, ¬ action.CachesUnder key) (habsent : store.entry? key = none)
    (sources : List (Source σ)) (shared : ω) :
    let start := store.record (earlier.filterMap Action.captured?)
    let reply := start.restore key (sources.map (Source.start .restore)) shared
    reply.result = .ok .miss ∧ reply.slots = sources.map Source.live := by
  intro start reply
  have hentry : start.entry? key = none :=
    (entry_record_of_not_cached store hnever).trans habsent
  have hlive : sources.map (Source.start .restore) = sources.map Source.live :=
    List.map_congr_left fun source _ => source.start_restore
  have hmiss := start.restore_of_absent hentry (sources.map (Source.start .restore)) shared
  exact ⟨congrArg Reply.result hmiss, (congrArg Reply.slots hmiss).trans hlive⟩

/-- In every cycle the erasing pass leaves the store as it found it and answers each of its calls
by that store alone, and the cycle leaves what its drawing pass has cached, call by call. A call
of the erasing pass paints what its key was last drawn with in the cycles before, if the types are
those drawn then; under a key never drawn and not known at first it paints the live values. -/
theorem erased_as_last_drawn {embed : Cell → σ} (hembed : Cell.Embedded embed) (store : Store)
    (cycles : List (List (Call σ ω))) {n : Nat} {calls : List (Call σ ω)}
    (hn : cycles[n]? = some calls) :
    let start := (store.redrawAll (cycles.take n)).2
    let earlier := (cycles.take n).flatMap (Call.actions .capture)
    let erasing := Call.actions .restore calls
    ∃ frame, (store.redrawAll cycles).1[n]? = some frame ∧
      (start.pass .restore calls).2 = start ∧
      frame.erased = erasing.map (fun action => (action.perform .restore start).1) ∧
      (store.redrawAll (cycles.take (n + 1))).2 =
        start.record ((Call.actions .capture calls).filterMap Action.captured?) ∧
      (∀ (i : Nat) (identity : Identity) (vs saved : List Variable) (shared : ω),
        erasing[i]? = some (.cache identity (vs.map (Variable.source embed)) shared) →
        Action.LastCached identity.canonical (saved.map (Variable.source embed)) earlier →
        vs.map (fun v => v.cell.blank) = saved.map (fun v => v.cell.blank) →
        (∀ v ∈ saved, v.drawn.field.Fits) →
        ∃ reply, frame.erased[i]? = some (.cached reply) ∧
          reply.result = .ok (.restored (saved.map fun v => v.drawn.field.encodedLength).sum) ∧
          reply.slots = saved.map fun v => embed v.drawn) ∧
      (∀ (i : Nat) (identity : Identity) (sources : List (Source σ)) (shared : ω),
        erasing[i]? = some (.cache identity sources shared) →
        (∀ action ∈ earlier, ¬ action.CachesUnder identity.canonical) →
        store.entry? identity.canonical = none →
        ∃ reply, frame.erased[i]? = some (.cached reply) ∧ reply.result = .ok .miss ∧
          reply.slots = sources.map Source.live) := by
  intro start earlier erasing
  have hstart : start = store.record (earlier.filterMap Action.captured?) :=
    store.store_redrawAll (cycles.take n)
  have herased : (start.eraseAndRedraw calls).1.erased =
      erasing.map fun action => (action.perform .restore start).1 := by
    simp only [eraseAndRedraw, pass_restore]
    rfl
  have hanswer : ∀ (i : Nat) (action : Action σ ω), erasing[i]? = some action →
      (start.eraseAndRedraw calls).1.erased[i]? = some (action.perform .restore start).1 := by
    intro i action hi
    rw [herased, List.getElem?_map, hi, Option.map_some]
  refine ⟨(start.eraseAndRedraw calls).1, store.frame_redrawAll hn, ?_, herased,
    store.store_redrawAll_succ hn, ?_, ?_⟩
  · rw [pass_restore]
  · intro i identity vs saved shared hi hlast htypes hfits
    refine ⟨_, hanswer i _ hi, ?_⟩
    rw [hstart]
    exact store.painted_of_lastCached hembed hlast htypes hfits shared
  · intro i identity sources shared hi hnever habsent
    refine ⟨_, hanswer i _ hi, ?_⟩
    rw [hstart]
    exact store.live_of_not_cached hnever habsent sources shared

/-- A thermometer drawn twice, with a brightness that only the erasing pass works out. The first
erasing pass finds nothing; the second paints the old label, and the blank drawn beside it. -/
theorem old_label_erased :
    let tiles (label : String) : List Variable :=
      [⟨.text label, false⟩, ⟨.number (Number.ofInt .uint8 80), true⟩]
    let calls (label : String) : List (Call Place (List Mismatch)) :=
      [⟨some .capture, .ask .summary⟩,
        ⟨none, .cache (.pair 1 0) ((tiles label).map (Variable.source Place.cell)) []⟩]
    let cycles := [calls "21.0", calls "21.5"]
    let frames := ((empty {}).redrawAll cycles).1
    (Cell.Embedded Place.cell ∧ cycles[0]? = some (calls "21.0") ∧
      cycles[1]? = some (calls "21.5")) ∧
    (∃ (frame : Frame Place (List Mismatch)) (reply : Reply Place (List Mismatch)),
      frames[0]? = some frame ∧ frame.erased[0]? = some (.cached reply) ∧
      reply.result = .ok .miss ∧
      reply.slots = [.cell (.text "21.0"), .cell (.number (Number.ofInt .uint8 80))]) ∧
    ∃ (frame : Frame Place (List Mismatch)) (reply : Reply Place (List Mismatch)),
      frames[1]? = some frame ∧ frame.erased[0]? = some (.cached reply) ∧
      reply.result = .ok (.restored 9) ∧
      reply.slots = [.cell (.text "21.0"), .cell (.number (Number.zero .uint8))] := by
  intro tiles calls cycles frames
  have hfirst : cycles[0]? = some (calls "21.0") := rfl
  have hsecond : cycles[1]? = some (calls "21.5") := rfl
  have hcache (label : String) : (Call.actions .restore (calls label))[0]? =
      some (.cache (.pair 1 0) ((tiles label).map (Variable.source Place.cell)) []) := rfl
  refine ⟨⟨Place.embedded, hfirst, hsecond⟩, ?_, ?_⟩
  · obtain ⟨frame, hframe, -, -, -, -, hmissed⟩ :=
      erased_as_last_drawn Place.embedded (empty {}) cycles hfirst
    have habsent : entry? (empty {}) (Identity.pair 1 0).canonical = none := rfl
    obtain ⟨reply, hreply, hresult, hslots⟩ :=
      hmissed 0 (.pair 1 0) _ [] (hcache "21.0") (fun _ h => nomatch h) habsent
    exact ⟨frame, reply, hframe, hreply, hresult, hslots⟩
  · obtain ⟨frame, hframe, -, -, -, hpainted, -⟩ :=
      erased_as_last_drawn Place.embedded (empty {}) cycles hsecond
    have hlast : Action.LastCached (Identity.pair 1 0).canonical
        ((tiles "21.0").map (Variable.source Place.cell))
        ((cycles.take 1).flatMap (Call.actions .capture)) :=
      ⟨[.ask .summary], .pair 1 0, [], [], rfl, rfl, fun _ h => nomatch h⟩
    have hfits : ∀ v ∈ tiles "21.0", v.drawn.field.Fits := by decide
    obtain ⟨reply, hreply, hresult, hslots⟩ :=
      hpainted 0 (.pair 1 0) (tiles "21.5") (tiles "21.0") [] (hcache "21.5") hlast rfl hfits
    exact ⟨frame, reply, hframe, hreply, hresult, hslots⟩

end Store
end Repaint
