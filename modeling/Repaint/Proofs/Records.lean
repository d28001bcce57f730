import Repaint.Proofs.Permissive

/-!
What a call reports of itself. However it ends, it is told by one event, but for a miss that the
store is to keep silent about. The event of a fault counts the slots restored by the policy and by
how far the reading came; here the count is held to the restores that the slots see.
Nothing is assumed of the slots or of the bytes under the key.
-/

set_option autoImplicit false

namespace Repaint

/-- The level a miss is reported at. -/
def MissReport.level? : MissReport → Option Level
  | warn => some .warn
  | debug => some .debug
  | silent => none

theorem MissReport.level_of_mem_events {report : MissReport} {key : Key} {event : Event}
    (h : event ∈ report.events key) : report.level? = some event.level := by
  cases report with
  | silent => cases h
  | _ =>
    obtain rfl := List.mem_singleton.mp h
    rfl

theorem MissReport.message_of_mem_events {report : MissReport} {key : Key} {event : Event}
    (h : event ∈ report.events key) :
    event.message = "restore skipped for '" ++ key.text ++ "': nothing cached" ++
      (if report = warn then ", slots keep their current values" else "") := by
  cases report with
  | warn =>
    obtain rfl := List.mem_singleton.mp h
    rw [if_pos rfl, String.append_assoc]
    rfl
  | debug =>
    obtain rfl := List.mem_singleton.mp h
    rw [if_neg (by decide), String.append_empty]
    rfl
  | silent => cases h

theorem MissReport.level?_ne_error (report : MissReport) : report.level? ≠ some .error := by
  cases report <;> decide

/-- The ways a call on so many slots can end after so many restores, each with what it reports. -/
inductive Store.Reports (store : Store) (key : Key) (slots restores : Nat) :
    Except CacheError Outcome → List Event → Prop
  | saved (length : Nat) :
      Reports store key slots restores (.ok (.saved length)) [.saved key slots length]
  | missed : Reports store key slots restores (.ok .miss) (store.config.miss.events key)
  | failed {data : Bytes} {error : CacheError} : store.get? key = some data →
      error.isSchemaDrift = false →
      Reports store key slots restores (.error error)
        [.failed key data.length restores slots error]
  | drifted {error : CacheError} : error.isSchemaDrift = true →
      Reports store key slots restores (.error error) [.drifted error]
  | restored (length : Nat) :
      Reports store key slots restores (.ok (.restored length)) [.restored key slots]

namespace Store

namespace Reports

variable {store : Store} {key : Key} {slots restores : Nat} {result : Except CacheError Outcome}
  {events : List Event} {event : Event} {error : CacheError}

theorem length_events (h : store.Reports key slots restores result events) :
    events.length = if result = .ok .miss ∧ store.config.miss = .silent then 0 else 1 := by
  cases h with
  | missed => cases hmiss : store.config.miss <;> simp [MissReport.events]
  | _ => simp

theorem event_of_miss (h : store.Reports key slots restores (.ok .miss) events)
    (hevent : event ∈ events) :
    store.config.miss.level? = some event.level ∧
      event.message = "restore skipped for '" ++ key.text ++ "': nothing cached" ++
        (if store.config.miss = .warn then ", slots keep their current values" else "") := by
  cases h with
  | missed =>
    exact ⟨MissReport.level_of_mem_events hevent, MissReport.message_of_mem_events hevent⟩

theorem event_of_saved {length : Nat}
    (h : store.Reports key slots restores (.ok (.saved length)) events) (hevent : event ∈ events) :
    event.level = .trace ∧
      event.message = "save " ++ toString slots ++ " slots for '" ++ key.text ++ "' in " ++
        toString length ++ " bytes" := by
  cases h with
  | saved =>
    obtain rfl := List.mem_singleton.mp hevent
    exact ⟨rfl, rfl⟩

theorem event_of_restored {length : Nat}
    (h : store.Reports key slots restores (.ok (.restored length)) events)
    (hevent : event ∈ events) :
    event.level = .trace ∧
      event.message = "restore " ++ toString slots ++ " slots for '" ++ key.text ++ "'" := by
  cases h with
  | restored =>
    obtain rfl := List.mem_singleton.mp hevent
    exact ⟨rfl, rfl⟩

theorem level_of_error (h : store.Reports key slots restores (.error error) events)
    (hevent : event ∈ events) : event.level = .error := by
  cases h with
  | failed =>
    obtain rfl := List.mem_singleton.mp hevent
    rfl
  | drifted =>
    obtain rfl := List.mem_singleton.mp hevent
    rfl

/-- The level of an error is given to no call that ends well. -/
theorem level_eq_error_iff (h : store.Reports key slots restores result events)
    (hevent : event ∈ events) : event.level = .error ↔ ∃ error, result = .error error := by
  constructor
  · intro hlevel
    cases result with
    | error error => exact ⟨error, rfl⟩
    | ok outcome =>
      cases outcome with
      | miss =>
        have hmiss := (h.event_of_miss hevent).1
        rw [hlevel] at hmiss
        exact absurd hmiss (MissReport.level?_ne_error _)
      | saved length =>
        rw [(h.event_of_saved hevent).1] at hlevel
        cases hlevel
      | restored length =>
        rw [(h.event_of_restored hevent).1] at hlevel
        cases hlevel
  · rintro ⟨error, rfl⟩
    exact h.level_of_error hevent

theorem message_of_fault (h : store.Reports key slots restores (.error error) events)
    (hfault : error.isSchemaDrift = false) (hevent : event ∈ events) :
    ∃ data, store.get? key = some data ∧
      event.message = "restore failed for '" ++ key.text ++ "' (" ++ toString data.length ++
        " cached bytes, " ++ toString restores ++ " of " ++ toString slots ++
        " slots restored): " ++ error.message := by
  cases h with
  | failed hdata =>
    obtain rfl := List.mem_singleton.mp hevent
    exact ⟨_, hdata, rfl⟩
  | drifted hdrift =>
    rw [hdrift] at hfault
    cases hfault

theorem message_of_drift (h : store.Reports key slots restores (.error error) events)
    (hdrift : error.isSchemaDrift = true) (hevent : event ∈ events) :
    event.message = error.message := by
  cases h with
  | failed _ hfault =>
    rw [hfault] at hdrift
    cases hdrift
  | drifted =>
    obtain rfl := List.mem_singleton.mp hevent
    rfl

theorem message_ends (h : store.Reports key slots restores (.error error) events)
    (hevent : event ∈ events) : ∃ front, event.message = front ++ error.message := by
  cases hdrift : error.isSchemaDrift with
  | false =>
    obtain ⟨data, -, hmessage⟩ := h.message_of_fault hdrift hevent
    exact ⟨_, hmessage⟩
  | true =>
    refine ⟨"", ?_⟩
    rw [h.message_of_drift hdrift hevent, String.empty_append]

end Reports

variable {σ ω : Type} [Slot σ ω] {store : Store} {key : Key}

/-- The count in the event of a fault has to be that of the restores, and no other event has one. -/
theorem reports_of_judge {entry : Entry} (hentry : store.entry? key = some entry)
    {reading : Reading} {kinds : List Kind} {verdict : Verdict}
    (hjudge : entry.judge key store.config.checkLayout reading kinds = verdict)
    {told restores : Nat} (htold : ∀ error, verdict = .faulty error → told = restores)
    (slots : Nat) :
    store.Reports key slots restores (verdict.result entry)
      [verdict.event key entry told slots] := by
  cases Entry.judged_of_judge hjudge with
  | faulty =>
    obtain rfl := htold _ rfl
    exact .failed (get_of_entry hentry) (CacheError.isSchemaDrift_ofFault ..)
  | short => exact .drifted rfl
  | layout => exact .drifted rfl
  | sound => exact .restored entry.data.length

theorem reports_restore (store : Store) (key : Key) (slots : List σ) (shared : ω) :
    store.Reports key slots.length (store.dealt key (store.told key slots shared)).length
      (store.restore key slots shared).result (store.restore key slots shared).events := by
  cases hentry : store.entry? key with
  | none =>
    rw [restore_of_absent hentry, dealt, hentry]
    exact .missed
  | some entry =>
    cases hpolicy : store.config.policy with
    | permissive =>
      rw [restore_permissive hpolicy hentry, Entry.restorePermissive_eq,
        dealt_of_permissive hpolicy hentry, told_of_entry hentry, hpolicy]
      exact reports_of_judge hentry rfl (fun _ _ => rfl) slots.length
    | strict =>
      rw [restore_strict hpolicy hentry, Entry.restoreStrict_eq, told_of_strict hpolicy]
      simp only [dealt, hentry, hpolicy]
      refine reports_of_judge hentry rfl (fun error herror => ?_) slots.length
      -- a strict restore of an entry with a fault deals out nothing
      simp only [herror, reduceCtorEq, if_false, List.length_nil]

theorem length_notes (store : Store) (key : Key) (slots : List σ) (shared : ω) :
    (store.restoreNoted key slots shared).shared.1.length =
      (store.dealt key (store.told key slots shared)).length := by
  rw [notes_dealt, List.length_mapIdx]

/-- The length told of a save is that of the bytes then under the key. -/
theorem length_of_saved {phase : Phase} {slots : List σ} {shared : ω} {length : Nat}
    (h : (store.cache phase key slots shared).1.result = .ok (.saved length)) :
    ((store.cache phase key slots shared).2.get? key).map List.length = some length := by
  cases phase with
  | capture =>
    cases h
    exact congrArg (Option.map List.length) (get_of_entry (entry_insert_self store key _))
  | restore =>
    rcases restore_eq_ok h with ⟨-, hmiss⟩ | ⟨entry, -, hrestored⟩
    · cases hmiss
    · cases hrestored

/-- Every call reports once, but for a miss that is to be kept silent. The event is at the level of
an error just if the call fails, and then its message ends with that of the error; a miss is told at
the level configured, and what ends well at the lowest. The message of a save tells the key, how
many slots were given and how many bytes now stand under the key, that of a restore the key and the
slots. Of a field that could not be read the message tells how many bytes stand under the key, how
many slots were given and how many of them were restored. -/
theorem reports_what_happened (store : Store) (phase : Phase) (key : Key) (slots : List σ)
    (shared : ω) :
    let reply := (store.cache phase key slots shared).1
    let saved := (store.cache phase key slots shared).2
    let noted := store.restoreNoted key slots shared
    reply.events.length =
      (if reply.result = .ok .miss ∧ store.config.miss = .silent then 0 else 1) ∧
    ∀ event ∈ reply.events,
      (event.level = .error ↔ ∃ error, reply.result = .error error) ∧
      (reply.result = .ok .miss → store.config.miss.level? = some event.level ∧
        event.message = "restore skipped for '" ++ key.text ++ "': nothing cached" ++
          (if store.config.miss = .warn then ", slots keep their current values" else "")) ∧
      (∀ length, reply.result = .ok (.saved length) → event.level = .trace ∧
        (saved.get? key).map List.length = some length ∧
        event.message = "save " ++ toString slots.length ++ " slots for '" ++ key.text ++
          "' in " ++ toString length ++ " bytes") ∧
      (∀ length, reply.result = .ok (.restored length) → event.level = .trace ∧
        event.message = "restore " ++ toString slots.length ++ " slots for '" ++ key.text ++
          "'") ∧
      ∀ error, reply.result = .error error →
        (∃ front, event.message = front ++ error.message) ∧
        (error.isSchemaDrift = false →
          Noted.Mirrors noted reply ∧
          noted.shared.1.map Note.place = List.range noted.shared.1.length ∧
          ∃ data, store.get? key = some data ∧
            event.message = "restore failed for '" ++ key.text ++ "' (" ++
              toString data.length ++ " cached bytes, " ++ toString noted.shared.1.length ++
              " of " ++ toString slots.length ++ " slots restored): " ++ error.message) := by
  intro reply saved noted
  have hreports : store.Reports key slots.length noted.shared.1.length reply.result
      reply.events := by
    cases phase with
    | capture => exact .saved _
    | restore =>
      rw [length_notes]
      exact reports_restore store key slots shared
  refine ⟨hreports.length_events, fun event hevent => ⟨hreports.level_eq_error_iff hevent, ?_, ?_,
    ?_, ?_⟩⟩
  · intro hmiss
    rw [hmiss] at hreports
    exact hreports.event_of_miss hevent
  · intro length hsaved
    rw [hsaved] at hreports
    obtain ⟨hlevel, hmessage⟩ := hreports.event_of_saved hevent
    exact ⟨hlevel, length_of_saved hsaved, hmessage⟩
  · intro length hrestored
    rw [hrestored] at hreports
    exact hreports.event_of_restored hevent
  · intro error herror
    rw [herror] at hreports
    refine ⟨hreports.message_ends hevent, fun hfault => ?_⟩
    cases phase with
    | capture => cases herror
    | restore =>
      refine ⟨restoreNoted_mirrors store key slots shared, ?_,
        hreports.message_of_fault hfault hevent⟩
      rw [notes_dealt, Note.numbering.map_place, List.length_mapIdx]

/-- Malformed text behind a truth value: under the permissive policy the truth value has been
restored by then, under the strict one nothing has. -/
theorem fault_reported_under_either_policy :
    let store (policy : Policy) :=
      (empty { policy }).insert ⟨"k"⟩ ⟨0, [1, 2, 0, 0, 0, 255, 254]⟩
    let slots := [Place.cell (.bool false), .cell (.text "old")]
    let reply (policy : Policy) := ((store policy).cache .restore ⟨"k"⟩ slots []).1
    let error := CacheError.decode "slot 1 of 'k' holds invalid UTF-8"
    ((reply .permissive).result = .error error ∧ ∃ event ∈ (reply .permissive).events,
      event.level = .error ∧ event.message =
        "restore failed for 'k' (7 cached bytes, 1 of 2 slots restored): " ++ error.message) ∧
    (reply .strict).result = .error error ∧ ∃ event ∈ (reply .strict).events,
      event.level = .error ∧ event.message =
        "restore failed for 'k' (7 cached bytes, 0 of 2 slots restored): " ++ error.message := by
  intro store slots reply error
  have hone (policy : Policy) (hresult : (reply policy).result = .error error) :
      ∃ event ∈ (reply policy).events, event.level = .error ∧ event.message =
        "restore failed for '" ++ "k" ++ "' (" ++ toString 7 ++ " cached bytes, " ++
          toString ((store policy).restoreNoted ⟨"k"⟩ slots []).shared.1.length ++ " of " ++
          toString 2 ++ " slots restored): " ++ error.message := by
    obtain ⟨hlength, htold⟩ := reports_what_happened (store policy) .restore ⟨"k"⟩ slots []
    have hnomiss : (reply policy).result ≠ .ok .miss := by
      rw [hresult]
      simp
    rw [if_neg fun hmiss => hnomiss hmiss.1] at hlength
    obtain ⟨event, hevent⟩ := List.length_eq_one_iff.mp hlength
    have hmem : event ∈ (reply policy).events := by
      rw [hevent]
      exact List.mem_singleton_self event
    obtain ⟨hlevel, -, -, -, herror⟩ := htold event hmem
    obtain ⟨-, -, data, hdata, hmessage⟩ := (herror error hresult).2 rfl
    obtain rfl := Option.some.inj hdata
    exact ⟨event, hmem, hlevel.mpr ⟨error, hresult⟩, hmessage⟩
  have hpermissive : (reply .permissive).result = .error error := by decide
  have hstrict : (reply .strict).result = .error error := by decide
  obtain ⟨event, hmem, hlevel, hmessage⟩ := hone .permissive hpermissive
  obtain ⟨event', hmem', hlevel', hmessage'⟩ := hone .strict hstrict
  exact ⟨⟨hpermissive, event, hmem, hlevel, hmessage.trans (by decide)⟩,
    hstrict, event', hmem', hlevel', hmessage'.trans (by decide)⟩

end Store
end Repaint
