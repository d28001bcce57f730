import Repaint.Proofs.Faults
import Repaint.Proofs.Noted
import Repaint.Slot.Place

/-!
A permissive restore that fails has written an exact prefix. Where a field could not be read, the
slots before it hold what the bytes before it spell, the slots from it on are as they were, and the
error points at the place where the two parts meet. Where only the schema has drifted, every slot
has been written. Nothing is assumed of the slots or of the bytes under the key. The kinds are those
that the slots tell the call, each when its turn comes: a slot may answer by what has been written
to the slots before it.
-/

set_option autoImplicit false

namespace Repaint

variable {σ ω : Type} [Slot σ ω]

/-- The fields were written to the slots in front, one to each and in order, and the slots behind
them were left alone. The notes are those of the restores that were made. -/
structure Reply.Wrote (reply : Reply σ ω) (notes : List Note) (slots : List σ) (shared : ω)
    (fields : List Field) : Prop where
  handed : Slot.Handed (slots.take fields.length) fields shared
    (reply.slots.take fields.length) reply.shared
  untouched : reply.slots.drop fields.length = slots.drop fields.length
  noted : notes = fields.mapIdx Note.mk

/-- The fields of the kinds before a place spell the bytes before an offset, and no field of the
kind in that place begins there. -/
structure StopsAt (data : Bytes) (kinds : List Kind) (fields : List Field) (place offset : Nat) :
    Prop where
  length_eq : fields.length = place
  within : offset ≤ data.length
  spelled : Spells (kinds.take place) fields (data.take offset)
  refused : ∃ kind, kinds[place]? = some kind ∧ ¬ (Cursor.mk data offset).Offers kind

theorem CacheError.isSchemaDrift_ofFault (key : Key) (slot offset : Nat) (fault : Fault) :
    (CacheError.ofFault key slot offset fault).isSchemaDrift = false := by
  cases fault <;> rfl

namespace Entry

/-- The bytes before the fault were read, and the kind after the fields read fails on the rest. -/
theorem read_to_fault {entry : Entry} {kinds : List Kind} {fault : Fault}
    (h : (entry.read kinds).fault? = some fault) :
    (entry.read kinds).offset ≤ entry.data.length ∧
      Spells (kinds.take (entry.read kinds).fields.length) (entry.read kinds).fields
        (entry.data.take (entry.read kinds).offset) ∧
      ∃ kind, kinds[(entry.read kinds).fields.length]? = some kind ∧
        kind.decode (entry.data.drop (entry.read kinds).offset) = .error fault := by
  refine Cursor.read_eq_fault_iff.mp ?_
  rw [← h]
  rfl

theorem stopsAt_of_fault {entry : Entry} {kinds : List Kind} {fault : Fault}
    (h : (entry.read kinds).fault? = some fault) :
    StopsAt entry.data kinds (entry.read kinds).fields (entry.read kinds).fields.length
        (entry.read kinds).offset ∧
      fault.Within (entry.data.length - (entry.read kinds).offset) := by
  obtain ⟨hwithin, hspells, kind, hkind, hdecode⟩ := read_to_fault h
  have hbound := Kind.decode_within hdecode
  rw [List.length_drop] at hbound
  exact ⟨⟨rfl, hwithin, hspells, kind, hkind, Cursor.not_offers_of_decode hdecode⟩, hbound⟩

theorem isSchemaDrift_of_error {entry : Entry} {key : Key} {checkLayout : Bool}
    {reading : Reading} {kinds : List Kind} {error : CacheError} (hnone : reading.fault? = none)
    (h : (entry.judge key checkLayout reading kinds).result entry = .error error) :
    error.isSchemaDrift = true := by
  generalize hjudge : entry.judge key checkLayout reading kinds = verdict at h
  cases judged_of_judge hjudge with
  | faulty hfault =>
    rw [hnone] at hfault
    cases hfault
  | short =>
    cases h
    rfl
  | layout =>
    cases h
    rfl
  | sound => cases h

end Entry

namespace Store

variable {store : Store} {key : Key} {entry : Entry}

theorem dealt_of_permissive (hpermissive : store.config.policy = .permissive)
    (hentry : store.entry? key = some entry) (kinds : List Kind) :
    store.dealt key kinds = (entry.read kinds).fields := by
  simp only [dealt, hentry, hpermissive]

/-- What could be read has been read by the kinds that the slots had when they were asked. -/
theorem tells_of_permissive (hpermissive : store.config.policy = .permissive)
    (hentry : store.entry? key = some entry) (slots : List σ) (shared : ω) :
    Slot.Tells slots (entry.read (store.told key slots shared)).fields shared
      (store.told key slots shared) := by
  have htells := (Cursor.start entry.data).tells_told slots shared
  rw [Cursor.reading_sweep] at htells
  rw [told_of_entry hentry, hpermissive]
  exact htells

/-- Whatever becomes of it, a permissive restore has written what could be read. -/
theorem wrote_of_permissive (hpermissive : store.config.policy = .permissive)
    (hentry : store.entry? key = some entry) (slots : List σ) (shared : ω) :
    (store.restore key slots shared).Wrote (store.restoreNoted key slots shared).shared.1 slots
      shared (entry.read (store.told key slots shared)).fields := by
  let fields := (entry.read (store.told key slots shared)).fields
  have hdealt : store.dealt key (store.told key slots shared) = fields :=
    dealt_of_permissive hpermissive hentry _
  have hle : fields.length ≤ slots.length := by
    rw [← store.length_told key slots shared]
    exact entry.length_read_le _
  have hfront : (slots.take fields.length).length = fields.length := by
    rw [List.length_take, Nat.min_eq_left hle]
  have hsplit := Slot.restoreAll_append hfront (slots.drop fields.length) shared
  rw [List.take_append_drop] at hsplit
  have hwritten : ((Slot.restoreAll (slots.take fields.length) fields shared).1).length =
      fields.length := by
    rw [Slot.length_restoreAll, hfront]
  obtain ⟨hslots, hshared⟩ := Prod.mk.inj (store.restore_deals key slots shared)
  rw [hdealt] at hslots hshared
  constructor
  · rw [hslots, hshared, hsplit, List.take_left' hwritten]
    exact Slot.handed_restoreAll hfront shared
  · rw [hslots, hsplit, List.drop_left' hwritten]
  · rw [notes_dealt, hdealt]

/-- A restore that fails found no field at some place, or only the schema has drifted. -/
theorem restore_eq_error {slots : List σ} {shared : ω} {error : CacheError}
    (h : (store.restore key slots shared).result = .error error) :
    let kinds := store.told key slots shared
    ∃ entry, store.entry? key = some entry ∧
      ((entry.read kinds).fault? = none ∧ error.isSchemaDrift = true ∨
        ∃ fault, (entry.read kinds).fault? = some fault ∧
          error = .ofFault key (entry.read kinds).fields.length (entry.read kinds).offset
            fault) := by
  intro kinds
  cases hentry : store.entry? key with
  | none =>
    rw [restore_of_absent hentry] at h
    cases h
  | some entry =>
    obtain ⟨judged, hresult⟩ := restore_judged hentry slots shared
    rw [hresult] at h
    refine ⟨entry, rfl, ?_⟩
    cases hfault : (entry.read kinds).fault? with
    | none => exact .inl ⟨rfl, Entry.isSchemaDrift_of_error hfault h⟩
    | some fault =>
      rw [Entry.result_of_fault hfault] at h
      exact .inr ⟨fault, rfl, (Except.error.inj h).symm⟩

/-- A permissive restore that fails has written an exact prefix. If a field could not be read there
is one place such that the slots before it hold the fields read and the others are untouched; what
was read spells the bytes up to an offset, and no field of the next slot's kind stands there. The
error names that place and that offset, or the malformed text there. If the schema has drifted all
slots are written. A slot that the call gets to is read by the kind it has by then. -/
theorem permissive_writes_exact_prefix {store : Store}
    (hpermissive : store.config.policy = .permissive) {key : Key} {slots : List σ} {shared : ω}
    {error : CacheError}
    (herror : (store.cache .restore key slots shared).1.result = .error error) :
    let reply := (store.cache .restore key slots shared).1
    let noted := store.restoreNoted key slots shared
    let kinds := store.told key slots shared
    Noted.Mirrors noted reply ∧ ∃ data, store.get? key = some data ∧
      (error.isSchemaDrift = false → ∃! place, ∃ fields offset,
        StopsAt data kinds fields place offset ∧ Slot.Tells slots fields shared kinds ∧
        reply.Wrote noted.shared.1 slots shared fields ∧
        ((∃ needed remaining, error = .underrun key place offset needed remaining ∧
            remaining < needed ∧ offset + remaining ≤ data.length) ∨
          error = .decode
            ("slot " ++ toString place ++ " of '" ++ key.text ++ "' holds invalid UTF-8"))) ∧
      (error.isSchemaDrift = true → ∃ fields front,
        front <+: data ∧ Spells kinds fields front ∧ Slot.Tells slots fields shared kinds ∧
        reply.Wrote noted.shared.1 slots shared fields) := by
  intro reply noted kinds
  refine ⟨restoreNoted_mirrors store key slots shared, ?_⟩
  obtain ⟨entry, hentry, hcause⟩ := restore_eq_error herror
  have hwrote : reply.Wrote noted.shared.1 slots shared (entry.read kinds).fields :=
    wrote_of_permissive hpermissive hentry slots shared
  have htells : Slot.Tells slots (entry.read kinds).fields shared kinds :=
    tells_of_permissive hpermissive hentry slots shared
  refine ⟨entry.data, get_of_entry hentry, ?_⟩
  rcases hcause with
    ⟨hnone, hdrift⟩ | ⟨fault, (hfault : (entry.read kinds).fault? = some fault), rfl⟩
  · obtain ⟨front, hfront, hspells⟩ := Cursor.spells_of_read hnone
    rw [hdrift]
    exact ⟨nofun, fun _ => ⟨(entry.read kinds).fields, front, hfront, hspells, htells, hwrote⟩⟩
  · obtain ⟨hstops, hwithin⟩ := Entry.stopsAt_of_fault hfault
    rw [CacheError.isSchemaDrift_ofFault]
    refine ⟨fun _ => ⟨(entry.read kinds).fields.length, ?_, ?_⟩, nofun⟩
    · refine ⟨(entry.read kinds).fields, (entry.read kinds).offset, hstops, htells, hwrote, ?_⟩
      cases fault with
      | underrun needed remaining =>
        have hoffset := hstops.within
        obtain ⟨hneeded, hremaining⟩ := hwithin
        exact .inl ⟨needed, remaining, rfl, hneeded, by omega⟩
      | malformedText => exact .inr rfl
    · rintro place ⟨fields, offset, hstops', -, hwrote', -⟩
      -- the restores that were made tell how many they were
      have hnotes := congrArg List.length (hwrote'.noted.symm.trans hwrote.noted)
      rw [List.length_mapIdx, List.length_mapIdx, hstops'.length_eq] at hnotes
      exact hnotes

/-- The second text of a list runs out of bytes: the slots before the list, one of no width among
them, have been written, and those from it on have not. -/
theorem short_list_stops_restore :
    let data := [1, 2, 0, 0, 0, 1, 0, 0, 0, 97, 9, 0, 0, 0, 98]
    let store := (empty {}).insert ⟨"k"⟩ ⟨0, data⟩
    let slots := [Place.cell (.bool false), .custom (.scalar []) none, .cell (.texts ["old"]),
      .cell (.text "old")]
    let reply := (store.cache .restore ⟨"k"⟩ slots []).1
    store.config.policy = .permissive ∧ reply.result = .error (.underrun ⟨"k"⟩ 2 1 9 1) ∧
      ∃ place fields offset,
        StopsAt data (store.told ⟨"k"⟩ slots []) fields place offset ∧
        reply.Wrote (store.restoreNoted ⟨"k"⟩ slots []).shared.1 slots [] fields ∧
        place = 2 ∧ offset = 1 := by
  intro data store slots reply
  have hpermissive : store.config.policy = .permissive := rfl
  have herror : reply.result = .error (.underrun ⟨"k"⟩ 2 1 9 1) := by decide
  refine ⟨hpermissive, herror, ?_⟩
  obtain ⟨-, data', hdata, hfault, -⟩ := permissive_writes_exact_prefix hpermissive herror
  obtain rfl : data = data' := Option.some.inj hdata
  obtain ⟨place, ⟨fields, offset, hstops, -, hwrote, htold⟩, -⟩ := hfault rfl
  refine ⟨place, fields, offset, hstops, hwrote, ?_⟩
  rcases htold with ⟨needed, remaining, hunderrun, -⟩ | hdecode
  · cases hunderrun
    exact ⟨rfl, rfl⟩
  · cases hdecode

end Store
end Repaint
