import Repaint.Proofs.Noted
import Repaint.Proofs.Verdict

/-!
A strict restore writes all its slots or none. Whatever fails, and at whichever slot, fails
before the first of them is written, so neither a slot nor the state that slots share can tell
that the call was made. Nothing is assumed of the slots or of the bytes under the key, not even
that the slots keep their kinds: each is asked before anything has changed.
-/

set_option autoImplicit false

namespace Repaint

theorem Verdict.result_of_ne_sound {entry : Entry} {verdict : Verdict} (h : verdict ≠ .sound) :
    ∃ error, verdict.result entry = .error error := by
  cases verdict with
  | faulty error => exact ⟨error, rfl⟩
  | drifted error => exact ⟨error, rfl⟩
  | sound => exact absurd rfl h

namespace Store

variable {σ ω : Type} [Slot σ ω] {store : Store} {key : Key} {entry : Entry} {slots : List σ}

theorem strict_of_sound (hstrict : store.config.policy = .strict)
    (hentry : store.entry? key = some entry) {shared : ω}
    (hsound : entry.judge key store.config.checkLayout (entry.read (Slot.kinds slots shared))
      (Slot.kinds slots shared) = .sound) :
    let written := Slot.restoreAll slots (entry.read (Slot.kinds slots shared)).fields shared
    store.restore key slots shared =
      ⟨.ok (.restored entry.data.length), written.1, written.2,
        [.restored key slots.length], 0⟩ := by
  rw [restore_strict hstrict hentry, Entry.restoreStrict_eq]
  simp only [hsound]
  rfl

theorem strict_of_not_sound (hstrict : store.config.policy = .strict)
    (hentry : store.entry? key = some entry) {shared : ω}
    (hnot : entry.judge key store.config.checkLayout (entry.read (Slot.kinds slots shared))
      (Slot.kinds slots shared) ≠ .sound) :
    (∃ error, (store.restore key slots shared).result = .error error) ∧
      (store.restore key slots shared).slots = slots ∧
      (store.restore key slots shared).shared = shared ∧
      (store.restoreNoted key slots shared).shared.1 = [] := by
  have hnotes : (store.restoreNoted key slots shared).shared.1 = [] := by
    rw [notes_dealt, told_of_strict hstrict]
    simp only [dealt, hentry, hstrict, if_neg hnot, List.mapIdx_nil]
  rw [restore_strict hstrict hentry, Entry.restoreStrict_eq]
  simp only [if_neg hnot, hnotes, and_true]
  exact Verdict.result_of_ne_sound hnot

/-- Strict restoring is all or nothing. Either every slot is restored once, in order, with the
field read for it, or the call restores no slot: it misses, or the bytes under the key are no fields
of the kinds of the slots or their layout is another, and it fails. -/
theorem strict_all_or_nothing {store : Store} (hstrict : store.config.policy = .strict)
    (key : Key) (slots : List σ) (shared : ω) :
    let kinds := Slot.kinds slots shared
    let reply := (store.cache .restore key slots shared).1
    let noted := store.restoreNoted key slots shared
    Noted.Mirrors noted reply ∧
    ((∃ entry fields, store.entry? key = some entry ∧
        entry.read kinds = ⟨fields, entry.data.length, none⟩ ∧
        fields.map Field.kind = kinds ∧ ¬ store.LayoutDiffers entry kinds ∧
        reply.result = .ok (.restored entry.data.length) ∧
        Slot.Handed slots fields shared reply.slots reply.shared ∧
        noted.shared.1 = fields.mapIdx Note.mk) ∨
      (store.entry? key = none ∧ reply.result = .ok .miss ∨
        ∃ entry error, store.entry? key = some entry ∧
          ((¬ ∃ fields, Spells kinds fields entry.data) ∨ store.LayoutDiffers entry kinds) ∧
          reply.result = .error error) ∧
        reply.slots = slots ∧ reply.shared = shared ∧ noted.shared.1 = []) := by
  intro kinds reply noted
  refine ⟨restoreNoted_mirrors store key slots shared, ?_⟩
  cases hentry : store.entry? key with
  | none =>
    right
    have hreply : reply = ⟨.ok .miss, slots, shared, _, 0⟩ := restore_of_absent hentry slots shared
    have hnotes : noted.shared.1 = [] := by
      rw [notes_dealt, dealt, hentry, List.mapIdx_nil]
    exact ⟨.inl ⟨rfl, congrArg Reply.result hreply⟩, congrArg Reply.slots hreply,
      congrArg Reply.shared hreply, hnotes⟩
  | some entry =>
    by_cases hsound : entry.judge key store.config.checkLayout (entry.read kinds) kinds = .sound
    · left
      obtain ⟨⟨fields, hspells⟩, hsame⟩ := Entry.judge_eq_sound_iff.mp hsound
      have hread : entry.read kinds = ⟨fields, entry.data.length, none⟩ :=
        Cursor.read_of_spells List.prefix_rfl hspells
      have hreply : reply = _ := strict_of_sound hstrict hentry hsound
      rw [hread] at hreply
      have hlen : slots.length = fields.length := by
        rw [← Slot.length_kinds slots shared]
        exact hspells.length_eq.symm
      have hnotes : noted.shared.1 = fields.mapIdx Note.mk := by
        rw [notes_dealt, told_of_strict hstrict]
        change (store.dealt key kinds).mapIdx Note.mk = _
        rw [hread] at hsound
        simp only [dealt, hentry, hstrict, hread, if_pos hsound]
      refine ⟨entry, fields, rfl, hread, hspells.kinds_eq, hsame, congrArg Reply.result hreply, ?_,
        hnotes⟩
      rw [hreply]
      exact Slot.handed_restoreAll hlen shared
    · right
      obtain ⟨⟨error, herror⟩, hslots, hshared, hnotes⟩ :=
        strict_of_not_sound hstrict hentry hsound
      have hcause := hsound
      rw [Entry.judge_eq_sound_iff, not_and_or, not_not] at hcause
      exact ⟨.inr ⟨entry, error, rfl, hcause, herror⟩, hslots, hshared, hnotes⟩

/-- Where the bytes are fields of their kinds all three slots are written; where two fields read
well and the third is malformed no slot has been touched. -/
theorem whole_entry_or_nothing :
    let store (data : Bytes) := (empty { policy := .strict, checkLayout := false }).insert ⟨"k"⟩
      ⟨0, data⟩
    let slots := [Place.cell (.bool false), .custom (.text "old") none, .cell (.texts ["old"])]
    let whole := store [1, 2, 0, 0, 0, 104, 105, 1, 0, 0, 0, 2, 0, 0, 0, 195, 169]
    let malformed := store [1, 2, 0, 0, 0, 104, 105, 1, 0, 0, 0, 2, 0, 0, 0, 195, 40]
    (whole.config.policy = .strict ∧
      (whole.cache .restore ⟨"k"⟩ slots []).1.result = .ok (.restored 17) ∧
      (whole.restoreNoted ⟨"k"⟩ slots []).shared.1 =
        [⟨0, .scalar [1]⟩, ⟨1, .text "hi"⟩, ⟨2, .texts ["é"]⟩]) ∧
    malformed.config.policy = .strict ∧
      (malformed.cache .restore ⟨"k"⟩ slots []).1.result =
        .error (.decode "slot 2 of 'k' holds invalid UTF-8") ∧
      (malformed.cache .restore ⟨"k"⟩ slots []).1.slots = slots ∧
      (malformed.restoreNoted ⟨"k"⟩ slots []).shared.1 = [] := by
  intro store slots whole malformed
  have hwhole : (whole.cache .restore ⟨"k"⟩ slots []).1.result = .ok (.restored 17) := by decide
  have hmalformed : (malformed.cache .restore ⟨"k"⟩ slots []).1.result =
      .error (.decode "slot 2 of 'k' holds invalid UTF-8") := by
    decide
  have hstrict : whole.config.policy = .strict := rfl
  have hstrict' : malformed.config.policy = .strict := rfl
  refine ⟨⟨hstrict, hwhole, ?_⟩, hstrict', hmalformed, ?_⟩
  · rcases (strict_all_or_nothing hstrict ⟨"k"⟩ slots []).2 with hall | ⟨hnone, -⟩
    · obtain ⟨entry, fields, hentry, hread, -, -, -, -, hnotes⟩ := hall
      rw [show whole.entry? ⟨"k"⟩ = some _ from entry_insert_self _ _ _] at hentry
      cases hentry
      obtain rfl : [.scalar [1], .text "hi", .texts ["é"]] = fields :=
        (by decide : _ = _).trans (congrArg Reading.fields hread)
      exact hnotes
    · rcases hnone with ⟨-, hmiss⟩ | ⟨entry, error, -, -, herror⟩
      · rw [hwhole] at hmiss
        cases hmiss
      · rw [hwhole] at herror
        cases herror
  · rcases (strict_all_or_nothing hstrict' ⟨"k"⟩ slots []).2 with hall | ⟨-, hslots, -, hnotes⟩
    · obtain ⟨entry, fields, -, -, -, -, hrestored, -⟩ := hall
      rw [hmalformed] at hrestored
      cases hrestored
    · exact ⟨hslots, hnotes⟩

end Store
end Repaint
