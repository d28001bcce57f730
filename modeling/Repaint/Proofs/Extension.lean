import Repaint.Proofs.Faults

/-!
Bytes added at the end of a buffer. They change nothing of a field that was read and do not mend a
malformed text; only a field that ran out of bytes may profit, and while its demand is still not met
it runs out as before. So a field that is cut short, be it within a character, is always told to be
short, never to be malformed, and never taken for another field.
-/

set_option autoImplicit false

namespace Repaint

namespace Demand

variable {demand : Demand} {ahead : Bytes} {needed remaining : Nat}

theorem Refused.malformed_append (h : demand.Refused ahead .malformedText) (more : Bytes) :
    demand.Refused (ahead ++ more) .malformedText := by
  cases h with
  | malformed after hcontent =>
    rw [List.append_assoc]
    exact .malformed (after ++ more) hcontent

theorem Refused.underrun_append (h : demand.Refused ahead (.underrun needed remaining))
    {more : Bytes} (hmore : remaining + more.length < needed) :
    demand.Refused (ahead ++ more) (.underrun needed (remaining + more.length)) := by
  obtain ⟨hneeded, hremaining, -⟩ := refused_underrun_iff.mp h
  refine refused_underrun_iff.mpr ⟨hneeded, ?_, hmore⟩
  rw [List.length_append, hremaining]

end Demand

namespace Kind

variable {kind : Kind} {bs : Bytes}

theorem decode_malformed_append (h : kind.decode bs = .error .malformedText) (more : Bytes) :
    kind.decode (bs ++ more) = .error .malformedText := by
  obtain ⟨front, ahead, demand, rfl, hdemands, hrefused⟩ := decode_eq_error_iff.mp h
  exact decode_eq_error_iff.mpr ⟨front, ahead ++ more, demand, List.append_assoc .., hdemands,
    hrefused.malformed_append more⟩

theorem decode_underrun_append {needed remaining : Nat}
    (h : kind.decode bs = .error (.underrun needed remaining)) {more : Bytes}
    (hmore : remaining + more.length < needed) :
    kind.decode (bs ++ more) = .error (.underrun needed (remaining + more.length)) := by
  obtain ⟨front, ahead, demand, rfl, hdemands, hrefused⟩ := decode_eq_error_iff.mp h
  exact decode_eq_error_iff.mpr ⟨front, ahead ++ more, demand, List.append_assoc .., hdemands,
    hrefused.underrun_append hmore⟩

theorem lt_of_decode_underrun {needed remaining : Nat}
    (h : kind.decode bs = .error (.underrun needed remaining)) : remaining < needed := by
  obtain ⟨front, ahead, demand, -, -, hrefused⟩ := decode_eq_error_iff.mp h
  exact (Demand.refused_underrun_iff.mp hrefused).2.2

end Kind

namespace Cursor

/-- The same position in a longer buffer. -/
def extend (c : Cursor) (more : Bytes) : Cursor := { c with buffer := c.buffer ++ more }

variable {c : Cursor} {kind : Kind}

theorem rest_extend (hc : c.offset ≤ c.buffer.length) (more : Bytes) :
    (c.extend more).rest = c.rest ++ more :=
  List.drop_append_of_le_length hc

theorem offset_le_extend (hc : c.offset ≤ c.buffer.length) (more : Bytes) :
    (c.extend more).offset ≤ (c.extend more).buffer.length := by
  show c.offset ≤ (c.buffer ++ more).length
  rw [List.length_append]
  exact Nat.le_add_right_of_le hc

theorem next_extend {c' : Cursor} {field : Field} (hc : c.offset ≤ c.buffer.length)
    (h : c.next kind = (.ok field, c')) (more : Bytes) :
    (c.extend more).next kind = (.ok field, c'.extend more) := by
  obtain ⟨rfl, hfits, hrest, rfl⟩ := next_eq_ok hc h
  refine next_of_prefix (offset_le_extend hc more) hfits ?_
  rw [rest_extend hc, hrest, List.append_assoc]
  exact List.prefix_append _ _

/-- A part of a field is not the whole of another: with the missing bytes after it, it would still
be read as that other field, and not to the end. -/
theorem next_of_part {field : Field} (hfits : field.Fits) {part : Bytes}
    (hpart : part <+: field.write []) (hproper : part ≠ field.write []) (front : Bytes) :
    let c : Cursor := ⟨front ++ part, front.length⟩
    ∃ needed remaining, c.next field.kind = (.error (.underrun needed remaining), c) := by
  intro c
  rw [Field.write_nil] at hpart hproper
  obtain ⟨missing, hmissing⟩ := hpart
  have hc : c.offset ≤ c.buffer.length := by simp [c]
  have hwhole : (c.extend missing).next field.kind =
      (.ok field, ⟨(c.extend missing).buffer, front.length + field.encode.length⟩) := by
    refine next_of_prefix (offset_le_extend hc missing) hfits ?_
    rw [rest_extend hc, rest_append, hmissing]
  cases hnext : c.next field.kind with
  | mk result c' =>
    cases result with
    | ok other =>
      have hend := offset_le_of_next hc hnext
      have hlonger := next_extend hc hnext missing
      rw [hwhole] at hlonger
      have hoffset : front.length + field.encode.length = c'.offset :=
        congrArg (fun read => read.2.offset) hlonger
      have hbuffer : c'.buffer = front ++ part := (next_eq_ok hc hnext).2.2.2 ▸ rfl
      rw [hbuffer, ← hoffset, List.length_append, ← hmissing, List.length_append] at hend
      have hnone : missing = [] := List.eq_nil_of_length_eq_zero (by omega)
      rw [hnone, List.append_nil] at hmissing
      exact absurd hmissing hproper
    | error fault =>
      obtain ⟨hdecode, rfl⟩ := next_eq_error_iff.mp hnext
      cases fault with
      | underrun needed remaining => exact ⟨needed, remaining, rfl⟩
      | malformedText =>
        have hlonger := Kind.decode_malformed_append hdecode missing
        rw [← rest_extend hc] at hlonger
        rw [next_eq_error_iff.mpr ⟨hlonger, rfl⟩] at hwhole
        cases hwhole

/-- A longer buffer gives the same field and the same end, or the same malformed text. Where bytes
were missing it makes good for them only if it brings them all; until then the demand stands, and
just the bytes left are more. Cut anywhere, a field is short: it is not read, nor is it malformed.
-/
theorem suffix_mends_underrun_alone (hc : c.offset ≤ c.buffer.length) (kind : Kind)
    (more : Bytes) :
    (∀ field c', c.next kind = (.ok field, c') →
      (c.extend more).next kind = (.ok field, c'.extend more)) ∧
    (∀ c', c.next kind = (.error .malformedText, c') →
      (c.extend more).next kind = (.error .malformedText, c.extend more)) ∧
    (∀ needed remaining c', c.next kind = (.error (.underrun needed remaining), c') →
      remaining < needed ∧
        (more.length < needed - remaining →
          (c.extend more).next kind =
            (.error (.underrun needed (remaining + more.length)), c.extend more))) ∧
    ∀ (field : Field) (front part : Bytes), field.Fits → part <+: field.write [] →
      part ≠ field.write [] →
      ∃ needed remaining, (Cursor.mk (front ++ part) front.length).next field.kind =
        (.error (.underrun needed remaining), ⟨front ++ part, front.length⟩) := by
  refine ⟨fun field c' hnext => next_extend hc hnext more, ?_, ?_, ?_⟩
  · intro c' hnext
    have hdecode := (next_eq_error_iff.mp hnext).1
    refine next_eq_error_iff.mpr ⟨?_, rfl⟩
    rw [rest_extend hc]
    exact Kind.decode_malformed_append hdecode more
  · intro needed remaining c' hnext
    have hdecode := (next_eq_error_iff.mp hnext).1
    refine ⟨Kind.lt_of_decode_underrun hdecode, ?_⟩
    intro hmore
    refine next_eq_error_iff.mpr ⟨?_, rfl⟩
    rw [rest_extend hc]
    exact Kind.decode_underrun_append hdecode (by omega)
  · intro field front part hfits hpart hproper
    exact next_of_part hfits hpart hproper front

/-- The second entry of a list is cut within a character of three bytes: with one more byte one
less is missing, and the text is not called malformed. -/
theorem character_cut_short :
    let c : Cursor := ⟨[9, 2, 0, 0, 0, 1, 0, 0, 0, 97, 3, 0, 0, 0, 226], 1⟩
    (c.offset ≤ c.buffer.length ∧ c.next .texts = (.error (.underrun 3 1), c)) ∧
    (c.extend [130]).next .texts = (.error (.underrun 3 2), c.extend [130]) ∧
    ∃ needed remaining, (Cursor.mk ([9] ++ [2, 0, 0, 0, 1, 0, 0, 0, 97, 3, 0, 0, 0, 226]) 1).next
        .texts = (.error (.underrun needed remaining), c) := by
  intro c
  have hc : c.offset ≤ c.buffer.length := by decide
  have hcut : c.next .texts = (.error (.underrun 3 1), c) := by decide
  obtain ⟨-, -, hmissing, hpart⟩ := suffix_mends_underrun_alone hc .texts [130]
  refine ⟨⟨hc, hcut⟩, (hmissing 3 1 c hcut).2 (by decide), ?_⟩
  exact hpart (.texts ["a", "€"]) [9] [2, 0, 0, 0, 1, 0, 0, 0, 97, 3, 0, 0, 0, 226]
    (by decide) ⟨[130, 172], by decide⟩ (by decide)

end Cursor
end Repaint
