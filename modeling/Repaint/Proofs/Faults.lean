import Repaint.Proofs.Canonical
import Repaint.Proofs.Demand

/-!
How a reading ends in a fault. The fields before the fault spell the bytes before it, and what
stands there does not begin with a field of the kind in its place. A fault that asks for bytes asks
for more than are left, and it never counts bytes that are not in the buffer.
-/

set_option autoImplicit false

namespace Repaint

/-- No more bytes are said to be left than there are, and too few for what is needed. -/
def Fault.Within (length : Nat) : Fault → Prop
  | underrun needed remaining => remaining < needed ∧ remaining ≤ length
  | malformedText => True

theorem Fault.Within.mono {fault : Fault} {length length' : Nat} (h : fault.Within length)
    (hle : length ≤ length') : fault.Within length' := by
  cases fault with
  | underrun needed remaining => exact ⟨h.1, Nat.le_trans h.2 hle⟩
  | malformedText => trivial

theorem Demand.Refused.within {demand : Demand} {ahead : Bytes} {fault : Fault}
    (h : demand.Refused ahead fault) : fault.Within ahead.length := by
  cases h with
  | short hshort => exact ⟨hshort, Nat.le_refl _⟩
  | malformed after hcontent => trivial

/-- The fault counts what is left after the demands before it. -/
theorem Kind.decode_within {kind : Kind} {bs : Bytes} {fault : Fault}
    (h : kind.decode bs = .error fault) : fault.Within bs.length := by
  obtain ⟨front, ahead, demand, rfl, -, hrefused⟩ := Kind.decode_eq_error_iff.mp h
  exact hrefused.within.mono (by simp)

namespace Cursor

theorem next_eq_error_iff {c c' : Cursor} {kind : Kind} {fault : Fault} :
    c.next kind = (.error fault, c') ↔ kind.decode c.rest = .error fault ∧ c' = c := by
  unfold next
  split
  · rename_i fault' hdecode
    rw [hdecode]
    constructor
    · intro h
      cases h
      exact ⟨rfl, rfl⟩
    · rintro ⟨hfault, rfl⟩
      cases hfault
      rfl
  · rename_i field rest hdecode
    rw [hdecode]
    exact ⟨nofun, nofun⟩

theorem not_offers_of_decode {c : Cursor} {kind : Kind} {fault : Fault}
    (h : kind.decode c.rest = .error fault) : ¬ c.Offers kind := by
  intro hoffers
  obtain ⟨field, c', hnext⟩ := (next_ok_iff_offers c kind).mpr hoffers
  rw [next_eq_error_iff.mpr ⟨h, rfl⟩] at hnext
  cases hnext

theorem buffer_next (c : Cursor) (kind : Kind) : (c.next kind).2.buffer = c.buffer := by
  unfold next
  split <;> rfl

/-- A reading without a fault goes on with the kinds after it from where it ended. -/
theorem read_append {c : Cursor} {kinds kinds' : List Kind} {fields fields' : List Field}
    {offset offset' : Nat} {fault? : Option Fault} (h : c.read kinds = ⟨fields, offset, none⟩)
    (h' : (Cursor.mk c.buffer offset).read kinds' = ⟨fields', offset', fault?⟩) :
    c.read (kinds ++ kinds') = ⟨fields ++ fields', offset', fault?⟩ := by
  induction kinds generalizing c fields with
  | nil =>
    cases h
    exact h'
  | cons kind kinds ih =>
    rw [read] at h
    rw [List.cons_append, read]
    have hbuffer := c.buffer_next kind
    split at h
    · cases h
    · rename_i field c' hnext
      rw [hnext] at hbuffer
      cases hread : c'.read kinds with
      | mk fields' offset' fault? =>
        rw [hread] at h
        cases h
        rw [← show c'.buffer = c.buffer from hbuffer] at h'
        simp only [ih hread h', List.cons_append]

/-- By induction on the kinds, a reading that ends in a fault ends where the kind after the fields
read cannot be read. -/
theorem refused_of_read {c : Cursor} {kinds : List Kind} {fields : List Field} {offset : Nat}
    {fault : Fault} (h : c.read kinds = ⟨fields, offset, some fault⟩) :
    ∃ kind, kinds[fields.length]? = some kind ∧
      kind.decode (c.buffer.drop offset) = .error fault := by
  induction kinds generalizing c fields with
  | nil => cases h
  | cons kind kinds ih =>
    rw [read] at h
    have hbuffer := c.buffer_next kind
    split at h
    · rename_i fault' c' hnext
      cases h
      obtain ⟨hdecode, rfl⟩ := next_eq_error_iff.mp hnext
      exact ⟨kind, rfl, hdecode⟩
    · rename_i field c' hnext
      rw [hnext] at hbuffer
      cases hread : c'.read kinds with
      | mk fields' offset' fault? =>
        rw [hread] at h
        cases h
        obtain ⟨kind', hkind, hdecode⟩ := ih hread
        rw [show c'.buffer = c.buffer from hbuffer] at hdecode
        exact ⟨kind', hkind, hdecode⟩

/-- A reading ends in a fault just where its fields spell the bytes before, and the kind in the next
place cannot be read from those after. -/
theorem read_eq_fault_iff {data : Bytes} {kinds : List Kind} {fields : List Field} {offset : Nat}
    {fault : Fault} :
    (start data).read kinds = ⟨fields, offset, some fault⟩ ↔
      offset ≤ data.length ∧ Spells (kinds.take fields.length) fields (data.take offset) ∧
        ∃ kind, kinds[fields.length]? = some kind ∧
          kind.decode (data.drop offset) = .error fault := by
  constructor
  · intro h
    have hfound := found_start data kinds
    rw [h] at hfound
    obtain ⟨front, hfront, hoffset, hspells⟩ := hfound.spelled
    have hinitial : front <+: data := hfront
    obtain rfl : offset = front.length := hoffset.trans (Nat.zero_add _)
    rw [← List.prefix_iff_eq_take.mp hinitial]
    exact ⟨hinitial.length_le, hspells, refused_of_read h⟩
  · rintro ⟨hoffset, hspells, kind, hkind, hdecode⟩
    obtain ⟨hlt, hget⟩ := List.getElem?_eq_some_iff.mp hkind
    have hsplit : kinds = kinds.take fields.length ++ kind :: kinds.drop (fields.length + 1) := by
      rw [← hget, List.getElem_cons_drop, List.take_append_drop]
    have hread := read_of_spells (List.take_prefix offset data) hspells
    rw [List.length_take, Nat.min_eq_left hoffset] at hread
    have hfault : (Cursor.mk data offset).read (kind :: kinds.drop (fields.length + 1)) =
        ⟨[], offset, some fault⟩ := by
      have hnext : (Cursor.mk data offset).next kind = (.error fault, ⟨data, offset⟩) :=
        next_eq_error_iff.mpr ⟨hdecode, rfl⟩
      simp only [read, hnext]
    have hwhole := read_append hread hfault
    rwa [← hsplit, List.append_nil] at hwhole

end Cursor
end Repaint
