import Repaint.Proofs.Cell
import Repaint.Proofs.Permissive

/-!
Where the bytes run out. A restore that runs out of bytes says where the field begins and how many
bytes are left, but it counts these from the demand that was not met. The two belong to one position
only if that was the first demand of the field, as it always is of a scalar; else the lengths,
counts and entries that could be read stand between them. How the entry was saved is left open. The
kind that is read by is the one the slot tells the call when its turn comes.
-/

set_option autoImplicit false

namespace Repaint

/-- A demand is the first of its field, or a length or a count stands before it. -/
theorem Kind.Demands.leading_or_counted {kind : Kind} {front : Bytes} {demand : Demand}
    (h : kind.Demands front demand) :
    front = [] ∧ demand = .bytes kind.leadingWidth ∨
      (∀ width, kind ≠ .scalar width) ∧ kind.leadingWidth ≤ front.length := by
  cases h with
  | scalar width => exact .inl ⟨rfl, rfl⟩
  | length => exact .inl ⟨rfl, rfl⟩
  | body hn =>
    rename_i n
    exact .inr ⟨nofun, Nat.le_of_eq (Wire.length_ofCount n).symm⟩
  | count => exact .inl ⟨rfl, rfl⟩
  | entry hn hlen hfits hentry =>
    refine .inr ⟨nofun, ?_⟩
    rw [List.length_append, Wire.length_ofCount]
    exact Nat.le_add_right _ _

namespace Store

variable {σ ω : Type} [Slot σ ω] {store : Store} {key key' : Key} {slots : List σ} {shared : ω}
  {slot offset needed remaining : Nat}

/-- The slot's field begins at the offset, and it cannot be read from there. -/
theorem decode_of_underrun
    (h : (store.restore key slots shared).result =
      .error (.underrun key' slot offset needed remaining)) :
    key' = key ∧ ∃ data kind, store.get? key = some data ∧ offset ≤ data.length ∧
      (store.told key slots shared)[slot]? = some kind ∧
      kind.decode (data.drop offset) = .error (.underrun needed remaining) := by
  obtain ⟨entry, hentry, ⟨-, hdrift⟩ | ⟨fault, hfault, herror⟩⟩ := restore_eq_error h
  · cases hdrift
  · cases fault with
    | malformedText => cases herror
    | underrun needed' remaining' =>
      cases herror
      obtain ⟨hoffset, -, kind, hkind, hdecode⟩ := Entry.read_to_fault hfault
      exact ⟨rfl, entry.data, kind, get_of_entry hentry, hoffset, hkind, hdecode⟩

/-- The offset told is where the field of the slot begins. From there some part of the field could
be read, the demand after it asks for more bytes than follow, and how many do follow is what is told
to remain. So the bytes from the offset on are as many as remain just if the first demand fails,
which for a scalar there is no other than. -/
theorem underrun_counted_from_demand
    (h : (store.cache .restore key slots shared).1.result =
      .error (.underrun key' slot offset needed remaining)) :
    key' = key ∧ ∃ data kind front demand, store.get? key = some data ∧
      (store.told key slots shared)[slot]? = some kind ∧
      front <+: data.drop offset ∧ kind.Demands front demand ∧
      needed = demand.size ∧ remaining < needed ∧
      offset + front.length + remaining = data.length ∧
      (offset + remaining = data.length ↔ data.length < offset + kind.leadingWidth) ∧
      ∀ width, kind = .scalar width → offset + remaining = data.length := by
  obtain ⟨hkey, data, kind, hdata, hoffset, hkind, hdecode⟩ := decode_of_underrun h
  obtain ⟨front, ahead, demand, hbytes, hdemands, hrefused⟩ := Kind.decode_eq_error_iff.mp hdecode
  obtain ⟨hneeded, hremaining, hshort⟩ := Demand.refused_underrun_iff.mp hrefused
  have hlen : offset + front.length + remaining = data.length := by
    have hdrop := congrArg List.length hbytes
    rw [List.length_drop, List.length_append] at hdrop
    omega
  refine ⟨hkey, data, kind, front, demand, hdata, hkind, ⟨ahead, hbytes.symm⟩, hdemands, hneeded,
    hshort, hlen, ?_⟩
  rcases hdemands.leading_or_counted with ⟨rfl, rfl⟩ | ⟨hcounted, hfront⟩
  · have hsize : needed = kind.leadingWidth := hneeded
    have hall : offset + remaining = data.length := by rwa [List.length_nil] at hlen
    exact ⟨⟨fun _ => by omega, fun _ => hall⟩, fun _ _ => hall⟩
  · have hpos : 0 < kind.leadingWidth := by
      cases kind with
      | scalar width => exact absurd rfl (hcounted width)
      | text => decide
      | texts => decide
    exact ⟨by omega, fun width hscalar => absurd hscalar (hcounted width)⟩

/-- The second text of a list says nine bytes and has one. It is told to remain at the offset where
the list begins, fourteen bytes before it. -/
theorem list_underrun_counted_from_entry :
    let data := [1, 2, 0, 0, 0, 1, 0, 0, 0, 97, 9, 0, 0, 0, 98]
    let store := (empty {}).insert ⟨"k"⟩ ⟨0, data⟩
    let slots := [Place.cell (.bool false), .cell (.texts ["old"])]
    (store.cache .restore ⟨"k"⟩ slots []).1.result = .error (.underrun ⟨"k"⟩ 1 1 9 1) ∧
      ∃ front demand, front <+: data.drop 1 ∧ Kind.texts.Demands front demand ∧
        demand.size = 9 ∧ 1 + front.length + 1 = data.length := by
  intro data store slots
  have hresult : (store.cache .restore ⟨"k"⟩ slots []).1.result =
      .error (.underrun ⟨"k"⟩ 1 1 9 1) := by decide
  obtain ⟨-, data', kind, front, demand, hdata, hkind, hfront, hdemands, hneeded, -, hlen, -⟩ :=
    underrun_counted_from_demand hresult
  obtain rfl : data = data' := Option.some.inj hdata
  rw [Place.told] at hkind
  obtain rfl : Kind.texts = kind := Option.some.inj hkind
  exact ⟨hresult, front, demand, hfront, hdemands, hneeded.symm, hlen⟩

/-- What is told to remain does not lie at the offset. A number read as a text is taken for its
length; no byte is said to remain at an offset where four do. -/
theorem text_underrun_misplaced :
    let store := ((empty {}).cache .capture ⟨"k"⟩
      [Place.cell (.number (Number.ofInt .int32 1))] []).2
    let told := CacheError.underrun ⟨"k"⟩ 0 0 1 0
    (store.cache .restore ⟨"k"⟩ [Place.cell (.text "old")] []).1.result = .error told ∧
      told.message = "Cached buffer for key 'k' is corrupt or does not match the slot list: " ++
        "slot 0 needs 1 bytes at offset 0, but only 0 remain" ∧
      store.get? ⟨"k"⟩ = some [1, 0, 0, 0] ∧ 0 + 0 ≠ [1, 0, 0, 0].length := by
  intro store told
  refine ⟨by decide, by decide, by decide, by decide⟩

end Store
end Repaint
