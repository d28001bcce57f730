import Repaint.Proofs.Wire

/-!
What a reading asks for. A field is read by one demand after another, each for some number of bytes
at once: the length of a text and then its body, the count of a list and then its texts. The bytes
read so far decide the next demand, and a field cannot be read exactly where a demand meets too few
bytes, or a body that is not UTF-8. What a demand would have led to is left open.
-/

set_option autoImplicit false

namespace Repaint

/-- A number of bytes asked for at once. -/
inductive Demand where
  | bytes (size : Nat)
  /-- The body of a text, which is looked at when all of it is there. -/
  | body (size : Nat)
  deriving DecidableEq

namespace Demand

def size : Demand → Nat
  | bytes n => n
  | body n => n

/-- The bytes ahead do not meet the demand, and this is the fault they make. -/
inductive Refused : Demand → Bytes → Fault → Prop
  | short {demand : Demand} {ahead : Bytes} :
      ahead.length < demand.size → Refused demand ahead (.underrun demand.size ahead.length)
  | malformed {content : Bytes} (after : Bytes) :
      Text.ofBytes? content = none → Refused (body content.length) (content ++ after) .malformedText

end Demand

/-- Once `front` of a field of the kind has been read, this is demanded next. -/
inductive Kind.Demands : Kind → Bytes → Demand → Prop
  | scalar (width : Nat) : Demands (.scalar width) [] (.bytes width)
  | length : Demands .text [] (.bytes Wire.countWidth)
  | body {n : Nat} : n < 2 ^ 32 → Demands .text (Wire.ofCount n) (.body n)
  | count : Demands .texts [] (.bytes Wire.countWidth)
  | entry {n : Nat} {entries : List String} {front : Bytes} {demand : Demand} :
      n < 2 ^ 32 → entries.length < n → (∀ s ∈ entries, s.utf8ByteSize < 2 ^ 32) →
      Demands .text front demand →
      Demands .texts (Wire.ofCount n ++ (entries.flatMap Wire.ofText ++ front)) demand

theorem Demand.refused_underrun_iff {demand : Demand} {ahead : Bytes} {needed remaining : Nat} :
    demand.Refused ahead (.underrun needed remaining) ↔
      needed = demand.size ∧ remaining = ahead.length ∧ remaining < needed := by
  constructor
  · intro h
    cases h with
    | short hshort => exact ⟨rfl, rfl, hshort⟩
  · rintro ⟨rfl, rfl, hshort⟩
    exact .short hshort

namespace Kind

/-- The bytes that reading a kind asks for first. -/
def leadingWidth : Kind → Nat
  | scalar width => width
  | text => Wire.countWidth
  | texts => Wire.countWidth

theorem demands_leading (kind : Kind) : kind.Demands [] (.bytes kind.leadingWidth) := by
  cases kind with
  | scalar width => exact .scalar width
  | text => exact .length
  | texts => exact .count

end Kind

namespace Wire

theorem take_eq_error_iff {n : Nat} {bs : Bytes} {fault : Fault} :
    take n bs = .error fault ↔ bs.length < n ∧ fault = .underrun n bs.length := by
  unfold take
  by_cases hn : (bs.take n).length = n
  · rw [if_pos hn]
    rw [List.length_take] at hn
    exact ⟨nofun, fun h => by omega⟩
  · rw [if_neg hn, Except.error.injEq]
    rw [List.length_take] at hn
    exact ⟨fun h => ⟨by omega, h.symm⟩, fun h => h.2.symm⟩

theorem readCount_eq_error_iff {bs : Bytes} {fault : Fault} :
    readCount bs = .error fault ↔
      bs.length < countWidth ∧ fault = .underrun countWidth bs.length := by
  rw [← take_eq_error_iff, readCount]
  split
  · rename_i fault' htake
    rw [htake, Except.error.injEq, Except.error.injEq]
  · rename_i head rest htake
    rw [htake]
    exact ⟨nofun, nofun⟩

theorem readText_eq_error_iff {bs : Bytes} {fault : Fault} :
    readText bs = .error fault ↔ ∃ front ahead demand,
      bs = front ++ ahead ∧ Kind.text.Demands front demand ∧ demand.Refused ahead fault := by
  constructor
  · intro h
    unfold readText at h
    split at h
    · rename_i fault' hcount
      cases h
      obtain ⟨hshort, rfl⟩ := readCount_eq_error_iff.mp hcount
      exact ⟨[], bs, .bytes countWidth, rfl, .length, .short hshort⟩
    · rename_i n rest hcount
      obtain ⟨hn, rfl⟩ := readCount_eq_ok_iff.mp hcount
      refine ⟨ofCount n, rest, .body n, rfl, .body hn, ?_⟩
      split at h
      · rename_i fault' htake
        cases h
        obtain ⟨hshort, rfl⟩ := take_eq_error_iff.mp htake
        exact .short hshort
      · rename_i content after htake
        obtain ⟨rfl, rfl⟩ := take_eq_ok_iff.mp htake
        split at h
        · rename_i hcontent
          cases h
          exact .malformed after hcontent
        · cases h
  · rintro ⟨front, ahead, demand, rfl, hdemands, hrefused⟩
    cases hdemands with
    | length =>
      cases hrefused with
      | short hshort =>
        have hcount := readCount_eq_error_iff.mpr ⟨hshort, rfl⟩
        simp only [List.nil_append, readText, hcount]
        rfl
    | body hn =>
      rename_i n
      have hcount : readCount (ofCount n ++ ahead) = .ok (n, ahead) :=
        readCount_eq_ok_iff.mpr ⟨hn, rfl⟩
      simp only [readText, hcount]
      cases hrefused with
      | short hshort =>
        have htake : take n ahead = .error (.underrun n ahead.length) :=
          take_eq_error_iff.mpr ⟨hshort, rfl⟩
        simp only [htake]
        rfl
      | malformed after hcontent =>
        rename_i content
        have htake : take content.length (content ++ after) = .ok (content, after) :=
          take_eq_ok_iff.mpr ⟨rfl, rfl⟩
        simp only [htake, hcontent]

/-- By induction on the count: the entries in front have been read whole, and the next cannot be. -/
theorem readTexts_eq_error_iff {count : Nat} {bs : Bytes} {entries : List String}
    {fault : Fault} :
    readTexts count bs = (entries, .error fault) ↔
      entries.length < count ∧ (∀ s ∈ entries, s.utf8ByteSize < 2 ^ 32) ∧
        ∃ rest, bs = entries.flatMap ofText ++ rest ∧ readText rest = .error fault := by
  induction count generalizing bs entries with
  | zero => exact ⟨nofun, fun h => nomatch h.1⟩
  | succ count ih =>
    rw [readTexts]
    constructor
    · intro h
      split at h
      · rename_i fault' htext
        cases h
        exact ⟨Nat.succ_pos _, by simp, bs, rfl, htext⟩
      · rename_i s tail htext
        cases hmore : readTexts count tail with
        | mk more ending =>
          rw [hmore] at h
          cases h
          obtain ⟨hs, rfl⟩ := readText_eq_ok_iff.mp htext
          obtain ⟨hlen, hfits, rest, rfl, hrest⟩ := ih.mp hmore
          refine ⟨Nat.succ_lt_succ hlen, List.forall_mem_cons.mpr ⟨hs, hfits⟩, rest, ?_, hrest⟩
          rw [List.flatMap_cons, List.append_assoc]
    · rintro ⟨hlen, hfits, rest, rfl, hrest⟩
      cases entries with
      | nil => simp only [List.flatMap_nil, List.nil_append, hrest]
      | cons s more =>
        obtain ⟨hs, hmore⟩ := List.forall_mem_cons.mp hfits
        have htext : readText ((s :: more).flatMap ofText ++ rest) =
            .ok (s, more.flatMap ofText ++ rest) :=
          readText_eq_ok_iff.mpr ⟨hs, by rw [List.flatMap_cons, List.append_assoc]⟩
        have htail : readTexts count (more.flatMap ofText ++ rest) = (more, .error fault) :=
          ih.mpr ⟨Nat.lt_of_succ_lt_succ hlen, hmore, rest, rfl, hrest⟩
        simp only [htext, htail]

end Wire

namespace Kind

variable {bs : Bytes} {fault : Fault}

private theorem decode_scalar_eq_error_iff {width : Nat} :
    (scalar width).decode bs = .error fault ↔ ∃ front ahead demand,
      bs = front ++ ahead ∧ (scalar width).Demands front demand ∧ demand.Refused ahead fault := by
  simp only [decode]
  constructor
  · intro h
    split at h
    · rename_i fault' htake
      cases h
      obtain ⟨hshort, rfl⟩ := Wire.take_eq_error_iff.mp htake
      exact ⟨[], bs, .bytes width, rfl, .scalar width, .short hshort⟩
    · cases h
  · rintro ⟨front, ahead, demand, rfl, hdemands, hrefused⟩
    cases hdemands
    cases hrefused with
    | short hshort =>
      have htake : Wire.take width ahead = .error (.underrun width ahead.length) :=
        Wire.take_eq_error_iff.mpr ⟨hshort, rfl⟩
      simp only [List.nil_append, htake]
      rfl

private theorem decode_text_eq_error_iff :
    text.decode bs = .error fault ↔ Wire.readText bs = .error fault := by
  simp only [decode]
  split
  · rename_i fault' htext
    rw [htext, Except.error.injEq, Except.error.injEq]
  · rename_i content rest htext
    simp only [htext, reduceCtorEq]

/-- The count fails, or the text after some entries does. -/
private theorem decode_texts_eq_error_iff :
    texts.decode bs = .error fault ↔ ∃ front ahead demand,
      bs = front ++ ahead ∧ texts.Demands front demand ∧ demand.Refused ahead fault := by
  simp only [decode]
  constructor
  · intro h
    split at h
    · rename_i fault' hcount
      cases h
      obtain ⟨hshort, rfl⟩ := Wire.readCount_eq_error_iff.mp hcount
      exact ⟨[], bs, .bytes Wire.countWidth, rfl, .count, .short hshort⟩
    · rename_i n rest hcount
      obtain ⟨hn, rfl⟩ := Wire.readCount_eq_ok_iff.mp hcount
      split at h
      · rename_i entries fault' htexts
        cases h
        obtain ⟨hlen, hfits, tail, rfl, htext⟩ := Wire.readTexts_eq_error_iff.mp htexts
        obtain ⟨front, ahead, demand, rfl, hdemands, hrefused⟩ :=
          Wire.readText_eq_error_iff.mp htext
        refine ⟨_, ahead, demand, ?_, .entry hn hlen hfits hdemands, hrefused⟩
        simp only [List.append_assoc]
      · cases h
  · rintro ⟨front, ahead, demand, rfl, hdemands, hrefused⟩
    cases hdemands with
    | count =>
      cases hrefused with
      | short hshort =>
        have hcount := Wire.readCount_eq_error_iff.mpr ⟨hshort, rfl⟩
        simp only [List.nil_append, hcount]
        rfl
    | entry hn hlen hfits hentry =>
      rename_i n entries front
      have hcount : Wire.readCount
          (Wire.ofCount n ++ (entries.flatMap Wire.ofText ++ (front ++ ahead))) =
            .ok (n, entries.flatMap Wire.ofText ++ (front ++ ahead)) :=
        Wire.readCount_eq_ok_iff.mpr ⟨hn, rfl⟩
      have htext : Wire.readText (front ++ ahead) = .error fault :=
        Wire.readText_eq_error_iff.mpr ⟨front, ahead, demand, rfl, hentry, hrefused⟩
      have htexts := Wire.readTexts_eq_error_iff.mpr ⟨hlen, hfits, _, rfl, htext⟩
      simp only [List.append_assoc, hcount, htexts]

/-- A field cannot be read exactly where a demand on the way is refused, and the fault is that of
the demand. -/
theorem decode_eq_error_iff {kind : Kind} :
    kind.decode bs = .error fault ↔ ∃ front ahead demand,
      bs = front ++ ahead ∧ kind.Demands front demand ∧ demand.Refused ahead fault := by
  cases kind with
  | scalar width => exact decode_scalar_eq_error_iff
  | text => exact decode_text_eq_error_iff.trans Wire.readText_eq_error_iff
  | texts => exact decode_texts_eq_error_iff

/-- Of all kinds only a scalar of no width can be read where no bytes are left. -/
theorem decode_nil {kind : Kind} (h : kind ≠ .scalar 0) :
    kind.decode [] = .error (.underrun kind.leadingWidth 0) := by
  have hpos : 0 < kind.leadingWidth := by
    cases kind with
    | scalar width => exact Nat.pos_of_ne_zero fun hzero => h (congrArg Kind.scalar hzero)
    | text => decide
    | texts => decide
  exact decode_eq_error_iff.mpr ⟨[], [], _, rfl, kind.demands_leading, .short hpos⟩

end Kind

end Repaint
