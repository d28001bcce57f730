import Repaint.Error
import Repaint.Text.Decimal.Lemmas

/-!
Positions and their texts. Reading takes a number with a sign or with zeros in front and then
refuses every text but the one that is written for the position it found; what that leaves is told
here by the grammar of written integers. Hence a position is found again in its own key, and no
other text and no other position shares that key.
-/

set_option autoImplicit false

namespace Repaint

namespace Narrow

theorem int32?_toInt (n : Int32) : int32? n.toInt = some n := by
  have hrange : Int32.minValue.toInt ≤ n.toInt ∧ n.toInt ≤ Int32.maxValue.toInt :=
    ⟨n.minValue_le_toInt, n.toInt_le⟩
  rw [int32?, if_pos hrange, Int32.ofInt_toInt]

/-- The integers that four bytes hold with a sign. -/
theorem exists_toInt_eq_iff {m : Int} :
    (∃ n : Int32, n.toInt = m) ↔ -2147483648 ≤ m ∧ m ≤ 2147483647 := by
  constructor
  · rintro ⟨n, rfl⟩
    have hlow := n.le_toInt
    have hhigh := n.toInt_lt
    omega
  · rintro ⟨hlow, hhigh⟩
    exact ⟨Int32.ofInt m, Int32.toInt_ofInt_of_le hlow (by omega)⟩

end Narrow

namespace Coord

open Text.Decimal

/-- The text is two written integers with a comma between them. -/
def Written (s : String) (x y : Int) : Prop :=
  ∃ xs ys, s.toList = xs ++ ',' :: ys ∧ Denotes xs x ∧ Denotes ys y

theorem toList_text (c : Coord) : c.text.toList = ofInt c.x.toInt ++ ',' :: ofInt c.y.toInt :=
  String.toList_ofList

theorem written_iff {s : String} {c : Coord} : Written s c.x.toInt c.y.toInt ↔ s = c.text := by
  constructor
  · rintro ⟨xs, ys, hs, hxs, hys⟩
    rw [denotes_iff.mp hxs, denotes_iff.mp hys, ← toList_text] at hs
    exact String.toList_inj.mp hs
  · rintro rfl
    exact ⟨_, _, c.toList_text, denotes_ofInt _, denotes_ofInt _⟩

theorem number?_ofInt (n : Int32) : number? (ofInt n.toInt) = some n := by
  rw [number?, int?_ofInt, Option.bind_some, Narrow.int32?_toInt]

/-- A written integer holds no comma, so the text comes apart at the one between the two. -/
theorem numbers?_text (c : Coord) : numbers? c.text.toList = some c := by
  have hx : ∀ d ∈ ofInt c.x.toInt, (d != ',') = true := by
    intro d hd
    exact bne_iff_ne.mpr (ne_comma_of_mem_ofInt hd)
  have hfront : c.text.toList.takeWhile (· != ',') = ofInt c.x.toInt := by
    rw [toList_text, List.takeWhile_append_of_pos hx]
    simp
  have hback : c.text.toList.dropWhile (· != ',') = ',' :: ofInt c.y.toInt := by
    rw [toList_text, List.dropWhile_append_of_pos hx]
    simp
  simp only [numbers?, hfront, hback, number?_ofInt]

theorem parse_eq_ok_iff {s : String} {c : Coord} : parse s = .ok c ↔ s = c.text := by
  constructor
  · intro h
    unfold parse at h
    split at h
    · cases h
    · split at h
      · rename_i htext
        cases h
        exact htext.symm
      · cases h
  · rintro rfl
    simp only [parse, numbers?_text, if_true]

theorem text_injective {c c' : Coord} (h : c.text = c'.text) : c = c' := by
  have hparse : parse c.text = .ok c := parse_eq_ok_iff.mpr rfl
  have hparse' : parse c.text = .ok c' := parse_eq_ok_iff.mpr h
  exact Except.ok.inj (hparse.symm.trans hparse')

theorem parse_readable_iff {s : String} :
    (∃ c, parse s = .ok c) ↔
      ∃ x y : Int, Written s x y ∧ (-2147483648 ≤ x ∧ x ≤ 2147483647) ∧
        (-2147483648 ≤ y ∧ y ≤ 2147483647) := by
  constructor
  · rintro ⟨c, hparse⟩
    refine ⟨c.x.toInt, c.y.toInt, ?_, ?_, ?_⟩
    · exact written_iff.mpr (parse_eq_ok_iff.mp hparse)
    · exact Narrow.exists_toInt_eq_iff.mp ⟨c.x, rfl⟩
    · exact Narrow.exists_toInt_eq_iff.mp ⟨c.y, rfl⟩
  · rintro ⟨x, y, hwritten, hx, hy⟩
    obtain ⟨nx, rfl⟩ := Narrow.exists_toInt_eq_iff.mpr hx
    obtain ⟨ny, rfl⟩ := Narrow.exists_toInt_eq_iff.mpr hy
    have htext : s = (Coord.mk nx ny).text := written_iff.mp hwritten
    exact ⟨⟨nx, ny⟩, parse_eq_ok_iff.mpr htext⟩

theorem invalidKey_iff {s : String} :
    (∃ detail, (parse s).mapError CacheError.ofRefusal = .error (.invalidKey detail)) ↔
      ¬ ∃ c, parse s = .ok c := by
  cases parse s with
  | ok c =>
    constructor
    · rintro ⟨detail, h⟩
      cases h
    · intro h
      exact absurd ⟨c, rfl⟩ h
  | error refusal =>
    constructor
    · rintro - ⟨c, h⟩
      cases h
    · intro _
      exact ⟨refusal.message, rfl⟩

theorem coord?_eq_some_iff {key : Key} {c : Coord} : key.coord? = some c ↔ key.text = c.text := by
  rw [← parse_eq_ok_iff, Key.coord?]
  cases parse key.text <;> simp [Except.toOption]

/-- A text names a position exactly when it is written as two integers that four bytes hold, and
then it names that position and its key is that position's; all other texts are invalid. The key
of a position leads back to it, so no two positions share one, and each has one text. -/
theorem named_exactly :
    (∀ s, (∃ c, parse s = .ok c) ↔
      ∃ x y : Int, Written s x y ∧ (-2147483648 ≤ x ∧ x ≤ 2147483647) ∧
        (-2147483648 ≤ y ∧ y ≤ 2147483647)) ∧
    (∀ s c, parse s = .ok c ↔ Written s c.x.toInt c.y.toInt) ∧
    (∀ s, (∃ detail, (parse s).mapError CacheError.ofRefusal = .error (.invalidKey detail)) ↔
      ¬ ∃ c, parse s = .ok c) ∧
    (∀ x y : Int32, (Identity.pair x y).canonical.coord? = some ⟨x, y⟩) ∧
    (∀ s c, (Identity.name s).canonical.coord? = some c ↔ s = c.text) ∧
    (∀ c c' : Coord, (Identity.coord c).canonical = (Identity.coord c').canonical ↔ c = c') ∧
    (∀ s c, ((Identity.name s).canonical = (Identity.coord c).canonical ↔ s = c.text) ∧
      (s = c.text ↔ Written s c.x.toInt c.y.toInt)) := by
  refine ⟨fun _ => parse_readable_iff, ?_, fun _ => invalidKey_iff, ?_, ?_, ?_, ?_⟩
  · intro s c
    rw [parse_eq_ok_iff, written_iff]
  · intro x y
    exact coord?_eq_some_iff.mpr rfl
  · intro s c
    exact coord?_eq_some_iff
  · intro c c'
    constructor
    · intro h
      exact text_injective (congrArg Key.text h)
    · rintro rfl
      rfl
  · intro s c
    exact ⟨⟨congrArg Key.text, congrArg Key.mk⟩, written_iff.symm⟩

/-- The numbers can be read, but not as they would be written. -/
example : parse "-0,+07" = .error (.notCanonical "-0,+07") := rfl

end Coord
end Repaint
