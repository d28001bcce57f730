import Repaint.Text.Decimal

/-!
The grammar of written integers. An integer is written as zero alone, or as digits of which the
first is not zero, with a minus before them or nothing. So it has one written form, and reading
that form gives the integer back.
-/

set_option autoImplicit false

namespace Repaint.Text.Decimal

/-- A digit other than zero, and any digits after it. -/
def Significant (cs : List Char) : Prop :=
  ∃ c ds, cs = c :: ds ∧ c ≠ '0' ∧ ∀ d ∈ cs, d.isDigit = true

/-- How an integer is written, with the integer. -/
inductive Denotes : List Char → Int → Prop
  | zero : Denotes ['0'] 0
  | positive {cs : List Char} (h : Significant cs) : Denotes cs (Nat.ofDigitChars 10 cs 0 : Nat)
  | negative {cs : List Char} (h : Significant cs) :
      Denotes ('-' :: cs) (-(Nat.ofDigitChars 10 cs 0 : Nat))

theorem isDigit_of_mem_ofNat {n : Nat} {c : Char} (h : c ∈ ofNat n) : c.isDigit = true :=
  Nat.isDigit_of_mem_toDigits (by decide) (by decide) h

theorem digitChar_of_isDigit {c : Char} (h : c.isDigit = true) :
    c.toNat - '0'.toNat < 10 ∧ Nat.digitChar (c.toNat - '0'.toNat) = c := by
  have hzero : '0'.toNat = 48 := rfl
  have hrange : 48 ≤ c.toNat ∧ c.toNat ≤ 57 := Char.isDigit_iff_toNat.mp h
  have hlt : c.toNat - '0'.toNat < 10 := by omega
  refine ⟨hlt, ?_⟩
  apply Char.toNat_inj.mp
  rw [Nat.toNat_digitChar_of_lt_ten hlt]
  omega

/-- Digits read after a number other than zero are digits written after it. -/
theorem ofNat_ofDigitChars {n : Nat} {ds : List Char} (hn : 0 < n)
    (hds : ∀ d ∈ ds, d.isDigit = true) :
    ofNat (Nat.ofDigitChars 10 ds n) = ofNat n ++ ds := by
  induction ds generalizing n with
  | nil => simp [Nat.ofDigitChars_nil]
  | cons d ds ih =>
    obtain ⟨hd, hrest⟩ := List.forall_mem_cons.mp hds
    obtain ⟨hlt, hchar⟩ := digitChar_of_isDigit hd
    have hstep : ofNat n ++ [d] = ofNat (10 * n + (d.toNat - '0'.toNat)) := by
      have happend := Nat.toDigits_append_toDigits (by decide : 1 < 10) hn hlt
      rw [Nat.toDigits_of_lt_base hlt, hchar] at happend
      exact happend
    rw [Nat.ofDigitChars_cons, ih (by omega) hrest, ← hstep, List.append_assoc,
      List.singleton_append]

theorem ofNat_of_significant {cs : List Char} (h : Significant cs) :
    ofNat (Nat.ofDigitChars 10 cs 0) = cs := by
  obtain ⟨c, ds, rfl, hne, hdigits⟩ := h
  obtain ⟨hc, hds⟩ := List.forall_mem_cons.mp hdigits
  obtain ⟨hlt, hchar⟩ := digitChar_of_isDigit hc
  have hpos : 0 < c.toNat - '0'.toNat := by
    apply Nat.pos_of_ne_zero
    intro hzero
    rw [hzero] at hchar
    exact hne hchar.symm
  have hfirst : ofNat (c.toNat - '0'.toNat) = [c] := by
    rw [ofNat, Nat.toDigits_of_lt_base hlt, hchar]
  rw [Nat.ofDigitChars_cons, Nat.mul_zero, Nat.zero_add, ofNat_ofDigitChars hpos hds, hfirst,
    List.singleton_append]

/-- The first digit is that of the number without its last digit, down to a number of one digit. -/
theorem significant_ofNat {n : Nat} (h : 0 < n) : Significant (ofNat n) := by
  induction n using Nat.strongRecOn with
  | _ n ih =>
    by_cases hlt : n < 10
    · have hone : ofNat n = [Nat.digitChar n] := Nat.toDigits_of_lt_base hlt
      refine ⟨Nat.digitChar n, [], hone, ?_, fun d hd => isDigit_of_mem_ofNat hd⟩
      intro hzero
      have hvalue := congrArg Char.toNat hzero
      rw [Nat.toNat_digitChar_of_lt_ten hlt] at hvalue
      have hchar : '0'.toNat = 48 := rfl
      omega
    · have hle : 10 ≤ n := by omega
      have hsplit : ofNat n = ofNat (n / 10) ++ [Nat.digitChar (n % 10)] :=
        Nat.toDigits_of_base_le (by decide) hle
      obtain ⟨c, ds, hcs, hne, -⟩ := ih (n / 10) (by omega) (by omega)
      rw [hcs] at hsplit
      exact ⟨c, ds ++ [Nat.digitChar (n % 10)], hsplit, hne, fun d hd => isDigit_of_mem_ofNat hd⟩

theorem denotes_ofInt (n : Int) : Denotes (ofInt n) n := by
  cases n with
  | ofNat n =>
    by_cases hzero : n = 0
    · subst hzero
      exact .zero
    · have hread := Denotes.positive (significant_ofNat (Nat.pos_of_ne_zero hzero))
      rwa [ofNat, Nat.ofDigitChars_ten_toDigits] at hread
  | negSucc n =>
    have hread := Denotes.negative (significant_ofNat (Nat.succ_pos n))
    rwa [ofNat, Nat.ofDigitChars_ten_toDigits] at hread

theorem pos_of_significant {cs : List Char} (h : Significant cs) :
    0 < Nat.ofDigitChars 10 cs 0 := by
  apply Nat.pos_of_ne_zero
  intro hzero
  have hwritten := ofNat_of_significant h
  rw [hzero] at hwritten
  obtain ⟨c, ds, rfl, hne, -⟩ := h
  exact hne (List.cons.inj hwritten).1.symm

/-- The written form of an integer is the only text that denotes it. -/
theorem denotes_iff {cs : List Char} {n : Int} : Denotes cs n ↔ cs = ofInt n := by
  constructor
  · intro h
    cases h with
    | zero => rfl
    | positive hcs => exact (ofNat_of_significant hcs).symm
    | negative hcs =>
      obtain ⟨m, hm⟩ := Nat.exists_eq_add_of_lt (pos_of_significant hcs)
      have hwritten := ofNat_of_significant hcs
      rw [hm, Nat.zero_add] at hwritten ⊢
      exact congrArg ('-' :: ·) hwritten.symm
  · rintro rfl
    exact denotes_ofInt n

theorem nat?_ofNat (n : Nat) : nat? (ofNat n) = some n := by
  have hne : ofNat n ≠ [] := Nat.toDigits_ne_nil
  have hdigits : (ofNat n).all Char.isDigit = true :=
    List.all_eq_true.mpr fun c hc => isDigit_of_mem_ofNat hc
  have hvalue : Nat.ofDigitChars 10 (ofNat n) 0 = n := Nat.ofDigitChars_ten_toDigits
  simp [nat?, hne, hdigits, hvalue]

/-- Without a sign before them, digits are read as they are. -/
theorem int?_of_isDigit {c : Char} {ds : List Char} (h : c.isDigit = true) :
    int? (c :: ds) = (nat? (c :: ds)).map fun n => (n : Int) := by
  unfold int?
  split
  · rename_i heq
    obtain rfl := (List.cons.inj heq).1
    exact absurd h (by decide)
  · rename_i heq
    obtain rfl := (List.cons.inj heq).1
    exact absurd h (by decide)
  · rfl

theorem int?_ofInt (n : Int) : int? (ofInt n) = some n := by
  cases n with
  | ofNat n =>
    have hread := nat?_ofNat n
    cases hcs : ofNat n with
    | nil => exact absurd hcs Nat.toDigits_ne_nil
    | cons c ds =>
      have hc : c.isDigit = true := isDigit_of_mem_ofNat (n := n) (by simp [hcs])
      rw [hcs] at hread
      rw [ofInt, hcs, int?_of_isDigit hc, hread]
      rfl
  | negSucc n =>
    have hread := nat?_ofNat (n + 1)
    rw [ofInt, int?, hread]
    rfl

theorem ne_comma_of_mem_ofInt {n : Int} {c : Char} (h : c ∈ ofInt n) : c ≠ ',' := by
  rintro rfl
  cases n with
  | ofNat n => exact absurd (isDigit_of_mem_ofNat h) (by decide)
  | negSucc n =>
    rcases List.mem_cons.mp h with hminus | hdigit
    · exact absurd hminus (by decide)
    · exact absurd (isDigit_of_mem_ofNat hdigit) (by decide)

end Repaint.Text.Decimal
