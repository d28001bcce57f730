import Repaint.Layout
import Repaint.Proofs.Wire

/-!
What a layout's description tells. The tag says how many bytes follow it, so a description can
be cut up in one way only, and what it loses of the kinds is the part of a width above four
bytes. Fields that fit a buffer of less than that lose nothing. Of the hash it is only used that
it is a function of the description.
-/

set_option autoImplicit false

namespace Repaint

/-- A kind as a description keeps it. -/
def Kind.described : Kind → Kind
  | .scalar width => .scalar (width % 2 ^ 32)
  | .text => .text
  | .texts => .texts

theorem Kind.described_of_lt {width : Nat} (h : width < 2 ^ 32) :
    (Kind.scalar width).described = .scalar width :=
  congrArg Kind.scalar (Nat.mod_eq_of_lt h)

/-- The same kind, and of two scalars the widths have the same four low bytes. -/
inductive Kind.Agrees : Kind → Kind → Prop
  | scalar {width width' : Nat} :
      width % 2 ^ 32 = width' % 2 ^ 32 → Agrees (.scalar width) (.scalar width')
  | text : Agrees .text .text
  | texts : Agrees .texts .texts

theorem Kind.agrees_iff {kind kind' : Kind} :
    kind.Agrees kind' ↔ kind.described = kind'.described := by
  constructor
  · intro h
    cases h with
    | scalar hwidth => exact congrArg Kind.scalar hwidth
    | text => rfl
    | texts => rfl
  · intro h
    cases kind with
    | scalar width =>
      cases kind' with
      | scalar width' => exact .scalar (Kind.scalar.inj h)
      | text => cases h
      | texts => cases h
    | text =>
      cases kind' with
      | scalar width' => cases h
      | text => exact .text
      | texts => cases h
    | texts =>
      cases kind' with
      | scalar width' => cases h
      | text => cases h
      | texts => exact .texts

/-- No tag is taken for another, so the first kind and what follows it come apart. -/
theorem Kind.described_of_tagged_append {kind kind' : Kind} {back back' : Bytes}
    (h : kind.tagged ++ back = kind'.tagged ++ back') :
    kind.described = kind'.described ∧ back = back' := by
  cases kind with
  | scalar width =>
    cases kind' with
    | scalar width' =>
      have htail : LittleEndian.digits 4 width ++ back = LittleEndian.digits 4 width' ++ back' :=
        (List.cons.inj h).2
      have hlen : (LittleEndian.digits 4 width).length = (LittleEndian.digits 4 width').length := by
        rw [LittleEndian.length_digits, LittleEndian.length_digits]
      obtain ⟨hdigits, hback⟩ := List.append_inj htail hlen
      have hvalue := congrArg LittleEndian.value hdigits
      rw [LittleEndian.value_digits, LittleEndian.value_digits] at hvalue
      exact ⟨congrArg Kind.scalar hvalue, hback⟩
    | text => exact absurd (List.cons.inj h).1 (by decide)
    | texts => exact absurd (List.cons.inj h).1 (by decide)
  | text =>
    cases kind' with
    | scalar width' => exact absurd (List.cons.inj h).1 (by decide)
    | text => exact ⟨rfl, (List.cons.inj h).2⟩
    | texts => exact absurd (List.cons.inj h).1 (by decide)
  | texts =>
    cases kind' with
    | scalar width' => exact absurd (List.cons.inj h).1 (by decide)
    | text => exact absurd (List.cons.inj h).1 (by decide)
    | texts => exact ⟨rfl, (List.cons.inj h).2⟩

theorem Kind.tagged_ne_nil (kind : Kind) : kind.tagged ≠ [] := by
  cases kind <;> simp [Kind.tagged]

theorem Kind.tagged_described (kind : Kind) : kind.described.tagged = kind.tagged := by
  cases kind with
  | scalar width => exact congrArg (0 :: ·) (LittleEndian.digits_mod 4 width)
  | text => rfl
  | texts => rfl

namespace Layout

theorem describe_cons (kind : Kind) (kinds : List Kind) :
    describe (kind :: kinds) = kind.tagged ++ describe kinds := List.flatMap_cons

theorem describe_cons_ne_nil (kind : Kind) (kinds : List Kind) : describe (kind :: kinds) ≠ [] := by
  intro h
  rw [describe_cons] at h
  exact kind.tagged_ne_nil (List.append_eq_nil_iff.mp h).1

/-- Kinds with one description agree up to what the description keeps of them. -/
theorem described_of_describe_eq {kinds kinds' : List Kind} (h : describe kinds = describe kinds') :
    kinds.map Kind.described = kinds'.map Kind.described := by
  induction kinds generalizing kinds' with
  | nil =>
    cases kinds' with
    | nil => rfl
    | cons kind' kinds' => exact absurd h.symm (describe_cons_ne_nil kind' kinds')
  | cons kind kinds ih =>
    cases kinds' with
    | nil => exact absurd h (describe_cons_ne_nil kind kinds)
    | cons kind' kinds' =>
      rw [describe_cons, describe_cons] at h
      obtain ⟨hkind, hrest⟩ := Kind.described_of_tagged_append h
      rw [List.map_cons, List.map_cons, hkind, ih hrest]

theorem describe_described (kinds : List Kind) :
    describe (kinds.map Kind.described) = describe kinds := by
  rw [describe, List.flatMap_map]
  exact congrArg (kinds.flatMap ·) (funext Kind.tagged_described)

theorem agree_iff {kinds kinds' : List Kind} :
    List.Forall₂ Kind.Agrees kinds kinds' ↔
      kinds.map Kind.described = kinds'.map Kind.described := by
  rw [← List.forall₂_eq_eq_eq, List.forall₂_map_left_iff, List.forall₂_map_right_iff]
  exact ⟨fun h => h.imp fun _ _ => Kind.agrees_iff.mp,
    fun h => h.imp fun _ _ => Kind.agrees_iff.mpr⟩

theorem describe_eq_iff {kinds kinds' : List Kind} :
    describe kinds = describe kinds' ↔ List.Forall₂ Kind.Agrees kinds kinds' := by
  rw [agree_iff]
  constructor
  · exact described_of_describe_eq
  · intro h
    rw [← describe_described, h, describe_described]

/-- Kinds have one description just if they are equally many and agree place by place. So those that
agree have one fingerprint, and any others have it only where the hash collides on two descriptions
that differ. -/
theorem described_uniquely (kinds kinds' : List Kind) :
    (describe kinds = describe kinds' ↔ List.Forall₂ Kind.Agrees kinds kinds') ∧
    (fingerprint kinds = fingerprint kinds' ↔
      List.Forall₂ Kind.Agrees kinds kinds' ∨
        describe kinds ≠ describe kinds' ∧
          XxHash32.hash seed (describe kinds) = XxHash32.hash seed (describe kinds')) := by
  refine ⟨describe_eq_iff, ?_⟩
  rw [← describe_eq_iff]
  constructor
  · intro hhash
    by_cases hsame : describe kinds = describe kinds'
    · exact .inl hsame
    · exact .inr ⟨hsame, hhash⟩
  · rintro (hsame | ⟨-, hhash⟩)
    · exact congrArg (XxHash32.hash seed) hsame
    · exact hhash

/-- A width too large for four bytes is described as its remainder. -/
example : describe [.scalar 4294967304, .text] = describe [.scalar 8, .text] := by decide

/-- No scalar of a buffer is wider than the buffer. -/
theorem described_kinds_of_length_lt {fields : List Field}
    (h : (Field.encodeAll fields).length < 2 ^ 32) :
    (fields.map Field.kind).map Kind.described = fields.map Field.kind := by
  induction fields with
  | nil => rfl
  | cons field fields ih =>
    rw [Field.encodeAll_cons, List.length_append] at h
    have hfield : field.kind.described = field.kind := by
      cases field with
      | scalar bytes =>
        have hlen : bytes.length < 2 ^ 32 := Nat.lt_of_le_of_lt (Nat.le_add_right _ _) h
        exact Kind.described_of_lt hlen
      | text content => rfl
      | texts entries => rfl
    rw [List.map_cons, List.map_cons, hfield, ih (by omega)]

end Layout
end Repaint
