import HostBridge.Proofs.Number.ExactValue
import HostBridge.Proofs.Value.Image

/-!
# Two equalities

Values are compared as their users see them, doubles by the numbers that they denote; cells are
compared by their bits. The two judge the same but for doubles, and there in two cases only: a NaN
differs from itself as a value, and the two zeros differ as cells.
-/
namespace HostBridge

inductive SameNaN : Value → Value → Prop
  | intro {x : Double} : x.isNaN = true → SameNaN (.double x) (.double x)

inductive OppositeZeros : Value → Value → Prop
  | falling : OppositeZeros (.double .zero) (.double .negativeZero)
  | rising : OppositeZeros (.double .negativeZero) (.double .zero)

namespace Double

theorem sameNumber_of_ne {x y : Double} (h : x ≠ y) :
    x.sameNumber y = true ↔ x = zero ∧ y = negativeZero ∨ x = negativeZero ∧ y = zero := by
  constructor
  · intro hsame
    have hbits : ¬x.bits = y.bits := fun hbits => h (by cases x; cases y; cases hbits; rfl)
    simp only [sameNumber, Bool.and_eq_true, Bool.or_eq_true, beq_iff_eq, hbits, false_or] at hsame
    rcases eq_of_isZero hsame.2.1 with rfl | rfl <;> rcases eq_of_isZero hsame.2.2 with rfl | rfl
    · exact absurd rfl h
    · exact .inl ⟨rfl, rfl⟩
    · exact .inr ⟨rfl, rfl⟩
    · exact absurd rfl h
  · rintro (⟨rfl, rfl⟩ | ⟨rfl, rfl⟩) <;> rfl

end Double

namespace Value

/-- Equality of what decoding answers, values compared as their users see them. -/
def sameAnswer : Except DecodeError Value → Except DecodeError Value → Bool
  | .ok v, .ok w => v.same w
  | .error e, .error e' => e == e'
  | _, _ => false

variable {a b : Value}

theorem same_encode_iff : a.encode.same b.encode = true ↔ a = b := by
  constructor
  · exact eq_of_same_encode
  · rintro rfl
    exact (Cell.same_iff _ _).mpr ⟨rfl, rfl, rfl⟩

theorem same_encode_false_iff : a.encode.same b.encode = false ↔ a ≠ b := by
  rw [← Bool.not_eq_true, same_encode_iff]

theorem same_double (x y : Double) : (double x).same (double y) = x.sameNumber y := rfl

theorem same_self_false_iff : a.same a = false ↔ ∃ x, a = double x ∧ x.isNaN = true := by
  cases a with
  | double x => simp [same_double, Double.sameNumber_self]
  | _ => simp [same]

theorem same_of_ne (h : a ≠ b) : a.same b = true ↔ OppositeZeros a b := by
  constructor
  · intro hsame
    cases a with
    | double x =>
      cases b with
      | double y =>
        have hne : x ≠ y := fun heq => h (congrArg double heq)
        rcases (Double.sameNumber_of_ne hne).mp hsame with ⟨rfl, rfl⟩ | ⟨rfl, rfl⟩
        · exact .falling
        · exact .rising
      | _ => cases hsame
    | _ => cases b <;> simp_all [same]
  · rintro (_ | _) <;> rfl

theorem sameNaN_iff : SameNaN a b ↔ a.same b = false ∧ a.encode.same b.encode = true := by
  rw [same_encode_iff]
  constructor
  · rintro ⟨hnan⟩
    exact ⟨same_self_false_iff.mpr ⟨_, rfl, hnan⟩, rfl⟩
  · rintro ⟨hsame, rfl⟩
    obtain ⟨x, rfl, hnan⟩ := same_self_false_iff.mp hsame
    exact .intro hnan

theorem oppositeZeros_iff :
    OppositeZeros a b ↔ a.same b = true ∧ a.encode.same b.encode = false := by
  rw [same_encode_false_iff]
  constructor
  · intro h
    have hne : a ≠ b := by
      rcases h with _ | _ <;> decide
    exact ⟨(same_of_ne hne).mpr h, hne⟩
  · rintro ⟨hsame, hne⟩
    exact (same_of_ne hne).mp hsame

end Value

/-- The equality of values and that of their cells differ on one NaN with itself and on the two
zeros, and on nothing else. What comes back from the boundary equals what was sent, NaNs excepted.
-/
structure EqualityLaw (a b : Value) : Prop where
  agree : a.same b = a.encode.same b.encode ↔ ¬(SameNaN a b ∨ OppositeZeros a b)
  nan : SameNaN a b ↔ a.same b = false ∧ a.encode.same b.encode = true
  zeros : OppositeZeros a b ↔ a.same b = true ∧ a.encode.same b.encode = false
  numbers : ∀ x y, a = .double x → b = .double y →
    (a.same b = true ↔ x.denoted ≠ .nan ∧ y.denoted ≠ .nan ∧ x.denoted = y.denoted)
  returned : Value.sameAnswer (Value.decode a.encode) (.ok a) = false ↔
    ∃ x, a = .double x ∧ x.isNaN = true

theorem equalities_differ_on_doubles (a b : Value) : EqualityLaw a b := by
  constructor
  · rw [Value.sameNaN_iff, Value.oppositeZeros_iff]
    cases a.same b <;> cases a.encode.same b.encode <;> simp
  · exact Value.sameNaN_iff
  · exact Value.oppositeZeros_iff
  · rintro x y rfl rfl
    rw [Value.same_double, Double.sameNumber_iff]
    constructor
    · rintro ⟨hnan, h⟩
      exact ⟨hnan, h ▸ hnan, h⟩
    · rintro ⟨hnan, -, h⟩
      exact ⟨hnan, h⟩
  · rw [Value.decode_encode]
    exact Value.same_self_false_iff

end HostBridge
