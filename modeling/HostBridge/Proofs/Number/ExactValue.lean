import Mathlib.Algebra.Order.Field.Power
import Mathlib.Algebra.Order.Ring.Rat
import Mathlib.Tactic.Linarith
import Mathlib.Tactic.NormNum
import Mathlib.Tactic.Positivity
import Mathlib.Tactic.Ring
import HostBridge.Number.Binary64

/-!
# The numbers that floats denote

A float is a NaN, one of the two infinities, or the exact number made of its sign, its significand
and its scale. A significand has one scale only, since it fills its width wherever the scale could
be lowered; so apart from the NaNs a float is known by what it denotes and by its sign, and the
sign only tells the zeros apart. The equality of doubles is the equality of what they denote.
-/
namespace HostBridge

inductive ExactValue
  | nan
  | infinite (negative : Bool)
  | finite (number : ℚ)
  deriving DecidableEq

@[ext]
structure FloatFields where
  negative : Bool
  exponent : Nat
  fraction : Nat
  deriving DecidableEq, Repr

/-- A significand with so many bits behind the leading one, which is missing at the least scale
only. -/
structure Normalized (width : Nat) (least : Int) (significand : Nat) (scale : Int) : Prop where
  bound : significand < 2 ^ (width + 1)
  least_le : least ≤ scale
  leading : least < scale → 2 ^ width ≤ significand

theorem two_zpow_pos (scale : Int) : (0 : ℚ) < 2 ^ scale := zpow_pos two_pos scale

theorem two_mul_zpow_le {scale scale' : Int} (h : scale < scale') :
    2 * (2 : ℚ) ^ scale ≤ 2 ^ scale' := by
  calc 2 * (2 : ℚ) ^ scale = 2 ^ (scale + 1) := by rw [zpow_add_one₀ two_ne_zero, mul_comm]
    _ ≤ 2 ^ scale' := zpow_le_zpow_right₀ one_le_two h

namespace Normalized

variable {width : Nat} {least : Int} {significand significand' : Nat} {scale scale' : Int}

theorem lt_of_scale_lt (h : Normalized width least significand scale)
    (h' : Normalized width least significand' scale') (hlt : scale < scale') :
    (significand : ℚ) * 2 ^ scale < significand' * 2 ^ scale' := by
  have hbound : (significand : ℚ) < 2 ^ (width + 1) := by exact_mod_cast h.bound
  have hleading : (2 : ℚ) ^ width ≤ significand' := by
    exact_mod_cast h'.leading (lt_of_le_of_lt h.least_le hlt)
  calc (significand : ℚ) * 2 ^ scale < 2 ^ (width + 1) * 2 ^ scale :=
        mul_lt_mul_of_pos_right hbound (two_zpow_pos scale)
    _ = 2 ^ width * (2 * 2 ^ scale) := by ring
    _ ≤ significand' * 2 ^ scale' :=
        mul_le_mul hleading (two_mul_zpow_le hlt) (by positivity) (by positivity)

theorem unique (h : Normalized width least significand scale)
    (h' : Normalized width least significand' scale')
    (heq : (significand : ℚ) * 2 ^ scale = significand' * 2 ^ scale') :
    significand = significand' ∧ scale = scale' := by
  rcases lt_trichotomy scale scale' with hlt | rfl | hgt
  · exact absurd heq (h.lt_of_scale_lt h' hlt).ne
  · have hcancel := mul_right_cancel₀ (two_zpow_pos scale).ne' heq
    exact ⟨by exact_mod_cast hcancel, rfl⟩
  · exact absurd heq (h'.lt_of_scale_lt h hgt).ne'

end Normalized

/-- A binary format: the bits of the fraction, the exponent field of NaNs and infinities, and by how
much an exponent field exceeds the scale of its significand. -/
structure FloatFormat where
  width : Nat
  top : Nat
  excess : Nat

namespace FloatFormat

def single : FloatFormat := ⟨23, 255, 150⟩

def double : FloatFormat := ⟨52, 2047, 1075⟩

variable (format : FloatFormat)

def significand (p : FloatFields) : Nat :=
  if p.exponent = 0 then p.fraction else 2 ^ format.width + p.fraction

def scale (p : FloatFields) : Int := (max 1 p.exponent : Nat) - format.excess

def magnitude (p : FloatFields) : ℚ := format.significand p * 2 ^ format.scale p

def denoted (p : FloatFields) : ExactValue :=
  if p.exponent = format.top then
    if p.fraction = 0 then .infinite p.negative else .nan
  else .finite (if p.negative then -format.magnitude p else format.magnitude p)

variable {format} {p q : FloatFields}

theorem magnitude_nonneg : 0 ≤ format.magnitude p := by
  unfold magnitude
  positivity

theorem normalized (hp : p.fraction < 2 ^ format.width) :
    Normalized format.width (1 - format.excess) (format.significand p) (format.scale p) := by
  unfold significand scale
  constructor
  · split <;> omega
  · omega
  · intro hlt
    split <;> omega

theorem fields_of_parts (hp : p.fraction < 2 ^ format.width) (hq : q.fraction < 2 ^ format.width)
    (hsignificand : format.significand p = format.significand q)
    (hscale : format.scale p = format.scale q) :
    p.exponent = q.exponent ∧ p.fraction = q.fraction := by
  unfold significand at hsignificand
  unfold scale at hscale
  split at hsignificand <;> split at hsignificand <;> omega

theorem fields_of_magnitude (hp : p.fraction < 2 ^ format.width)
    (hq : q.fraction < 2 ^ format.width) (h : format.magnitude p = format.magnitude q) :
    p.exponent = q.exponent ∧ p.fraction = q.fraction := by
  obtain ⟨hsignificand, hscale⟩ := (normalized hp).unique (normalized hq) h
  exact fields_of_parts hp hq hsignificand hscale

theorem magnitude_eq_zero_iff : format.magnitude p = 0 ↔ p.exponent = 0 ∧ p.fraction = 0 := by
  have hscale := (two_zpow_pos (format.scale p)).ne'
  have hsignificand : format.significand p = 0 ↔ p.exponent = 0 ∧ p.fraction = 0 := by
    have hpos : 0 < 2 ^ format.width := by positivity
    unfold significand
    split <;> omega
  rw [magnitude, mul_eq_zero, Nat.cast_eq_zero, hsignificand]
  simp [hscale]

theorem denoted_of_magnitude_eq_zero (htop : format.top ≠ 0) (h : format.magnitude p = 0) :
    format.denoted p = .finite 0 := by
  have hexponent : p.exponent ≠ format.top :=
    fun heq => htop (heq.symm.trans (magnitude_eq_zero_iff.mp h).1)
  rw [denoted, if_neg hexponent, h, neg_zero, ite_self]

theorem denoted_eq_nan_iff :
    format.denoted p = .nan ↔ p.exponent = format.top ∧ p.fraction ≠ 0 := by
  unfold denoted
  split <;> split <;> simp_all

theorem eq_or_zeros_of_denoted (hp : p.fraction < 2 ^ format.width)
    (hq : q.fraction < 2 ^ format.width) (hnan : format.denoted p ≠ .nan)
    (h : format.denoted p = format.denoted q) :
    p = q ∨ p.negative ≠ q.negative ∧ format.magnitude p = 0 ∧ format.magnitude q = 0 := by
  have hp0 : 0 ≤ format.magnitude p := magnitude_nonneg
  have hq0 : 0 ≤ format.magnitude q := magnitude_nonneg
  unfold denoted at h hnan
  by_cases hpt : p.exponent = format.top <;> by_cases hqt : q.exponent = format.top
  · simp only [hpt, hqt, if_true] at h hnan
    left
    split at h
    · split at h
      · next hpf hqf =>
        exact FloatFields.ext (ExactValue.infinite.inj h) (hpt.trans hqt.symm) (hpf.trans hqf.symm)
      · cases h
    · next hpf =>
      simp [hpf] at hnan
  · simp only [hpt, hqt, if_true, if_false] at h
    split at h <;> cases h
  · simp only [hpt, hqt, if_true, if_false] at h
    split at h <;> split at h <;> cases h
  · simp only [hpt, hqt, if_false, ExactValue.finite.injEq] at h
    by_cases hsign : p.negative = q.negative
    · left
      have hmagnitude : format.magnitude p = format.magnitude q := by
        rw [hsign] at h
        split at h
        · exact neg_injective h
        · exact h
      obtain ⟨hexponent, hfraction⟩ := fields_of_magnitude hp hq hmagnitude
      exact FloatFields.ext hsign hexponent hfraction
    · right
      refine ⟨hsign, ?_⟩
      split at h <;> split at h
      · simp_all
      · constructor <;> linarith
      · constructor <;> linarith
      · simp_all

end FloatFormat

namespace Double

def fields (x : Double) : FloatFields := ⟨x.isNegative, x.exponentBits, x.fractionBits⟩

def denoted (x : Double) : ExactValue := FloatFormat.double.denoted x.fields

def magnitude (x : Double) : ℚ := FloatFormat.double.magnitude x.fields

def zero : Double := ⟨0⟩

def negativeZero : Double := ⟨0x8000000000000000⟩

theorem fractionBits_lt (x : Double) : x.fractionBits < 2 ^ 52 := Nat.mod_lt _ (by decide)

theorem toNat_bits (x : Double) :
    x.bits.toNat = x.isNegative.toNat * 2 ^ 63 + x.exponentBits * 2 ^ 52 + x.fractionBits := by
  have hlt := x.bits.toNat_lt
  simp only [isNegative, exponentBits, fractionBits, Nat.pow_eq]
  by_cases hsign : 2 ^ 63 ≤ x.bits.toNat
  · rw [decide_eq_true hsign, Bool.toNat_true]
    omega
  · rw [decide_eq_false hsign, Bool.toNat_false]
    omega

theorem fields_injective {x y : Double} (h : x.fields = y.fields) : x = y := by
  obtain ⟨hsign, hexponent, hfraction⟩ := FloatFields.mk.inj h
  have hbits : x.bits.toNat = y.bits.toNat := by
    rw [toNat_bits, toNat_bits, hsign, hexponent, hfraction]
  cases x
  cases y
  exact congrArg Double.mk (UInt64.toNat_inj.mp hbits)

theorem fields_ofFields (negative : Bool) {exponent fraction : Nat} (hexponent : exponent < 2 ^ 11)
    (hfraction : fraction < 2 ^ 52) :
    (ofFields negative exponent fraction).fields = ⟨negative, exponent, fraction⟩ := by
  have hbits : (ofFields negative exponent fraction).bits.toNat =
      negative.toNat * 2 ^ 63 + exponent * 2 ^ 52 + fraction := by
    have hsign := negative.toNat_le
    refine UInt64.toNat_ofNat_of_lt' ?_
    simp only [Nat.pow_eq, UInt64.size]
    omega
  simp only [fields, isNegative, exponentBits, fractionBits, Nat.pow_eq, hbits, FloatFields.mk.injEq]
  cases negative <;> simp only [Bool.toNat_true, Bool.toNat_false, decide_eq_true_eq,
    decide_eq_false_iff_not] <;> omega

theorem isNaN_iff {x : Double} : x.isNaN = true ↔ x.denoted = .nan := by
  rw [denoted, FloatFormat.denoted_eq_nan_iff]
  simp [isNaN, fields, FloatFormat.double]

theorem eq_of_denoted {x y : Double} (hnan : x.denoted ≠ .nan) (h : x.denoted = y.denoted)
    (hsign : x.isNegative = y.isNegative) : x = y := by
  rcases FloatFormat.eq_or_zeros_of_denoted x.fractionBits_lt y.fractionBits_lt hnan h with
    heq | ⟨hne, -, -⟩
  · exact fields_injective heq
  · exact absurd hsign hne

theorem eq_of_parts {x y : Double} (hsign : x.isNegative = y.isNegative)
    (hsignificand : x.significand = y.significand) (hscale : x.scale = y.scale) : x = y := by
  obtain ⟨hexponent, hfraction⟩ := @FloatFormat.fields_of_parts .double x.fields y.fields
    x.fractionBits_lt y.fractionBits_lt hsignificand hscale
  exact fields_injective (FloatFields.ext hsign hexponent hfraction)

theorem eq_of_magnitude {x y : Double} (hsign : x.isNegative = y.isNegative)
    (h : x.magnitude = y.magnitude) : x = y := by
  obtain ⟨hexponent, hfraction⟩ :=
    FloatFormat.fields_of_magnitude x.fractionBits_lt y.fractionBits_lt h
  exact fields_injective (FloatFields.ext hsign hexponent hfraction)

theorem isZero_iff {x : Double} : x.isZero = true ↔ x.magnitude = 0 := by
  rw [magnitude, FloatFormat.magnitude_eq_zero_iff]
  simp [isZero, fields]

theorem eq_of_isZero {x : Double} (h : x.isZero = true) : x = zero ∨ x = negativeZero := by
  obtain ⟨hexponent, hfraction⟩ := FloatFormat.magnitude_eq_zero_iff.mp (isZero_iff.mp h)
  cases hsign : x.isNegative with
  | false => exact .inl (fields_injective (FloatFields.ext hsign hexponent hfraction))
  | true => exact .inr (fields_injective (FloatFields.ext hsign hexponent hfraction))

theorem denoted_of_isZero {x : Double} (h : x.isZero = true) : x.denoted = .finite 0 :=
  FloatFormat.denoted_of_magnitude_eq_zero (by decide) (isZero_iff.mp h)

theorem sameNumber_iff {x y : Double} :
    x.sameNumber y = true ↔ x.denoted ≠ .nan ∧ x.denoted = y.denoted := by
  have hx : x.isNaN = false ↔ x.denoted ≠ .nan := by rw [Ne, ← isNaN_iff, Bool.not_eq_true]
  have hy : y.isNaN = false ↔ y.denoted ≠ .nan := by rw [Ne, ← isNaN_iff, Bool.not_eq_true]
  simp only [sameNumber, Bool.and_eq_true, Bool.not_eq_true', Bool.or_eq_true, beq_iff_eq, hx, hy]
  constructor
  · rintro ⟨⟨hnan, -⟩, hbits | ⟨hzero, hzero'⟩⟩
    · cases x
      cases y
      cases hbits
      exact ⟨hnan, rfl⟩
    · exact ⟨hnan, (denoted_of_isZero hzero).trans (denoted_of_isZero hzero').symm⟩
  · rintro ⟨hnan, h⟩
    refine ⟨⟨hnan, h ▸ hnan⟩, ?_⟩
    rcases FloatFormat.eq_or_zeros_of_denoted x.fractionBits_lt y.fractionBits_lt hnan h with
      heq | ⟨-, hzero, hzero'⟩
    · exact .inl (congrArg bits (fields_injective heq))
    · exact .inr ⟨isZero_iff.mpr hzero, isZero_iff.mpr hzero'⟩

end Double

namespace Single

def isNegative (f : Single) : Bool := 2 ^ 31 ≤ f.bits.toNat

def exponentBits (f : Single) : Nat := f.bits.toNat / 2 ^ 23 % 2 ^ 8

def fractionBits (f : Single) : Nat := f.bits.toNat % 2 ^ 23

def fields (f : Single) : FloatFields := ⟨f.isNegative, f.exponentBits, f.fractionBits⟩

def denoted (f : Single) : ExactValue := FloatFormat.single.denoted f.fields

theorem exponentBits_lt (f : Single) : f.exponentBits < 2 ^ 8 := Nat.mod_lt _ (by decide)

theorem fractionBits_lt (f : Single) : f.fractionBits < 2 ^ 23 := Nat.mod_lt _ (by decide)

theorem fields_injective {f g : Single} (h : f.fields = g.fields) : f = g := by
  obtain ⟨hsign, hexponent, hfraction⟩ := FloatFields.mk.inj h
  have hf := f.bits.toNat_lt
  have hg := g.bits.toNat_lt
  have hbits : f.bits.toNat = g.bits.toNat := by
    simp only [isNegative, exponentBits, fractionBits, decide_eq_decide] at hsign hexponent hfraction
    omega
  cases f
  cases g
  exact congrArg Single.mk (UInt32.toNat_inj.mp hbits)

theorem eq_of_denoted {f g : Single} (hnan : f.denoted ≠ .nan) (h : f.denoted = g.denoted)
    (hsign : f.isNegative = g.isNegative) : f = g := by
  rcases FloatFormat.eq_or_zeros_of_denoted f.fractionBits_lt g.fractionBits_lt hnan h with
    heq | ⟨hne, -, -⟩
  · exact fields_injective heq
  · exact absurd hsign hne

end Single
end HostBridge
