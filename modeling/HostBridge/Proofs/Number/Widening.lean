import HostBridge.Proofs.Number.ExactValue

/-!
# Widening

A single becomes the double that denotes the same number and has its sign. The exponent field moves
by the difference of the two excesses. A subnormal single has its leading one moved up to where a
double does not write it, and becomes a normal double.
-/
namespace HostBridge

/-- How the parts of a single and of its double belong together. -/
inductive Widens : FloatFields → FloatFields → Prop
  | nan {negative : Bool} {fraction fraction' : Nat} : fraction ≠ 0 → fraction' ≠ 0 →
      Widens ⟨negative, 255, fraction⟩ ⟨negative, 2047, fraction'⟩
  | infinite {negative : Bool} : Widens ⟨negative, 255, 0⟩ ⟨negative, 2047, 0⟩
  | zero {negative : Bool} : Widens ⟨negative, 0, 0⟩ ⟨negative, 0, 0⟩
  | subnormal {negative : Bool} {leading rest : Nat} : leading < 23 →
      Widens ⟨negative, 0, 2 ^ leading + rest⟩
        ⟨negative, leading + 874, rest * 2 ^ (52 - leading)⟩
  | normal {negative : Bool} {exponent fraction : Nat} : exponent ≠ 0 → exponent < 255 →
      Widens ⟨negative, exponent, fraction⟩ ⟨negative, exponent + 896, fraction * 2 ^ 29⟩

theorem widens_ofSingle (f : Single) : Widens f.fields (Double.ofSingle f).fields := by
  have hexponent := f.exponentBits_lt
  have hfraction := f.fractionBits_lt
  have hfields : f.fields = ⟨f.isNegative, f.exponentBits, f.fractionBits⟩ := rfl
  have hwide : Double.ofSingle f =
      if f.exponentBits = 255 then
        if f.fractionBits = 0 then .ofFields f.isNegative 2047 0
        else .ofFields f.isNegative 2047 (2 ^ 51 + f.fractionBits % 2 ^ 22 * 2 ^ 29)
      else if f.exponentBits = 0 then
        if f.fractionBits = 0 then .ofFields f.isNegative 0 0
        else .ofFields f.isNegative (f.fractionBits.log2 + 874)
          ((f.fractionBits - 2 ^ f.fractionBits.log2) * 2 ^ (52 - f.fractionBits.log2))
      else .ofFields f.isNegative (f.exponentBits + 896) (f.fractionBits * 2 ^ 29) := rfl
  rw [hwide, hfields]
  generalize f.isNegative = negative
  generalize f.exponentBits = exponent at hexponent ⊢
  generalize f.fractionBits = fraction at hfraction ⊢
  split
  · next htop =>
    subst htop
    split
    · next hzero =>
      rw [hzero, Double.fields_ofFields _ (by decide) (by decide)]
      exact .infinite
    · next hnan =>
      rw [Double.fields_ofFields _ (by decide) (by omega)]
      exact .nan hnan (by omega)
  · next htop =>
    split
    · next hleast =>
      subst hleast
      split
      · next hzero =>
        rw [hzero, Double.fields_ofFields _ (by decide) (by decide)]
        exact .zero
      · next hzero =>
        have hlog : fraction.log2 < 23 := (Nat.log2_lt hzero).mpr hfraction
        have hle : 2 ^ fraction.log2 ≤ fraction := Nat.log2_self_le hzero
        have hlt : fraction < 2 ^ (fraction.log2 + 1) := Nat.lt_log2_self
        generalize fraction.log2 = leading at hlog hle hlt
        obtain ⟨rest, rfl⟩ := Nat.exists_eq_add_of_le hle
        have hrest : rest < 2 ^ leading := by rw [Nat.pow_succ] at hlt; omega
        have hshifted : rest * 2 ^ (52 - leading) < 2 ^ 52 := by
          calc rest * 2 ^ (52 - leading) < 2 ^ leading * 2 ^ (52 - leading) :=
                Nat.mul_lt_mul_of_pos_right hrest (Nat.two_pow_pos _)
            _ = 2 ^ 52 := by rw [← Nat.pow_add, Nat.add_sub_cancel' (by omega)]
        rw [Nat.add_sub_cancel_left, Double.fields_ofFields _ (by omega) hshifted]
        exact .subnormal hlog
    · next hleast =>
      rw [Double.fields_ofFields _ (by omega) (by omega)]
      exact .normal hleast (by omega)

theorem shifted_mul_zpow (significand : Nat) {count : Nat} {scale scale' : Int}
    (h : scale = scale' + count) :
    ((significand * 2 ^ count : Nat) : ℚ) * 2 ^ scale' = significand * 2 ^ scale := by
  rw [h, zpow_add₀ two_ne_zero, zpow_natCast]
  push_cast
  ring

namespace Widens

variable {p q : FloatFields}

theorem negative_eq (h : Widens p q) : q.negative = p.negative := by
  cases h <;> rfl

theorem magnitude_eq (h : Widens p q) (hp : p.exponent ≠ FloatFormat.single.top) :
    FloatFormat.double.magnitude q = FloatFormat.single.magnitude p := by
  cases h with
  | nan | infinite => exact absurd rfl hp
  | zero =>
    rw [FloatFormat.magnitude_eq_zero_iff.mpr ⟨rfl, rfl⟩,
      FloatFormat.magnitude_eq_zero_iff.mpr ⟨rfl, rfl⟩]
  | @subnormal negative leading rest hleading =>
    have hsignificand :
        2 ^ 52 + rest * 2 ^ (52 - leading) = (2 ^ leading + rest) * 2 ^ (52 - leading) := by
      rw [Nat.add_mul, ← Nat.pow_add, Nat.add_sub_cancel' (by omega)]
    simp only [FloatFormat.magnitude, FloatFormat.significand, FloatFormat.scale,
      FloatFormat.double, FloatFormat.single, if_true]
    rw [if_neg (by omega), hsignificand]
    exact shifted_mul_zpow _ (by omega)
  | @normal negative exponent fraction hleast htop =>
    have hsignificand : 2 ^ 52 + fraction * 2 ^ 29 = (2 ^ 23 + fraction) * 2 ^ 29 := by omega
    simp only [FloatFormat.magnitude, FloatFormat.significand, FloatFormat.scale,
      FloatFormat.double, FloatFormat.single]
    rw [if_neg hleast, if_neg (by omega), hsignificand]
    exact shifted_mul_zpow _ (by omega)

theorem exponent_eq_top_iff (h : Widens p q) :
    q.exponent = FloatFormat.double.top ↔ p.exponent = FloatFormat.single.top := by
  show q.exponent = 2047 ↔ p.exponent = 255
  cases h <;> simp only [iff_self] <;> omega

theorem fraction_eq_zero_iff (h : Widens p q) (hp : p.exponent = FloatFormat.single.top) :
    q.fraction = 0 ↔ p.fraction = 0 := by
  cases h with
  | nan hfraction hfraction' => simp [hfraction, hfraction']
  | infinite | zero => rfl
  | subnormal => cases hp
  | normal _ htop => exact absurd hp htop.ne

theorem denoted_eq (h : Widens p q) :
    FloatFormat.double.denoted q = FloatFormat.single.denoted p := by
  unfold FloatFormat.denoted
  by_cases htop : p.exponent = FloatFormat.single.top
  · rw [if_pos (h.exponent_eq_top_iff.mpr htop), if_pos htop, h.negative_eq]
    simp only [h.fraction_eq_zero_iff htop]
  · rw [if_neg (mt h.exponent_eq_top_iff.mp htop), if_neg htop, h.negative_eq,
      h.magnitude_eq htop]

theorem isNormal_of_subnormal (h : Widens p q) (hexponent : p.exponent = 0)
    (hfraction : p.fraction ≠ 0) : 1 ≤ q.exponent ∧ q.exponent ≤ 2046 := by
  cases h with
  | zero => exact absurd rfl hfraction
  | @subnormal _ leading _ hleading =>
    show 1 ≤ leading + 874 ∧ leading + 874 ≤ 2046
    omega
  | normal hleast => exact absurd hexponent hleast
  | nan | infinite => cases hexponent

end Widens

namespace Double

variable (f : Single)

theorem denoted_ofSingle : (ofSingle f).denoted = f.denoted := (widens_ofSingle f).denoted_eq

theorem isNegative_ofSingle : (ofSingle f).isNegative = f.isNegative :=
  (widens_ofSingle f).negative_eq

variable {f}

theorem eq_ofSingle_iff (hnan : f.denoted ≠ .nan) {x : Double} :
    x.denoted = f.denoted ∧ x.isNegative = f.isNegative ↔ x = ofSingle f := by
  constructor
  · rintro ⟨hdenoted, hsign⟩
    have h := hdenoted.trans (denoted_ofSingle f).symm
    exact eq_of_denoted (hdenoted ▸ hnan) h (hsign.trans (isNegative_ofSingle f).symm)
  · rintro rfl
    exact ⟨denoted_ofSingle f, isNegative_ofSingle f⟩

theorem ofSingle_injective {g : Single} (hnan : f.denoted ≠ .nan)
    (h : ofSingle f = ofSingle g) : f = g := by
  apply Single.eq_of_denoted hnan
  · rw [← denoted_ofSingle, h, denoted_ofSingle]
  · rw [← isNegative_ofSingle, h, isNegative_ofSingle]

end Double
end HostBridge
