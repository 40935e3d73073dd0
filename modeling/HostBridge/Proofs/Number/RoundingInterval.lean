import HostBridge.Number.Decimal
import HostBridge.Proofs.Number.ExactValue

/-!
# Rounding intervals

The decimal that a double is written as lies among the numbers that round to the double, whatever
grid it was found on. Those of two doubles do not meet: where one ends the other begins, and of two
neighbours the one with the even significand has the border between them. So a decimal belongs to
one double at most, signs left aside.
-/
namespace HostBridge

namespace Decimal

def value (d : Decimal) : ℚ := d.digits * 10 ^ d.exponent

theorem value_trim (d : Decimal) : d.trim.value = d.value := by
  suffices h : ∀ fuel d, (trim.go fuel d).value = d.value from h _ d
  intro fuel
  induction fuel with
  | zero => exact fun d => rfl
  | succ fuel ih =>
    intro d
    rw [trim.go]
    split
    · next hdvd =>
      have hdigits : d.digits = d.digits / 10 * 10 := by omega
      rw [ih, value, value, zpow_add_one₀ (by norm_num)]
      conv_rhs => rw [hdigits]
      push_cast
      ring
    · rfl

end Decimal

theorem zpow_mul_pow_toNat {base : ℚ} (hbase : base ≠ 0) (exponent : Int) :
    base ^ exponent * base ^ (-exponent).toNat = base ^ exponent.toNat := by
  rw [← zpow_natCast, ← zpow_natCast, ← zpow_add₀ hbase]
  congr 1
  omega

namespace Decimal

variable (d : Decimal) (quarters : Nat) (scale : Int)

theorem compareBinary_eq : ∃ left right : Nat, ∃ factor : ℚ, 0 < factor ∧
    d.compareBinary quarters scale = compare left right ∧
    (left : ℚ) = d.value * factor ∧ (right : ℚ) = quarters * 2 ^ scale * factor := by
  refine ⟨_, _, 10 ^ (-d.exponent).toNat * 2 ^ (-scale).toNat, by positivity, rfl, ?_, ?_⟩
  · push_cast [Nat.pow_eq]
    rw [value, ← zpow_mul_pow_toNat (by norm_num : (10 : ℚ) ≠ 0)]
    ring
  · push_cast [Nat.pow_eq]
    rw [← zpow_mul_pow_toNat (by norm_num : (2 : ℚ) ≠ 0)]
    ring

theorem compareBinary_lt_iff :
    d.compareBinary quarters scale = .lt ↔ d.value < quarters * 2 ^ scale := by
  obtain ⟨left, right, factor, hfactor, hcompare, hleft, hright⟩ :=
    d.compareBinary_eq quarters scale
  rw [hcompare, Nat.compare_eq_lt, ← mul_lt_mul_iff_left₀ hfactor, ← hleft, ← hright, Nat.cast_lt]

theorem compareBinary_gt_iff :
    d.compareBinary quarters scale = .gt ↔ quarters * 2 ^ scale < d.value := by
  obtain ⟨left, right, factor, hfactor, hcompare, hleft, hright⟩ :=
    d.compareBinary_eq quarters scale
  rw [hcompare, Nat.compare_eq_gt, ← mul_lt_mul_iff_left₀ hfactor, ← hleft, ← hright, Nat.cast_lt]

end Decimal

namespace Double

variable {x y : Double} {q : ℚ}

def lower (x : Double) : ℚ := x.lowerQuarters * 2 ^ x.quarterScale

def upper (x : Double) : ℚ := x.upperQuarters * 2 ^ x.quarterScale

/-- The number rounds to the absolute value of the double. -/
structure Covers (x : Double) (q : ℚ) : Prop where
  lower_le : x.lower ≤ q
  le_upper : q ≤ x.upper
  inside : x.significand % 2 = 1 → x.lower < q ∧ q < x.upper

theorem readBy_iff {d : Decimal} : x.readBy d = true ↔ x.Covers d.value := by
  unfold readBy
  split
  · next heven =>
    simp only [Bool.and_eq_true, bne_iff_ne, ne_eq, Decimal.compareBinary_lt_iff,
      Decimal.compareBinary_gt_iff, not_lt]
    constructor
    · rintro ⟨hlower, hupper⟩
      exact ⟨hlower, hupper, fun hodd => by omega⟩
    · exact fun h => ⟨h.lower_le, h.le_upper⟩
  · next hodd =>
    simp only [Bool.and_eq_true, beq_iff_eq, Decimal.compareBinary_lt_iff,
      Decimal.compareBinary_gt_iff]
    constructor
    · rintro ⟨hlower, hupper⟩
      exact ⟨hlower.le, hupper.le, fun _ => ⟨hlower, hupper⟩⟩
    · exact fun h => h.inside (by omega)

theorem magnitude_eq (x : Double) : x.magnitude = x.significand * 2 ^ x.scale := rfl

theorem four_mul_zpow_quarterScale (x : Double) : 4 * (2 : ℚ) ^ x.quarterScale = 2 ^ x.scale := by
  rw [quarterScale, zpow_sub₀ two_ne_zero]
  norm_num
  ring

theorem significand_normalized (x : Double) : Normalized 52 (-1074) x.significand x.scale :=
  @FloatFormat.normalized .double x.fields x.fractionBits_lt

theorem covers_magnitude (hx : x.significand ≠ 0) : x.Covers x.magnitude := by
  have hquarter := two_zpow_pos x.quarterScale
  have hmagnitude : x.magnitude = (4 * x.significand : Nat) * 2 ^ x.quarterScale := by
    rw [magnitude_eq, ← four_mul_zpow_quarterScale]
    push_cast
    ring
  have hlower : x.lower < x.magnitude := by
    rw [hmagnitude, lower]
    refine mul_lt_mul_of_pos_right ?_ hquarter
    have : x.lowerQuarters < 4 * x.significand := by unfold lowerQuarters; split <;> omega
    exact_mod_cast this
  have hupper : x.magnitude < x.upper := by
    rw [hmagnitude, upper]
    refine mul_lt_mul_of_pos_right ?_ hquarter
    have : 4 * x.significand < x.upperQuarters := by unfold upperQuarters; omega
    exact_mod_cast this
  exact ⟨hlower.le, hupper.le, fun _ => ⟨hlower, hupper⟩⟩

theorem onGrid?_covers {exponent : Int} {d : Decimal} (h : x.onGrid? exponent = some d) :
    x.Covers d.value := by
  unfold onGrid? at h
  simp only at h
  split at h
  · next hnearer => exact Option.some.inj h ▸ readBy_iff.mp hnearer
  · split at h
    · next hfarther => exact Option.some.inj h ▸ readBy_iff.mp hfarther
    · cases h

theorem value_searchGrids_zero (coarsest : Int) :
    (x.searchGrids 0 coarsest).value = x.magnitude := by
  rw [searchGrids, Decimal.value, magnitude_eq]
  rcases le_total 0 x.scale with hscale | hscale
  · obtain ⟨count, hcount⟩ := Int.eq_ofNat_of_zero_le hscale
    rw [hcount]
    simp
  · obtain ⟨count, hcount⟩ := Int.exists_eq_neg_ofNat hscale
    have hten : (10 : ℚ) ^ (-count : ℤ) = 2 ^ (-count : ℤ) * (5 ^ count)⁻¹ := by
      rw [← zpow_natCast, ← zpow_neg, ← mul_zpow]
      norm_num
    have hfive : (5 : ℚ) ^ count * (5 ^ count)⁻¹ = 1 := mul_inv_cancel₀ (by positivity)
    simp only [hcount, Nat.pow_eq, neg_neg, Int.toNat_neg_natCast, Int.toNat_natCast, pow_zero,
      mul_one, min_eq_left (neg_nonpos.mpr (Int.natCast_nonneg count)), hten]
    push_cast
    calc (x.significand : ℚ) * 5 ^ count * (2 ^ (-count : ℤ) * (5 ^ count)⁻¹)
        = x.significand * 2 ^ (-count : ℤ) * (5 ^ count * (5 ^ count)⁻¹) := by ring
      _ = x.significand * 2 ^ (-count : ℤ) := by rw [hfive, mul_one]

theorem searchGrids_covers (hx : x.significand ≠ 0) (grids : Nat) (coarsest : Int) :
    x.Covers (x.searchGrids grids coarsest).value := by
  induction grids generalizing coarsest with
  | zero => exact value_searchGrids_zero coarsest ▸ covers_magnitude hx
  | succ grids ih =>
    rw [searchGrids]
    cases hgrid : x.onGrid? coarsest with
    | some d => exact onGrid?_covers hgrid
    | none => exact ih (coarsest - 1)

theorem shortest_covers (hx : x.significand ≠ 0) : x.Covers x.shortest.value := by
  rw [shortest, if_neg hx, Decimal.value_trim]
  exact searchGrids_covers hx _ _

theorem four_mul_significand_le (x : Double) : 4 * x.significand ≤ x.lowerQuarters + 2 := by
  unfold lowerQuarters
  split <;> omega

theorem lowerQuarters_ge (hx : -1074 < x.scale) : 2 ^ 54 ≤ x.lowerQuarters + 1 := by
  have hexponent : 1 < x.exponentBits := by
    unfold scale at hx
    omega
  have hsignificand : x.significand = 2 ^ 52 + x.fractionBits := if_neg (by omega)
  unfold lowerQuarters
  split <;> omega

theorem Covers.apart (hx : x.Covers q) (hle : x.upper ≤ y.lower)
    (hborder : x.upper < y.lower ∨ x.significand % 2 = 1 ∨ y.significand % 2 = 1) :
    ¬y.Covers q := by
  intro hy
  rcases hborder with hlt | hodd | hodd
  · exact absurd (hy.lower_le.trans hx.le_upper) hlt.not_ge
  · exact absurd (hle.trans hy.lower_le) (hx.inside hodd).2.not_ge
  · exact absurd (hx.le_upper.trans hle) (hy.inside hodd).1.not_ge

theorem Covers.not_of_scale_lt (hx : x.Covers q) (hlt : x.scale < y.scale) : ¬y.Covers q := by
  have hquarter := two_zpow_pos x.quarterScale
  have hstep : 2 * (2 : ℚ) ^ x.quarterScale ≤ 2 ^ y.quarterScale :=
    two_mul_zpow_le (Int.sub_lt_sub_right hlt 2)
  have hquarters : (2 : ℚ) ^ 54 ≤ y.lowerQuarters + 1 := by
    exact_mod_cast lowerQuarters_ge (lt_of_le_of_lt x.significand_normalized.least_le hlt)
  have hlower : (2 ^ 55 - 2) * (2 : ℚ) ^ x.quarterScale ≤ y.lower :=
    calc (2 ^ 55 - 2) * (2 : ℚ) ^ x.quarterScale
        = (2 ^ 54 - 1) * (2 * (2 : ℚ) ^ x.quarterScale) := by ring
      _ ≤ (y.lowerQuarters : ℚ) * 2 ^ y.quarterScale :=
        mul_le_mul (by linarith) hstep (by positivity) (by positivity)
  have hbound := x.significand_normalized.bound
  by_cases hodd : x.significand % 2 = 1
  · refine hx.apart (le_trans ?_ hlower) (.inr (.inl hodd))
    have hfits : x.upperQuarters + 2 ≤ 2 ^ 55 := by unfold upperQuarters; omega
    have hfits' : (x.upperQuarters : ℚ) + 2 ≤ 2 ^ 55 := by exact_mod_cast hfits
    exact mul_le_mul_of_nonneg_right (by linarith) hquarter.le
  · have hupper : x.upper < y.lower := by
      refine lt_of_lt_of_le ?_ hlower
      have hfits : x.upperQuarters + 2 < 2 ^ 55 := by unfold upperQuarters; omega
      have hfits' : (x.upperQuarters : ℚ) + 2 < 2 ^ 55 := by exact_mod_cast hfits
      exact mul_lt_mul_of_pos_right (by linarith) hquarter
    exact hx.apart hupper.le (.inl hupper)

theorem Covers.not_of_significand_lt (hx : x.Covers q) (hscale : x.scale = y.scale)
    (hlt : x.significand < y.significand) : ¬y.Covers q := by
  have hquarter := two_zpow_pos y.quarterScale
  have hlower := y.four_mul_significand_le
  have hupper : x.upper = x.upperQuarters * 2 ^ y.quarterScale := by
    rw [upper, quarterScale, hscale, quarterScale]
  by_cases hodd : x.significand % 2 = 1 ∨ y.significand % 2 = 1
  · have hquarters : x.upperQuarters ≤ y.lowerQuarters := by unfold upperQuarters; omega
    have hle : x.upper ≤ y.lower := by
      rw [hupper]
      exact mul_le_mul_of_nonneg_right (by exact_mod_cast hquarters) hquarter.le
    exact hx.apart hle (.inr hodd)
  · have hquarters : x.upperQuarters < y.lowerQuarters := by unfold upperQuarters; omega
    have hlt' : x.upper < y.lower := by
      rw [hupper]
      exact mul_lt_mul_of_pos_right (by exact_mod_cast hquarters) hquarter
    exact hx.apart hlt'.le (.inl hlt')

theorem Covers.unique (hx : x.Covers q) (hy : y.Covers q) (hsign : x.isNegative = y.isNegative) :
    x = y := by
  rcases lt_trichotomy x.scale y.scale with hlt | hscale | hgt
  · exact absurd hy (hx.not_of_scale_lt hlt)
  · rcases lt_trichotomy x.significand y.significand with hlt | hsignificand | hgt
    · exact absurd hy (hx.not_of_significand_lt hscale hlt)
    · exact eq_of_parts hsign hsignificand hscale
    · exact absurd hx (hy.not_of_significand_lt hscale.symm hgt)
  · exact absurd hx (hy.not_of_scale_lt hgt)

theorem not_covers_zero (hx : x.significand ≠ 0) : ¬x.Covers 0 := by
  intro h
  have hquarters : 0 < x.lowerQuarters := by
    have := x.four_mul_significand_le
    omega
  have hlower : 0 < x.lower :=
    mul_pos (by exact_mod_cast hquarters) (two_zpow_pos x.quarterScale)
  exact absurd h.lower_le hlower.not_ge

theorem eq_of_value_shortest (hsign : x.isNegative = y.isNegative)
    (h : x.shortest.value = y.shortest.value) : x = y := by
  have hzero {z : Double} (hz : z.significand = 0) : z.shortest.value = 0 := by
    simp [shortest, hz, Decimal.value]
  by_cases hx : x.significand = 0 <;> by_cases hy : y.significand = 0
  · have hmagnitude : x.magnitude = y.magnitude := by simp [magnitude_eq, hx, hy]
    exact eq_of_magnitude hsign hmagnitude
  · exact absurd ((h.symm.trans (hzero hx)) ▸ shortest_covers hy) (not_covers_zero hy)
  · exact absurd ((h.trans (hzero hy)) ▸ shortest_covers hx) (not_covers_zero hx)
  · exact (shortest_covers hx).unique (h ▸ shortest_covers hy) hsign

end Double
end HostBridge
