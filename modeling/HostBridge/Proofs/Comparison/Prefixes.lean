import HostBridge.Comparison
import HostBridge.Total

/-!
# Comparing prefixes

Whether the differences are gathered before they are looked at or the first one ends the search, two
strings are found equal exactly if both are long enough and agree on the bytes compared. So the
comparison of one length is symmetric and transitive, a shorter one follows from a longer one, and a
string equals itself as far as it goes. The boundary answers in the same way, after a look at the
pointers.
-/
namespace HostBridge

theorem allEqual_iff (a b : List UInt8) : allEqual a b = true ↔ a = b := by
  rw [allEqual, Bool.and_eq_true, beq_iff_eq, beq_iff_eq, foldl_or_eq_zero]
  constructor
  · rintro ⟨hlength, -, hnone⟩
    exact (zipWith_xor_eq_zero_iff hlength).mp hnone
  · rintro rfl
    exact ⟨rfl, rfl, (zipWith_xor_eq_zero_iff rfl).mpr rfl⟩

theorem equalUntil_iff (a b : List UInt8) : equalUntil a b = true ↔ a = b := by
  induction a generalizing b with
  | nil => cases b <;> simp [equalUntil]
  | cons x a ih =>
    cases b with
    | nil => simp [equalUntil]
    | cons y b =>
      rw [equalUntil, List.cons.injEq, ← ih]
      by_cases h : x = y <;> simp [h]

structure Agree (a b : List UInt8) (length : Nat) : Prop where
  left : length ≤ a.length
  right : length ≤ b.length
  same : ∀ i < length, a[i]? = b[i]?

namespace Agree

variable {a b c : List UInt8} {m n : Nat}

theorem mono (h : Agree a b n) (hle : m ≤ n) : Agree a b m where
  left := Nat.le_trans hle h.left
  right := Nat.le_trans hle h.right
  same i hi := h.same i (by omega)

theorem symm (h : Agree a b n) : Agree b a n where
  left := h.right
  right := h.left
  same i hi := (h.same i hi).symm

theorem trans (h : Agree a b n) (h' : Agree b c n) : Agree a c n where
  left := h.left
  right := h'.right
  same i hi := (h.same i hi).trans (h'.same i hi)

theorem zero (a b : List UInt8) : Agree a b 0 where
  left := Nat.zero_le _
  right := Nat.zero_le _
  same i hi := by omega

theorem self_iff : Agree a a n ↔ n ≤ a.length :=
  ⟨left, fun h => ⟨h, h, fun _ _ => rfl⟩⟩

end Agree

theorem agree_iff_take_eq {a b : List UInt8} {n : Nat} :
    Agree a b n ↔ n ≤ a.length ∧ n ≤ b.length ∧ a.take n = b.take n := by
  constructor
  · intro h
    refine ⟨h.left, h.right, List.ext_getElem? fun i => ?_⟩
    rw [List.getElem?_take, List.getElem?_take]
    by_cases hi : i < n
    · rw [if_pos hi, if_pos hi, h.same i hi]
    · rw [if_neg hi, if_neg hi]
  · rintro ⟨hleft, hright, htake⟩
    refine ⟨hleft, hright, fun i hi => ?_⟩
    rw [← List.getElem?_take_of_lt hi, htake, List.getElem?_take_of_lt hi]

theorem agree_congr {a a' b b' : List UInt8} {n : Nat} (ha : a.take n = a'.take n)
    (hb : b.take n = b'.take n) : Agree a b n ↔ Agree a' b' n := by
  have hlonger {s s' : List UInt8} (h : s.take n = s'.take n) : n ≤ s.length ↔ n ≤ s'.length := by
    have hlength := congrArg List.length h
    rw [List.length_take, List.length_take] at hlength
    omega
  rw [agree_iff_take_eq, agree_iff_take_eq, hlonger ha, hlonger hb, ha, hb]

theorem comparePrefixes_eq_equal_iff {eq : List UInt8 → List UInt8 → Bool}
    (heq : ∀ a b, eq a b = true ↔ a = b) {a b : List UInt8} {n : Nat} :
    comparePrefixes eq a b n = .equal ↔ Agree a b n := by
  rw [agree_iff_take_eq, comparePrefixes, firstBytes?, firstBytes?]
  by_cases ha : n ≤ a.length
  · by_cases hb : n ≤ b.length
    · rw [if_pos ha, if_pos hb, ← heq]
      cases h : eq (a.take n) (b.take n) <;> simp [Comparison.ofBool, ha, hb, h]
    · simp [ha, hb]
  · simp [ha]

/-- What makes a comparison of prefixes. -/
structure ComparesPrefixes (compare : List UInt8 → List UInt8 → Nat → Comparison) : Prop where
  equal_iff : ∀ a b n, compare a b n = .equal ↔ Agree a b n
  beyond : ∀ a a' b b' n, a.take n = a'.take n → b.take n = b'.take n →
    compare a b n = compare a' b' n
  shorter : ∀ a b m n, m ≤ n → compare a b n = .equal → compare a b m = .equal
  symm : ∀ a b n, compare a b n = compare b a n
  trans : ∀ a b c n, compare a b n = .equal → compare b c n = .equal → compare a c n = .equal
  refl_iff : ∀ a n, compare a a n = .equal ↔ n ≤ a.length

theorem Comparison.eq_of_equal_iff {c d : Comparison} (h : c = equal ↔ d = equal) : c = d := by
  cases c <;> cases d <;> simp_all

theorem comparesPrefixes_of_equal_iff {compare : List UInt8 → List UInt8 → Nat → Comparison}
    (h : ∀ a b n, compare a b n = .equal ↔ Agree a b n) : ComparesPrefixes compare where
  equal_iff := h
  beyond a a' b b' n ha hb := by
    apply Comparison.eq_of_equal_iff
    rw [h, h, agree_congr ha hb]
  shorter a b m n hle heq := (h a b m).mpr (((h a b n).mp heq).mono hle)
  symm a b n := by
    apply Comparison.eq_of_equal_iff
    rw [h, h]
    exact ⟨Agree.symm, Agree.symm⟩
  trans a b c n hab hbc := (h a c n).mpr (((h a b n).mp hab).trans ((h b c n).mp hbc))
  refl_iff a n := (h a a n).trans Agree.self_iff

theorem compareSecret_comparesPrefixes : ComparesPrefixes compareSecret :=
  comparesPrefixes_of_equal_iff fun _ _ _ => comparePrefixes_eq_equal_iff allEqual_iff

theorem comparePublic_comparesPrefixes : ComparesPrefixes comparePublic :=
  comparesPrefixes_of_equal_iff fun _ _ _ => comparePrefixes_eq_equal_iff equalUntil_iff

theorem ComparesPrefixes.unique {compare other : List UInt8 → List UInt8 → Nat → Comparison}
    (h : ComparesPrefixes compare) (h' : ComparesPrefixes other) : compare = other := by
  funext a b n
  exact Comparison.eq_of_equal_iff ((h.equal_iff a b n).trans (h'.equal_iff a b n).symm)

theorem Comparison.status_eq_zero_iff {c : Comparison} : c.status = 0 ↔ c = equal := by
  cases c <;> decide

theorem Comparison.status_eq_zero_or_one (c : Comparison) : c.status = 0 ∨ c.status = 1 := by
  cases c <;> decide

structure ComparesPointers (compare : List UInt8 → List UInt8 → Nat → Comparison) : Prop where
  zero_iff : ∀ (a b : Pointer) n, comparePointers compare a b n = 0 ↔
    n = 0 ∨ ∃ x y, a = some x ∧ b = some y ∧ Agree x y n
  zero_or_one : ∀ (a b : Pointer) n,
    comparePointers compare a b n = 0 ∨ comparePointers compare a b n = 1
  bytes : ∀ x y n, comparePointers compare (some x) (some y) n = (compare x y n).status

section pointers
variable {compare : List UInt8 → List UInt8 → Nat → Comparison} (h : ComparesPrefixes compare)
include h

theorem ComparesPrefixes.comparePointers_some (x y : List UInt8) (n : Nat) :
    comparePointers compare (some x) (some y) n = (compare x y n).status := by
  rcases Nat.eq_zero_or_pos n with rfl | hpos
  · rw [comparePointers, if_pos rfl, h.beyond [] x [] y 0 rfl rfl]
  · rw [comparePointers, if_neg (Nat.ne_of_gt hpos)]

theorem ComparesPrefixes.comparePointers_zero (a b : Pointer) :
    comparePointers compare a b 0 = 0 := by
  unfold comparePointers
  rw [if_pos rfl, Comparison.status_eq_zero_iff, h.equal_iff]
  exact .zero [] []

omit h in
theorem comparePointers_null {a b : Pointer} {n : Nat} (hpos : 0 < n) (hnull : a = none ∨ b = none) :
    comparePointers compare a b n = 1 := by
  unfold comparePointers
  rw [if_neg (Nat.ne_of_gt hpos)]
  rcases hnull with rfl | rfl
  · rfl
  · cases a <;> rfl

theorem ComparesPrefixes.comparePointers_eq_zero_iff {a b : Pointer} {n : Nat} :
    comparePointers compare a b n = 0 ↔
      n = 0 ∨ ∃ x y, a = some x ∧ b = some y ∧ Agree x y n := by
  rcases Nat.eq_zero_or_pos n with rfl | hpos
  · exact iff_of_true (h.comparePointers_zero a b) (.inl rfl)
  · rw [or_iff_right (Nat.ne_of_gt hpos)]
    by_cases hnull : a = none ∨ b = none
    · rw [comparePointers_null hpos hnull]
      refine iff_of_false (by decide) ?_
      rintro ⟨x, y, rfl, rfl, -⟩
      simp at hnull
    · obtain ⟨ha, hb⟩ := not_or.mp hnull
      obtain ⟨x, rfl⟩ := Option.ne_none_iff_exists'.mp ha
      obtain ⟨y, rfl⟩ := Option.ne_none_iff_exists'.mp hb
      rw [h.comparePointers_some, Comparison.status_eq_zero_iff, h.equal_iff]
      simp

theorem ComparesPrefixes.comparesPointers : ComparesPointers compare where
  zero_iff _ _ _ := h.comparePointers_eq_zero_iff
  zero_or_one a b n := by
    unfold comparePointers
    split
    · exact Comparison.status_eq_zero_or_one _
    · split <;> exact Comparison.status_eq_zero_or_one _
  bytes := h.comparePointers_some

end pointers

theorem comparisons_agree :
    ComparesPrefixes compareSecret ∧ ComparesPointers compareSecret ∧
      (∀ a b n, compareSecret a b n = comparePublic a b n) ∧
      ∀ a b n, comparePointers compareSecret a b n = comparePointers comparePublic a b n := by
  have hsame := compareSecret_comparesPrefixes.unique comparePublic_comparesPrefixes
  refine ⟨compareSecret_comparesPrefixes, compareSecret_comparesPrefixes.comparesPointers, ?_, ?_⟩
  · intro a b n
    rw [hsame]
  · intro a b n
    rw [hsame]

end HostBridge
