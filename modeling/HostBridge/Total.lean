/-!
# Totals

What the entries of a list come to together: the bits of all bytes, or the sum of the sizes.
-/
namespace HostBridge

theorem foldl_or_eq_zero (bytes : List UInt8) (start : UInt8) :
    bytes.foldl (· ||| ·) start = 0 ↔ start = 0 ∧ ∀ byte ∈ bytes, byte = 0 := by
  induction bytes generalizing start with
  | nil => simp
  | cons byte rest ih =>
    rw [List.foldl_cons, ih, UInt8.or_eq_zero_iff, List.forall_mem_cons, and_assoc]

theorem zipWith_xor_eq_zero_iff {a b : List UInt8} (h : a.length = b.length) :
    (∀ difference ∈ List.zipWith (· ^^^ ·) a b, difference = 0) ↔ a = b := by
  induction a generalizing b with
  | nil =>
    cases b with
    | nil => simp
    | cons y b => cases h
  | cons x a ih =>
    cases b with
    | nil => cases h
    | cons y b =>
      rw [List.zipWith_cons_cons, List.forall_mem_cons, ih (Nat.succ.inj h),
        UInt8.xor_eq_zero_iff, List.cons.injEq]

variable {α β : Type} (size : α → Nat)

def totalOf : List α → Nat
  | [] => 0
  | a :: l => size a + totalOf l

@[simp]
theorem totalOf_nil : totalOf size [] = 0 := rfl

@[simp]
theorem totalOf_cons (a : α) (l : List α) : totalOf size (a :: l) = size a + totalOf size l := rfl

@[simp]
theorem totalOf_append (l m : List α) :
    totalOf size (l ++ m) = totalOf size l + totalOf size m := by
  induction l with
  | nil => simp
  | cons a l ih =>
    rw [List.cons_append, totalOf_cons, totalOf_cons, ih]
    omega

theorem totalOf_zero (l : List α) : totalOf (fun _ => 0) l = 0 := by
  induction l with
  | nil => rfl
  | cons a l ih => rw [totalOf_cons, ih]

theorem totalOf_map (f : β → α) (l : List β) :
    totalOf size (l.map f) = totalOf (fun b => size (f b)) l := by
  induction l with
  | nil => rfl
  | cons b l ih => rw [List.map_cons, totalOf_cons, totalOf_cons, ih]

theorem totalOf_flatMap (f : β → List α) (l : List β) :
    totalOf size (l.flatMap f) = totalOf (fun b => totalOf size (f b)) l := by
  induction l with
  | nil => rfl
  | cons b l ih => rw [List.flatMap_cons, totalOf_append, totalOf_cons, ih]

theorem totalOf_mono {size bound : α → Nat} (h : ∀ a, size a ≤ bound a) (l : List α) :
    totalOf size l ≤ totalOf bound l := by
  induction l with
  | nil => exact Nat.le_refl 0
  | cons a l ih => exact Nat.add_le_add (h a) ih

theorem length_filterMap_le_totalOf (pick : α → Option β) {l : List α}
    (h : ∀ a ∈ l, (pick a).isSome = true → 0 < size a) :
    (l.filterMap pick).length ≤ totalOf size l := by
  induction l with
  | nil => exact Nat.le_refl 0
  | cons a l ih =>
    have hrest := ih fun b hb => h b (List.mem_cons_of_mem _ hb)
    have hfirst := h a List.mem_cons_self
    rw [totalOf_cons, List.filterMap_cons]
    cases hpick : pick a with
    | none => exact Nat.le_add_left_of_le hrest
    | some b =>
      rw [hpick] at hfirst
      have hpos := hfirst rfl
      simp only [List.length_cons]
      omega

theorem totalOf_modify_le (f : α → α) (extra : Nat) (h : ∀ a, size (f a) ≤ size a + extra)
    (l : List α) (index : Nat) : totalOf size (l.modify index f) ≤ totalOf size l + extra := by
  induction l generalizing index with
  | nil => cases index <;> simp
  | cons a l ih =>
    cases index with
    | zero =>
      have := h a
      simp only [List.modify_zero_cons, totalOf_cons]
      omega
    | succ index =>
      have := ih index
      simp only [List.modify_succ_cons, totalOf_cons]
      omega

theorem totalOf_modify_getD (f : α → α) (less : Nat) (default : α) (l : List α) (index : Nat)
    (inside : index < l.length)
    (h : size (f (l.getD index default)) + less = size (l.getD index default)) :
    totalOf size (l.modify index f) + less = totalOf size l := by
  induction l generalizing index with
  | nil => simp at inside
  | cons a l ih =>
    cases index with
    | zero =>
      simp only [List.getD_cons_zero] at h
      simp only [List.modify_zero_cons, totalOf_cons]
      omega
    | succ index =>
      simp only [List.getD_cons_succ] at h
      have := ih index (by simpa using inside) h
      simp only [List.modify_succ_cons, totalOf_cons]
      omega

theorem le_totalOf {l : List α} {a : α} (h : a ∈ l) : size a ≤ totalOf size l := by
  induction l with
  | nil => cases h
  | cons b l ih =>
    rw [totalOf_cons]
    rcases List.mem_cons.mp h with rfl | h
    · omega
    · have := ih h
      omega

theorem eq_of_totalOf_le_one {l : List α} (h : totalOf size l ≤ 1) {a b : α} (ha : a ∈ l)
    (hb : b ∈ l) (hsa : 0 < size a) (hsb : 0 < size b) : a = b := by
  induction l with
  | nil => cases ha
  | cons c l ih =>
    rw [totalOf_cons] at h
    cases List.mem_cons.mp ha with
    | inl hac =>
      cases List.mem_cons.mp hb with
      | inl hbc => rw [hac, hbc]
      | inr hbl =>
        have hle := le_totalOf size hbl
        rw [hac] at hsa
        omega
    | inr hal =>
      cases List.mem_cons.mp hb with
      | inl hbc =>
        have hle := le_totalOf size hal
        rw [hbc] at hsb
        omega
      | inr hbl => exact ih (by omega) hal hbl

end HostBridge
