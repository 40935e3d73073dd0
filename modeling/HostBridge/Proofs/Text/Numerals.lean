import Mathlib.Data.List.Induction
import Mathlib.Tactic.Ring
import HostBridge.Text.Reader
import HostBridge.Text.Display

/-!
# Numerals read back

The digits of a numeral give its number back, whatever zeros are in front. So no two numbers have
the same numeral.
-/
namespace HostBridge

theorem digitValue_digitChar {n : Nat} (h : n < 16) : digitValue n.digitChar = n := by
  have hall : ∀ n : Fin 16, digitValue (Nat.digitChar n.val) = n.val := by decide
  exact hall ⟨n, h⟩

section
variable {base : Nat}

theorem numberOf_concat (digits : List Char) (c : Char) :
    numberOf base (digits ++ [c]) = base * numberOf base digits + digitValue c := by
  rw [numberOf, List.foldl_append]
  rfl

theorem numberOf_append (front back : List Char) :
    numberOf base (front ++ back) =
      numberOf base front * base ^ back.length + numberOf base back := by
  induction back using List.reverseRecOn with
  | nil => simp [numberOf]
  | append_singleton back c ih =>
    rw [← List.append_assoc, numberOf_concat, numberOf_concat, ih, List.length_append,
      List.length_singleton]
    ring

theorem numberOf_zeros (count : Nat) : numberOf base (List.replicate count '0') = 0 := by
  induction count with
  | zero => rfl
  | succ count ih =>
    rw [List.replicate_succ', numberOf_concat, ih]
    rfl

theorem numberOf_zeros_append (count : Nat) (digits : List Char) :
    numberOf base (List.replicate count '0' ++ digits) = numberOf base digits := by
  rw [numberOf_append, numberOf_zeros, Nat.zero_mul, Nat.zero_add]

theorem numberOf_toDigits (hbase : 1 < base) (hhex : base ≤ 16) (n : Nat) :
    numberOf base (Nat.toDigits base n) = n := by
  induction n using Nat.strongRecOn with
  | ind n ih =>
    by_cases hn : n < base
    · rw [Nat.toDigits_of_lt_base hn]
      exact (numberOf_concat [] _).trans
        (by rw [digitValue_digitChar (lt_of_lt_of_le hn hhex)]; exact Nat.zero_add n)
    · have hmod : n % base < 16 := lt_of_lt_of_le (Nat.mod_lt n (by omega)) hhex
      rw [Nat.toDigits_of_base_le hbase (by omega), numberOf_concat, digitValue_digitChar hmod,
        ih (n / base) (Nat.div_lt_self (by omega) hbase)]
      exact Nat.div_add_mod n base

end

theorem numberOf_natChars (n : Nat) : numberOf 10 (natChars n) = n :=
  numberOf_toDigits (by decide) (by decide) n

theorem isDigit_of_mem_natChars {n : Nat} {c : Char} (h : c ∈ natChars n) : c.isDigit = true :=
  Nat.isDigit_of_mem_toDigits (by decide) (by decide) h

theorem natChars_ne_nil (n : Nat) : natChars n ≠ [] := Nat.toDigits_ne_nil

theorem natChars_injective : Function.Injective natChars :=
  Function.LeftInverse.injective numberOf_natChars

theorem natText_injective : Function.Injective natText :=
  fun _ _ h => natChars_injective (String.ofList_injective h)

theorem minus_not_mem_natChars (n : Nat) : '-' ∉ natChars n :=
  fun h => by cases isDigit_of_mem_natChars h

theorem intChars_injective : Function.Injective intChars := by
  intro i j h
  have hi := minus_not_mem_natChars i.natAbs
  have hj := minus_not_mem_natChars j.natAbs
  unfold intChars at h
  split at h <;> split at h
  · have habs := natChars_injective (List.cons.inj h).2
    omega
  · exact absurd (h ▸ List.mem_cons_self) hj
  · exact absurd (h ▸ List.mem_cons_self) hi
  · have habs := natChars_injective h
    omega

theorem intText_injective : Function.Injective intText :=
  fun _ _ h => intChars_injective (String.ofList_injective h)

theorem not_mem_intChars {c : Char} (hminus : c ≠ '-') (hdigit : c.isDigit = false) (i : Int) :
    c ∉ intChars i := by
  have hnat : c ∉ natChars i.natAbs := fun h => by
    rw [isDigit_of_mem_natChars h] at hdigit
    cases hdigit
  unfold intChars
  split
  · rw [List.mem_cons, not_or]
    exact ⟨hminus, hnat⟩
  · exact hnat

theorem numberOf_hexChars (width n : Nat) : numberOf 16 (hexChars width n) = n := by
  rw [hexChars, numberOf_zeros_append]
  exact numberOf_toDigits (by decide) (by decide) n

theorem hexText_injective (width : Nat) : Function.Injective (hexText width) :=
  fun _ _ h => Function.LeftInverse.injective (numberOf_hexChars width) (String.ofList_injective h)

end HostBridge
