import Mathlib.Data.List.TakeWhile
import HostBridge.Number.Decimal
import HostBridge.Proofs.Number.RoundingInterval
import HostBridge.Proofs.Text.Numerals

/-!
# Doubles written positionally

A positional numeral is read back by its digits and by how many of them stand behind the point. What
a double is written as reads back as a number that rounds to it, so all doubles have texts of their
own but the NaNs, which share one.
-/
namespace HostBridge

def positionalValue (chars : List Char) : ℚ :=
  numberOf 10 (chars.filter (· != '.')) / 10 ^ ((chars.dropWhile (· != '.')).length - 1)

theorem ne_point_of_isDigit {c : Char} (h : c.isDigit = true) : (c != '.') = true := by
  rw [bne_iff_ne]
  rintro rfl
  cases h

theorem filter_point_of_digits {digits : List Char} (h : ∀ c ∈ digits, c.isDigit = true) :
    digits.filter (· != '.') = digits :=
  List.filter_eq_self.mpr fun c hc => ne_point_of_isDigit (h c hc)

theorem positionalValue_whole {digits : List Char} (h : ∀ c ∈ digits, c.isDigit = true) :
    positionalValue digits = numberOf 10 digits := by
  have hdrop : digits.dropWhile (· != '.') = [] :=
    List.dropWhile_eq_nil_iff.mpr fun c hc => ne_point_of_isDigit (h c hc)
  rw [positionalValue, filter_point_of_digits h, hdrop]
  simp

theorem positionalValue_point {front back : List Char} (hfront : ∀ c ∈ front, c.isDigit = true)
    (hback : ∀ c ∈ back, c.isDigit = true) :
    positionalValue (front ++ '.' :: back) =
      numberOf 10 (front ++ back) / 10 ^ back.length := by
  have hdrop : (front ++ '.' :: back).dropWhile (· != '.') = '.' :: back :=
    List.dropWhile_append_of_pos fun c hc => ne_point_of_isDigit (hfront c hc)
  rw [positionalValue, hdrop, List.filter_append, List.filter_cons_of_neg (by decide),
    filter_point_of_digits hfront, filter_point_of_digits hback, List.length_cons,
    Nat.add_sub_cancel]

namespace Decimal

theorem isDigit_zeros {count : Nat} {c : Char} (h : c ∈ List.replicate count '0') :
    c.isDigit = true := by
  rw [List.eq_of_mem_replicate h]
  rfl

theorem positionalValue_plainChars (d : Decimal) :
    positionalValue (d.plainChars false) = d.value := by
  have hnumber := numberOf_natChars d.digits
  have hdigit : ∀ c ∈ natChars d.digits, c.isDigit = true := fun c => isDigit_of_mem_natChars
  unfold plainChars
  simp only [Bool.false_eq_true, if_false, List.append_nil]
  rcases le_or_gt 0 d.exponent with hexponent | hexponent
  · obtain ⟨count, hcount⟩ := Int.eq_ofNat_of_zero_le hexponent
    rw [if_pos hexponent, hcount, Int.toNat_natCast, positionalValue_whole, numberOf_append,
      numberOf_zeros, hnumber, value, hcount]
    · simp
    · intro c hc
      rcases List.mem_append.mp hc with hc | hc
      · exact hdigit c hc
      · exact isDigit_zeros hc
  · obtain ⟨places, hplaces⟩ := Int.exists_eq_neg_ofNat hexponent.le
    have hvalue : d.value = (d.digits : ℚ) / 10 ^ places := by
      rw [value, hplaces, zpow_neg, zpow_natCast, div_eq_mul_inv]
    rw [if_neg hexponent.not_ge, hplaces, neg_neg, Int.toNat_natCast, hvalue]
    split
    · next hlt =>
      rw [positionalValue_point (fun c hc => hdigit c (List.mem_of_mem_take hc))
        (fun c hc => hdigit c (List.mem_of_mem_drop hc)), List.take_append_drop, hnumber,
        List.length_drop, Nat.sub_sub_self hlt.le]
    · next hge =>
      have hback : ∀ c ∈ List.replicate (places - (natChars d.digits).length) '0' ++
          natChars d.digits, c.isDigit = true := by
        intro c hc
        rcases List.mem_append.mp hc with hc | hc
        · exact isDigit_zeros hc
        · exact hdigit c hc
      have hlength : places - (natChars d.digits).length + (natChars d.digits).length = places :=
        Nat.sub_add_cancel (not_lt.mp hge)
      have hfront : ∀ c ∈ ['0'], c.isDigit = true := fun c => @isDigit_zeros 1 c
      have h : positionalValue (['0'] ++ '.' :: _) = _ := positionalValue_point hfront hback
      rw [List.length_append, List.length_replicate, hlength] at h
      refine h.trans ?_
      rw [← List.singleton_append, numberOf_append, numberOf_zeros_append, hnumber]
      simp [numberOf, digitValue]

theorem head_plainChars (d : Decimal) :
    ∃ c rest, d.plainChars false = c :: rest ∧ c.isDigit = true := by
  obtain ⟨c, digits, hdigits⟩ := List.exists_cons_of_ne_nil (natChars_ne_nil d.digits)
  have hc : c.isDigit = true := isDigit_of_mem_natChars (hdigits ▸ List.mem_cons_self)
  unfold plainChars
  simp only
  split
  · exact ⟨c, _, by rw [hdigits]; rfl, hc⟩
  · split
    · next hlt =>
      obtain ⟨count, hcount⟩ := Nat.exists_eq_succ_of_ne_zero (Nat.sub_pos_of_lt hlt).ne'
      exact ⟨c, _, by rw [hcount, hdigits]; rfl, hc⟩
    · exact ⟨'0', _, rfl, rfl⟩

end Decimal

namespace Double

variable {x y : Double}

def unsignedChars (x : Double) : List Char :=
  if x.isInfinite then ['i', 'n', 'f'] else x.shortest.plainChars false

theorem chars_positional (hnan : x.isNaN = false) :
    x.chars .positional = (if x.isNegative then ['-'] else []) ++ x.unsignedChars := by
  have hplain (d : Decimal) : d.chars .positional = d.plainChars false := by
    rw [Decimal.chars, DecimalLayout.isPlain]
    simp [DecimalLayout.positional]
  rw [chars, hnan, hplain]
  rfl

theorem head_unsignedChars (x : Double) : ∃ c rest, x.unsignedChars = c :: rest ∧
    (x.isInfinite = true ∧ c = 'i' ∨ x.isInfinite = false ∧ c.isDigit = true) := by
  unfold unsignedChars
  cases hinfinite : x.isInfinite with
  | true => exact ⟨'i', _, rfl, .inl ⟨rfl, rfl⟩⟩
  | false =>
    obtain ⟨c, rest, hchars, hc⟩ := x.shortest.head_plainChars
    exact ⟨c, rest, hchars, .inr ⟨rfl, hc⟩⟩

theorem not_head_unsignedChars {c : Char} {rest : List Char} (hc : c.isDigit = false)
    (hi : c ≠ 'i') : x.unsignedChars ≠ c :: rest := by
  intro h
  obtain ⟨c', rest', h', ⟨-, hc'⟩ | ⟨-, hc'⟩⟩ := x.head_unsignedChars
  · exact hi ((List.cons.inj (h.symm.trans h')).1.trans hc')
  · rw [(List.cons.inj (h.symm.trans h')).1, hc'] at hc
    cases hc

theorem eq_of_unsignedChars (hsign : x.isNegative = y.isNegative)
    (h : x.unsignedChars = y.unsignedChars) : x = y := by
  have hinfinite : x.isInfinite = y.isInfinite := by
    obtain ⟨c, rest, hx, hx'⟩ := x.head_unsignedChars
    obtain ⟨c', rest', hy, hy'⟩ := y.head_unsignedChars
    obtain rfl : c = c' := (List.cons.inj (hx.symm.trans (h.trans hy))).1
    rcases hx' with ⟨hxi, rfl⟩ | ⟨hxf, hc⟩
    · rcases hy' with ⟨hyi, -⟩ | ⟨-, hc'⟩
      · rw [hxi, hyi]
      · cases hc'
    · rcases hy' with ⟨-, rfl⟩ | ⟨hyf, -⟩
      · cases hc
      · rw [hxf, hyf]
  unfold unsignedChars at h
  rw [← hinfinite] at h
  cases hx : x.isInfinite with
  | true =>
    have hy : y.isInfinite = true := hinfinite ▸ hx
    simp only [isInfinite, Bool.and_eq_true, beq_iff_eq] at hx hy
    exact fields_injective (FloatFields.ext hsign (hx.1.trans hy.1.symm) (hx.2.trans hy.2.symm))
  | false =>
    rw [hx] at h
    apply eq_of_value_shortest hsign
    rw [← Decimal.positionalValue_plainChars, ← Decimal.positionalValue_plainChars]
    exact congrArg positionalValue h

theorem eq_of_chars_positional (hx : x.isNaN = false) (hy : y.isNaN = false)
    (h : x.chars .positional = y.chars .positional) : x = y := by
  rw [chars_positional hx, chars_positional hy] at h
  cases hxs : x.isNegative <;> cases hys : y.isNegative <;> rw [hxs, hys] at h
  · exact eq_of_unsignedChars (hxs.trans hys.symm) h
  · exact absurd h (not_head_unsignedChars (by decide) (by decide))
  · exact absurd h.symm (not_head_unsignedChars (by decide) (by decide))
  · exact eq_of_unsignedChars (hxs.trans hys.symm) (List.cons.inj h).2

theorem chars_positional_ne_nan (hx : x.isNaN = false) :
    x.chars .positional ≠ ['N', 'a', 'N'] := by
  rw [chars_positional hx]
  cases x.isNegative with
  | false => exact not_head_unsignedChars (by decide) (by decide)
  | true => exact fun h => by cases (List.cons.inj h).1

theorem chars_of_isNaN {layout : DecimalLayout} (hx : x.isNaN = true) :
    x.chars layout = ['N', 'a', 'N'] := if_pos hx

theorem text_positional_eq_iff :
    x.text .positional = y.text .positional ↔ x = y ∨ x.isNaN = true ∧ y.isNaN = true := by
  rw [text, text, String.ofList_inj]
  constructor
  · intro h
    cases hx : x.isNaN <;> cases hy : y.isNaN
    · exact .inl (eq_of_chars_positional hx hy h)
    · exact absurd (h.trans (chars_of_isNaN hy)) (chars_positional_ne_nan hx)
    · exact absurd (h.symm.trans (chars_of_isNaN hx)) (chars_positional_ne_nan hy)
    · exact .inr ⟨rfl, rfl⟩
  · rintro (rfl | ⟨hx, hy⟩)
    · rfl
    · rw [chars_of_isNaN hx, chars_of_isNaN hy]

end Double
end HostBridge
