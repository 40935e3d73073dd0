import HostBridge.Proofs.Value.NormalForm

/-!
# The bits that are looked at

The host may fill only the bits of the payload that the tag gives a meaning to, and what the others
hold is chance. Three readers choose for themselves how much of the payload they look at: equality,
the text and decoding. None of them sees anything of the others, and equality sees all of the rest.
-/
namespace HostBridge

namespace Cell

/-- How many bits of the payload, from the lowest up, the tag gives a meaning to. -/
def activeBits (c : Cell) : Nat :=
  if c.tag.toInt = 0 ∨ c.tag.toInt = 1 then 0
  else if 4 ≤ c.tag.toInt ∧ c.tag.toInt ≤ 9 then 64
  else 32

structure Agrees (a b : Cell) : Prop where
  tag : a.tag = b.tag
  reserved : a.reserved = b.reserved
  bits : ∀ i < a.activeBits, a.payload.toNat.testBit i = b.payload.toNat.testBit i

theorem activeBits_eq (c : Cell) : c.activeBits = 8 * c.width := by
  unfold activeBits width
  cases hkind : c.kind? with
  | none =>
    have hrange := Kind.ofTag?_eq_none_iff.mp hkind
    rw [if_neg (by omega), if_neg (by omega)]
    rfl
  | some kind =>
    rw [← Kind.tag_of_ofTag? hkind]
    rcases kind with _ | _ | _ | _ | _ | (_ | _ | _ | _ | _) <;> rfl

theorem activeBits_of_kind {c : Cell} {kind : Kind} (hkind : c.kind? = some kind) :
    c.activeBits = 8 * kind.width := by
  rw [activeBits_eq, width, hkind]

theorem testBit_eq_below_iff (width m n : Nat) :
    (∀ i < width, m.testBit i = n.testBit i) ↔ m % Nat.pow 2 width = n % Nat.pow 2 width := by
  have hlow (k i : Nat) :
      (k % Nat.pow 2 width).testBit i = (decide (i < width) && k.testBit i) :=
    Nat.testBit_mod_two_pow k width i
  constructor
  · intro h
    apply Nat.eq_of_testBit_eq
    intro i
    rw [hlow, hlow]
    by_cases hi : i < width
    · rw [h i hi]
    · simp [hi]
  · intro h i hi
    have hbit := congrArg (·.testBit i) h
    simpa [hlow, hi] using hbit

variable {a b : Cell}

theorem meaningful_eq_iff (htag : a.tag = b.tag) :
    a.meaningful = b.meaningful ↔
      ∀ i < a.activeBits, a.payload.toNat.testBit i = b.payload.toNat.testBit i := by
  have hwidth : b.width = a.width := by simp only [width, kind?, htag]
  have hpow : Nat.pow 256 a.width = Nat.pow 2 (8 * a.width) := (Nat.pow_mul 2 8 a.width).symm
  rw [testBit_eq_below_iff, activeBits_eq, ← UInt64.toNat_inj, toNat_meaningful, toNat_meaningful,
    hwidth, hpow]

theorem same_iff_agrees : a.same b = true ↔ a.Agrees b := by
  rw [same_iff]
  constructor
  · rintro ⟨htag, hreserved, hmeaningful⟩
    exact ⟨htag, hreserved, (meaningful_eq_iff htag).mp hmeaningful⟩
  · rintro ⟨htag, hreserved, hbits⟩
    exact ⟨htag, hreserved, (meaningful_eq_iff htag).mpr hbits⟩

namespace Agrees

variable (h : a.Agrees b)

include h

theorem kind?_eq : a.kind? = b.kind? := congrArg Kind.ofTag? h.tag

theorem meaningful_eq : a.meaningful = b.meaningful := (meaningful_eq_iff h.tag).mpr h.bits

theorem lowWord_eq (hbits : 32 ≤ a.activeBits) : a.lowWord = b.lowWord := by
  apply UInt32.toNat_inj.mp
  rw [lowWord, lowWord, UInt64.toNat_toUInt32, UInt64.toNat_toUInt32]
  exact (testBit_eq_below_iff 32 _ _).mp fun i hi => h.bits i (by omega)

theorem payload_eq (hbits : a.activeBits = 64) : a.payload = b.payload := by
  apply UInt64.toNat_inj.mp
  rw [← Nat.mod_eq_of_lt a.payload.toNat_lt, ← Nat.mod_eq_of_lt b.payload.toNat_lt]
  exact (testBit_eq_below_iff 64 _ _).mp fun i hi => h.bits i (by omega)

theorem ofPayload_eq {kind : Kind} (hkind : a.kind? = some kind) :
    Value.ofPayload a kind = Value.ofPayload b kind := by
  have hactive := activeBits_of_kind hkind
  cases kind with
  | undefined | null => rfl
  | bool | int32 =>
    have hlow : a.lowWord = b.lowWord := h.lowWord_eq (by simp [hactive, Kind.width])
    simp only [Value.ofPayload, readBool, readInt32, hlow]
  | double | reference =>
    have hpayload : a.payload = b.payload := h.payload_eq (by simp [hactive, Kind.width])
    simp only [Value.ofPayload, readDouble, readId, hpayload]

theorem decode_eq : Value.decode a = Value.decode b := by
  unfold Value.decode
  rw [← h.kind?_eq, h.tag]
  cases hkind : a.kind? with
  | none => rfl
  | some kind => exact congrArg Except.ok (h.ofPayload_eq hkind)

theorem text_eq : a.text = b.text := by
  unfold text
  rw [← h.kind?_eq, h.tag, h.reserved, h.meaningful_eq]
  cases hkind : a.kind? with
  | none => rfl
  | some kind =>
    have hvalue := h.ofPayload_eq hkind
    cases kind with
    | undefined | null => rfl
    | bool | int32 | double | reference =>
      simp only [Value.ofPayload, Value.bool.injEq, Value.int32.injEq, Value.double.injEq,
        Value.reference.injEq, HostId.mk.injEq, true_and] at hvalue
      simp only [hvalue]

end Agrees
end Cell

theorem Cell.same_equivalence : Equivalence fun a b : Cell => a.same b = true := by
  constructor
  · exact fun a => (same_iff a a).mpr ⟨rfl, rfl, rfl⟩
  · intro a b h
    obtain ⟨htag, hreserved, hmeaningful⟩ := (same_iff a b).mp h
    exact (same_iff b a).mpr ⟨htag.symm, hreserved.symm, hmeaningful.symm⟩
  · intro a b c hab hbc
    obtain ⟨htag, hreserved, hmeaningful⟩ := (same_iff a b).mp hab
    obtain ⟨htag', hreserved', hmeaningful'⟩ := (same_iff b c).mp hbc
    exact (same_iff a c).mpr
      ⟨htag.trans htag', hreserved.trans hreserved', hmeaningful.trans hmeaningful'⟩

/-- Equality misses no difference in the bits that mean something and sees no other, and neither
text nor decoding nor a comparison with a third cell does. -/
structure ActiveBitsLaw (a b : Cell) : Prop where
  same : a.same b = true ↔ a.Agrees b
  text : a.Agrees b → a.text = b.text
  decode : a.Agrees b → Value.decode a = Value.decode b
  third : a.Agrees b → ∀ c, a.same c = b.same c ∧ c.same a = c.same b

theorem only_active_bits_are_read :
    (∀ a b, ActiveBitsLaw a b) ∧ Equivalence fun a b : Cell => a.same b = true := by
  have heq := Cell.same_equivalence
  refine ⟨fun a b => ⟨Cell.same_iff_agrees, Cell.Agrees.text_eq, Cell.Agrees.decode_eq, ?_⟩, heq⟩
  intro h c
  have hab : a.same b = true := Cell.same_iff_agrees.mpr h
  constructor
  · exact Bool.eq_iff_iff.mpr ⟨heq.trans (heq.symm hab), heq.trans hab⟩
  · exact Bool.eq_iff_iff.mpr
      ⟨fun hca => heq.trans hca hab, fun hcb => heq.trans hcb (heq.symm hab)⟩

example :
    let nan : Cell := .ofDouble ⟨0x7ff8000000000001⟩
    nan.same nan = true ∧ nan.same (.ofDouble ⟨0x7ff8000000000000⟩) = false ∧
      nan.same (.ofDouble ⟨0xfff8000000000001⟩) = false := by decide

end HostBridge
