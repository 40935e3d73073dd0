import HostBridge.Proofs.Number.Widening
import HostBridge.Proofs.Value.Image
import HostBridge.Value

/-!
# What comes back of a host number

A host number goes out as the cell of its value and is read back through the accessor of its kind.
Integers come back with the number that they had, whatever their width was; a single comes back as
the one double that denotes what it does. However deep it is wrapped, an optional number goes out
as what is in the middle, or as undefined if a wrapping is empty.
-/
namespace HostBridge

def Nested (α : Type) : Nat → Type
  | 0 => α
  | depth + 1 => Option (Nested α depth)

namespace Nested

variable {α : Type}

def innermost : {depth : Nat} → Nested α depth → Option α
  | 0, a => some a
  | _ + 1, none => none
  | _ + 1, some x => innermost x

variable [ToValue α]

instance wrapped : (depth : Nat) → ToValue (Nested α depth)
  | 0 => inferInstanceAs (ToValue α)
  | depth + 1 =>
    have := wrapped depth
    inferInstanceAs (ToValue (Option (Nested α depth)))

theorem toValue_eq {depth : Nat} (x : Nested α depth) :
    toValue x = match innermost x with
      | some a => toValue a
      | none => .undefined := by
  induction depth with
  | zero => rfl
  | succ depth ih =>
    cases x with
    | none => rfl
    | some x => exact ih x

end Nested

inductive Scalar
  | bool | int8 | int16 | int32 | uint8 | uint16 | single | double
  deriving DecidableEq, Repr

/-- A double that is all that a single was. -/
structure Widened (f : Single) (x : Double) : Prop where
  denoted : x.denoted = f.denoted
  sign : x.isNegative = f.isNegative
  nan : x.isNaN = true ↔ f.denoted = .nan
  normal : f.exponentBits = 0 → f.fractionBits ≠ 0 → 1 ≤ x.exponentBits ∧ x.exponentBits ≤ 2046
  unique : f.denoted ≠ .nan →
    ∀ y : Double, y.denoted = f.denoted → y.isNegative = f.isNegative → y = x
  distinct : f.denoted ≠ .nan → ∀ g : Single, toValue g = .double x → g = f

def Value.ReadsAs (v : Value) (number : Int) : Prop :=
  ∃ i : Int32, ofValue v = .ok i ∧ i.toInt = number

namespace Scalar

def Carrier : Scalar → Type
  | .bool => Bool
  | .int8 => Int8
  | .int16 => Int16
  | .int32 => Int32
  | .uint8 => UInt8
  | .uint16 => UInt16
  | .single => Single
  | .double => Double

instance : (scalar : Scalar) → ToValue scalar.Carrier
  | .bool => inferInstanceAs (ToValue Bool)
  | .int8 => inferInstanceAs (ToValue Int8)
  | .int16 => inferInstanceAs (ToValue Int16)
  | .int32 => inferInstanceAs (ToValue Int32)
  | .uint8 => inferInstanceAs (ToValue UInt8)
  | .uint16 => inferInstanceAs (ToValue UInt16)
  | .single => inferInstanceAs (ToValue Single)
  | .double => inferInstanceAs (ToValue Double)

def Returned : (scalar : Scalar) → scalar.Carrier → Value → Prop
  | .bool, (b : Bool), v => ofValue v = .ok b
  | .int8, (i : Int8), v => v.ReadsAs i.toInt
  | .int16, (i : Int16), v => v.ReadsAs i.toInt
  | .int32, (i : Int32), v => v.ReadsAs i.toInt
  | .uint8, (n : UInt8), v => v.ReadsAs n.toNat
  | .uint16, (n : UInt16), v => v.ReadsAs n.toNat
  | .single, (f : Single), v => ∃ x : Double, ofValue v = .ok x ∧ Widened f x
  | .double, (x : Double), v => ofValue v = .ok x

end Scalar

theorem widened_ofSingle (f : Single) : Widened f (.ofSingle f) := by
  constructor
  · exact Double.denoted_ofSingle f
  · exact Double.isNegative_ofSingle f
  · rw [Double.isNaN_iff, Double.denoted_ofSingle]
  · exact (widens_ofSingle f).isNormal_of_subnormal
  · exact fun hnan y hdenoted hsign => (Double.eq_ofSingle_iff hnan).mp ⟨hdenoted, hsign⟩
  · exact fun hnan g h => (Double.ofSingle_injective hnan (Value.double.inj h).symm).symm

theorem toInt_toInt32_of_lt {n : UInt32} (h : n.toNat < 2 ^ 31) : n.toInt32.toInt = n.toNat :=
  BitVec.toInt_eq_toNat_of_lt (show 2 * n.toNat < 2 ^ 32 by omega)

theorem Value.readsAs_int32 {i : Int32} {number : Int} (h : i.toInt = number) :
    (int32 i).ReadsAs number := ⟨i, rfl, h⟩

theorem Scalar.returned_toValue (scalar : Scalar) (a : scalar.Carrier) :
    scalar.Returned a (toValue a) := by
  cases scalar with
  | bool | double => rfl
  | int8 => exact Value.readsAs_int32 (Int8.toInt_toInt32 a)
  | int16 => exact Value.readsAs_int32 (Int16.toInt_toInt32 a)
  | int32 => exact Value.readsAs_int32 rfl
  | uint8 =>
    have hlt := UInt8.toNat_lt a
    have hwide : (UInt8.toUInt32 a).toNat = UInt8.toNat a := UInt8.toNat_toUInt32 a
    apply Value.readsAs_int32
    rw [← hwide, toInt_toInt32_of_lt (by omega)]
  | uint16 =>
    have hlt := UInt16.toNat_lt a
    have hwide : (UInt16.toUInt32 a).toNat = UInt16.toNat a := UInt16.toNat_toUInt32 a
    apply Value.readsAs_int32
    rw [← hwide, toInt_toInt32_of_lt (by omega)]
  | single => exact ⟨.ofSingle a, rfl, widened_ofSingle a⟩

theorem Scalar.toValue_ne_undefined (scalar : Scalar) (a : scalar.Carrier) :
    toValue a ≠ .undefined := by
  cases scalar <;> exact nofun

/-- How an optional scalar goes over the boundary and comes back. -/
structure CrossingLaw (scalar : Scalar) {depth : Nat} (x : Nested scalar.Carrier depth) : Prop where
  absent : Value.decode (toValue x).encode = .ok .undefined ↔ x.innermost = none
  present : ∀ a, x.innermost = some a →
    Value.decode (toValue x).encode = .ok (toValue a) ∧ scalar.Returned a (toValue a)

theorem scalars_cross_exactly (scalar : Scalar) {depth : Nat} (x : Nested scalar.Carrier depth) :
    CrossingLaw scalar x := by
  have hvalue := Nested.toValue_eq x
  constructor
  · rw [Value.decode_encode, hvalue, Except.ok.injEq]
    cases x.innermost with
    | none => simp
    | some a => simpa using scalar.toValue_ne_undefined a
  · intro a hinnermost
    rw [Value.decode_encode, hvalue, hinnermost]
    exact ⟨rfl, scalar.returned_toValue a⟩

example : toValue (⟨0x00000001⟩ : Single) = .double ⟨0x36A0000000000000⟩ ∧
    toValue (⟨0x80000000⟩ : Single) = .double .negativeZero := by decide

end HostBridge
