/-!
# Doubles by their bits

A double is its 64 bits: a sign, an eleven-bit exponent and a 52-bit fraction.
Nothing here rounds. A finite double is the exact number `significand * 2 ^ scale`,
the two equalities of doubles are both decided on the bits, and a 32-bit float
denotes one double with the same real value. Powers are `Nat.pow` itself, so that no
instance stands between them and the numbers.
-/
namespace HostBridge

structure Double where
  bits : UInt64
  deriving DecidableEq, Repr

structure Single where
  bits : UInt32
  deriving DecidableEq, Repr

namespace Double

def isNegative (x : Double) : Bool := Nat.pow 2 63 ≤ x.bits.toNat

def exponentBits (x : Double) : Nat := x.bits.toNat / Nat.pow 2 52 % Nat.pow 2 11

def fractionBits (x : Double) : Nat := x.bits.toNat % Nat.pow 2 52

def isNaN (x : Double) : Bool := x.exponentBits == 2047 && x.fractionBits != 0

def isInfinite (x : Double) : Bool := x.exponentBits == 2047 && x.fractionBits == 0

def isZero (x : Double) : Bool := x.exponentBits == 0 && x.fractionBits == 0

/-- The integer part of the exact value: the fraction field, with the implicit
leading one unless the exponent field is zero. -/
def significand (x : Double) : Nat :=
  if x.exponentBits = 0 then x.fractionBits else Nat.pow 2 52 + x.fractionBits

def scale (x : Double) : Int := (max 1 x.exponentBits : Nat) - 1075

/-- Equality of the numbers denoted: no NaN equals anything, and the two zeros are equal. -/
def sameNumber (x y : Double) : Bool :=
  !x.isNaN && !y.isNaN && (x.bits == y.bits || x.isZero && y.isZero)

/-- A number that grows with the number denoted. The two zeros have one rank, and every
NaN has the same, above all others. -/
def rank (x : Double) : Int :=
  let magnitude : Int := x.bits.toNat % Nat.pow 2 63
  if x.isNaN then Nat.pow 2 63 else if x.isNegative then -magnitude else magnitude

def ofFields (negative : Bool) (exponent fraction : Nat) : Double :=
  ⟨UInt64.ofNat (negative.toNat * Nat.pow 2 63 + exponent * Nat.pow 2 52 + fraction)⟩

/-- The double that denotes the same real number as a 32-bit float. The fraction
gains 29 zero bits; a subnormal float becomes a normal double; a NaN keeps its
fraction and becomes quiet. -/
def ofSingle (f : Single) : Double :=
  let word := f.bits.toNat
  let negative : Bool := Nat.pow 2 31 ≤ word
  let exponent := word / Nat.pow 2 23 % Nat.pow 2 8
  let fraction := word % Nat.pow 2 23
  if exponent = 255 then
    if fraction = 0 then ofFields negative 2047 0
    else ofFields negative 2047 (Nat.pow 2 51 + fraction % Nat.pow 2 22 * Nat.pow 2 29)
  else if exponent = 0 then
    if fraction = 0 then ofFields negative 0 0
    else
      let leading := fraction.log2
      ofFields negative (leading + 874)
        ((fraction - Nat.pow 2 leading) * Nat.pow 2 (52 - leading))
  else ofFields negative (exponent + 896) (fraction * Nat.pow 2 29)

theorem sameNumber_self (x : Double) : x.sameNumber x = !x.isNaN := by
  simp [sameNumber]

end Double
end HostBridge
