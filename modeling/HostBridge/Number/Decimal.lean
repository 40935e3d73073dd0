import HostBridge.Number.Binary64
import HostBridge.Text.Display

/-!
# Doubles and decimals

Every positive finite double is the centre of an interval of real numbers that round to it. The
shortest decimal is found on the first grid of powers of ten, from the coarse side, that has a point
in the interval. The grid of the double's own scale carries the exact value, so the search always
ends with a decimal that reads back. Of two neighbours of the value on that grid the nearer one is
taken, and the upper one at an exact tie. All comparisons are between natural numbers.

A layout decides how the digits are set: whether a whole number keeps a point and a zero, and for
which decimal exponents of the leading digit it is written positionally. A NaN has no sign.

Reading a decimal gives the double next to it, and of two equally near ones the one with an even
significand. The quotient is formed exactly, so there is one rounding.
-/
namespace HostBridge

structure Decimal where
  digits : Nat
  exponent : Int
  deriving DecidableEq, Repr

namespace Decimal

def compareBinary (d : Decimal) (quarters : Nat) (scale : Int) : Ordering :=
  compare (d.digits * Nat.pow 10 d.exponent.toNat * Nat.pow 2 (-scale).toNat)
    (quarters * Nat.pow 2 scale.toNat * Nat.pow 10 (-d.exponent).toNat)

def trim (d : Decimal) : Decimal := go d.digits.log2 d
where
  go : Nat → Decimal → Decimal
    | 0, d => d
    | fuel + 1, d =>
      if d.digits % 10 = 0 then go fuel ⟨d.digits / 10, d.exponent + 1⟩ else d

end Decimal

namespace Double

def quarterScale (x : Double) : Int := x.scale - 2

/-- The lower end of the rounding interval, in quarters. Below a power of two the
neighbouring doubles lie twice as dense. -/
def lowerQuarters (x : Double) : Nat :=
  4 * x.significand - (if x.fractionBits = 0 ∧ 1 < x.exponentBits then 1 else 2)

def upperQuarters (x : Double) : Nat := 4 * x.significand + 2

/-- A decimal reads back as `x` when it lies in the rounding interval; the ends
belong to it when the significand is even. -/
def readBy (x : Double) (d : Decimal) : Bool :=
  let above := d.compareBinary x.lowerQuarters x.quarterScale
  let below := d.compareBinary x.upperQuarters x.quarterScale
  if x.significand % 2 = 0 then above != .lt && below != .gt
  else above == .gt && below == .lt

/-- The two neighbours of the value on the grid of `10 ^ exponent`, the nearer one
first and the upper one first at a tie. -/
def neighbours (x : Double) (exponent : Int) : Decimal × Decimal :=
  let num := 4 * x.significand * Nat.pow 2 x.quarterScale.toNat * Nat.pow 10 (-exponent).toNat
  let den := Nat.pow 10 exponent.toNat * Nat.pow 2 (-x.quarterScale).toNat
  let lower : Decimal := ⟨num / den, exponent⟩
  let upper : Decimal := ⟨num / den + 1, exponent⟩
  if 2 * (num % den) < den then (lower, upper) else (upper, lower)

def onGrid? (x : Double) (exponent : Int) : Option Decimal :=
  let (nearer, farther) := x.neighbours exponent
  if x.readBy nearer then some nearer
  else if x.readBy farther then some farther
  else none

/-- Tries the grids from `10 ^ coarsest` down; after the given number of grids it
settles for the exact value. -/
def searchGrids (x : Double) : Nat → Int → Decimal
  | 0, _ =>
    ⟨x.significand * Nat.pow 2 x.scale.toNat * Nat.pow 5 (-x.scale).toNat, min x.scale 0⟩
  | grids + 1, coarsest =>
    match x.onGrid? coarsest with
    | some d => d
    | none => x.searchGrids grids (coarsest - 1)

/-- The shortest decimal that reads back as the absolute value of a finite double;
zero for the two zeros. -/
def shortest (x : Double) : Decimal :=
  if x.significand = 0 then ⟨0, 0⟩ else (x.searchGrids 1400 309).trim

end Double

/-- Whether a whole number written positionally ends in `.0`, and from which exponent of the leading
digit to below which other one numbers are positional. Without bounds all are. -/
structure DecimalLayout where
  pointZero : Bool
  plain : Option (Int × Int)
  deriving DecidableEq, Repr

namespace DecimalLayout

def positional : DecimalLayout := ⟨false, none⟩

def compact : DecimalLayout := ⟨true, some (-4, 16)⟩

def isPlain (layout : DecimalLayout) (leading : Int) : Bool :=
  match layout.plain with
  | none => true
  | some (first, limit) => first ≤ leading && leading < limit

end DecimalLayout

namespace Decimal

def leading (d : Decimal) : Int := d.exponent + (natChars d.digits).length - 1

def plainChars (d : Decimal) (pointZero : Bool) : List Char :=
  let digits := natChars d.digits
  if 0 ≤ d.exponent then
    digits ++ List.replicate d.exponent.toNat '0' ++ if pointZero then ['.', '0'] else []
  else
    let places := (-d.exponent).toNat
    if places < digits.length then
      digits.take (digits.length - places) ++ '.' :: digits.drop (digits.length - places)
    else '0' :: '.' :: (List.replicate (places - digits.length) '0' ++ digits)

def exponentChars (d : Decimal) : List Char :=
  let digits := natChars d.digits
  let fraction := digits.drop 1
  digits.take 1 ++ (if fraction.isEmpty then [] else '.' :: fraction) ++ 'e' ::
    (if d.leading < 0 then ['-'] else []) ++ natChars d.leading.natAbs

def chars (layout : DecimalLayout) (d : Decimal) : List Char :=
  if d.digits = 0 || layout.isPlain d.leading then d.plainChars layout.pointZero
  else d.exponentChars

end Decimal

namespace Double

def chars (layout : DecimalLayout) (x : Double) : List Char :=
  if x.isNaN then ['N', 'a', 'N']
  else (if x.isNegative then ['-'] else []) ++
    if x.isInfinite then ['i', 'n', 'f'] else x.shortest.chars layout

def text (layout : DecimalLayout) (x : Double) : String := String.ofList (x.chars layout)

end Double

def roundHalfEven (num den : Nat) : Nat :=
  let quotient := num / den
  let rest := 2 * (num % den)
  if den < rest || (den == rest && quotient % 2 == 1) then quotient + 1 else quotient

namespace Double

def infinity (negative : Bool) : Double := ofFields negative 2047 0

def nan : Double := ofFields false 2047 (Nat.pow 2 51)

/-- The double with the significand and the exponent field that belong to a quotient
scaled by a power of two. A significand that rounds up to the next power of two carries
into the exponent by itself. -/
def ofScaled (negative : Bool) (significand : Nat) (scale : Int) : Double :=
  let exponent := (scale + 1074).toNat
  let magnitude := exponent * Nat.pow 2 52 + significand
  if 2047 * Nat.pow 2 52 ≤ magnitude then infinity negative
  else ⟨UInt64.ofNat (negative.toNat * Nat.pow 2 63 + magnitude)⟩

def nearestQuotient (negative : Bool) (num den : Nat) : Double :=
  let estimate : Int := (num.log2 : Int) - den.log2 - 52
  let atScale (scale : Int) : Nat × Nat :=
    if 0 ≤ scale then (num, den * Nat.pow 2 scale.toNat) else (num * Nat.pow 2 (-scale).toNat, den)
  let fits (scale : Int) : Bool := (atScale scale).2 * Nat.pow 2 52 ≤ (atScale scale).1
  let scale := max (-1074) (if fits estimate then estimate else estimate - 1)
  ofScaled negative (roundHalfEven (atScale scale).1 (atScale scale).2) scale

def nearest (negative : Bool) (d : Decimal) : Double :=
  let places : Int := d.exponent + (Nat.toDigits 10 d.digits).length
  if d.digits = 0 || places < -330 then ofFields negative 0 0
  else if 310 < places then infinity negative
  else if 0 ≤ d.exponent then nearestQuotient negative (d.digits * Nat.pow 10 d.exponent.toNat) 1
  else nearestQuotient negative d.digits (Nat.pow 10 (-d.exponent).toNat)

end Double
end HostBridge
