import HostBridge.Log.Pattern
import HostBridge.Number.Decimal

/-!
# Field matches

A directive may ask for a field, by name alone or with a value. The value is a truth
value, a whole number that fits 64 bits, a decimal, or, if it is none of these, a pattern.
-/
namespace HostBridge.Log

open Reader

inductive FieldValue
  | boolean (b : Bool)
  | decimal (x : Double)
  | natural (n : Nat)
  | integer (i : Int)
  | pattern (text : String)
  deriving DecidableEq, Repr

namespace FieldValue

def readBoolean : Reader FieldValue :=
  (text "true".toList *> pure (boolean true)) <|> (text "false".toList *> pure (boolean false))

def readNatural : Reader FieldValue := do
  skip (optionally (char '+'))
  let n ← wholeNumber
  if n < Nat.pow 2 64 then return natural n else failure

def readInteger : Reader FieldValue := do
  let negative ← sign
  let n ← wholeNumber
  let i : Int := if negative then -n else n
  if -(Nat.pow 2 63 : Int) ≤ i && i < Nat.pow 2 63 then return integer i else failure

def readExponent : Reader Int := do
  skip (satisfy fun c => c == 'e' || c == 'E')
  let negative ← sign
  let n ← wholeNumber
  return if negative then -n else n

def readDecimal : Reader FieldValue := do
  let negative ← sign
  let whole ← takeWhile Char.isDigit
  let places := (← optionally (char '.' *> takeWhile Char.isDigit)).getD []
  if (whole ++ places).isEmpty then failure
  let power := (← optionally readExponent).getD 0
  return decimal (.nearest negative ⟨numberOf 10 (whole ++ places), power - places.length⟩)

def readSpecial : Reader FieldValue := do
  let negative ← sign
  let word := String.ofList ((← takeSome Char.isAlpha).map Char.toLower)
  if word = "inf" || word = "infinity" then return decimal (.infinity negative)
  else if word = "nan" then return decimal .nan
  else failure

def readNumberOrTruth : Reader FieldValue :=
  [readBoolean, readNatural, readInteger, readDecimal, readSpecial].firstM (· <* endOfInput)

def ofChars (text : List Char) : Except PatternError FieldValue :=
  match readNumberOrTruth.runChars? text with
  | some value => .ok value
  | none => do
    Pattern.check text
    return pattern (String.ofList text)

def rank : FieldValue → Nat
  | boolean _ => 0
  | decimal _ => 1
  | natural _ => 2
  | integer _ => 3
  | pattern _ => 4

def order : FieldValue → FieldValue → Ordering
  | boolean a, boolean b => compare a b
  | decimal x, decimal y => compare x.rank y.rank
  | natural m, natural n => compare m n
  | integer i, integer j => compare i j
  | pattern s, pattern t => compare s t
  | a, b => compare a.rank b.rank

instance : Ord FieldValue := ⟨order⟩

def text : FieldValue → String
  | boolean b => boolText b
  | decimal x => x.text .positional
  | natural n => natText n
  | integer i => intText i
  | pattern s => s

end FieldValue

structure FieldMatch where
  name : String
  value : Option FieldValue
  deriving DecidableEq, Repr

namespace FieldMatch

/-- A name, and a value after the first equals sign. What a second one brings is left out. -/
def ofChars (text : List Char) : Except PatternError FieldMatch :=
  match text.splitOn '=' with
  | name :: value :: _ => do return ⟨String.ofList name, some (← FieldValue.ofChars value)⟩
  | _ => .ok ⟨String.ofList text, none⟩

def order (a b : FieldMatch) : Ordering :=
  (compare a.value.isSome b.value.isSome).then <|
    (compare a.name b.name).then (compare a.value b.value)

instance : Ord FieldMatch := ⟨order⟩

def text (m : FieldMatch) : String :=
  match m.value with
  | some value => m.name ++ "=" ++ value.text
  | none => m.name

end FieldMatch
end HostBridge.Log
