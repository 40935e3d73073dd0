/-!
# Comparing bytes

Two byte strings are compared on their first so many bytes; a string that is too short equals
nothing. One comparison looks at every byte before it answers, so that the time it takes tells
nothing about the bytes; the other stops at the first difference. They give the same answers.

A pointer that the host passes is null, or gives access to the bytes from there on. The boundary form
takes pointers, and accepts a missing one only when nothing is to be compared.
-/
namespace HostBridge

abbrev Pointer := Option (List UInt8)

inductive Comparison
  | equal | notEqual
  deriving DecidableEq, Repr

namespace Comparison

def ofBool (b : Bool) : Comparison := if b then equal else notEqual

def isEqual (c : Comparison) : Bool := c == equal

def status : Comparison → Int32
  | equal => 0
  | notEqual => 1

def text : Comparison → String
  | equal => "equal"
  | notEqual => "not equal"

end Comparison

def firstBytes? (bytes : List UInt8) (length : Nat) : Option (List UInt8) :=
  if length ≤ bytes.length then some (bytes.take length) else none

/-- Collects the differences of all pairs of bytes before looking at them. -/
def allEqual (a b : List UInt8) : Bool :=
  a.length == b.length && (List.zipWith (· ^^^ ·) a b).foldl (· ||| ·) 0 == 0

def equalUntil : List UInt8 → List UInt8 → Bool
  | [], [] => true
  | x :: xs, y :: ys => if x = y then equalUntil xs ys else false
  | _, _ => false

def comparePrefixes (eq : List UInt8 → List UInt8 → Bool) (a b : List UInt8) (length : Nat) :
    Comparison :=
  match firstBytes? a length, firstBytes? b length with
  | some a, some b => .ofBool (eq a b)
  | _, _ => .notEqual

def compareSecret (a b : List UInt8) (length : Nat) : Comparison :=
  comparePrefixes allEqual a b length

def comparePublic (a b : List UInt8) (length : Nat) : Comparison :=
  comparePrefixes equalUntil a b length

def comparePointers (compare : List UInt8 → List UInt8 → Nat → Comparison) (a b : Pointer)
    (length : Nat) : Int32 :=
  if length = 0 then (compare [] [] 0).status
  else
    match a, b with
    | some a, some b => (compare a b length).status
    | _, _ => Comparison.notEqual.status

inductive Unavailable
  | secretComparison | secretComparisonAtBoundary
  deriving DecidableEq, Repr

def Unavailable.message : Unavailable → String
  | .secretComparison =>
    "constant_time_compare requires crypto feature not enabled. Rebuild with: " ++
      "cargo build --features crypto"
  | .secretComparisonAtBoundary =>
    "plugbridge_constant_time_compare requires crypto feature not enabled. Rebuild with: " ++
      "cargo build --features crypto"

end HostBridge
