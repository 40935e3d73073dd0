import HostBridge.Number.Decimal
import HostBridge.Text.Display
import HostBridge.Value.Kind

/-!
# Boundary cells

A value crosses the boundary as a cell of sixteen bytes, all little-endian: the
kind's tag in four, four reserved ones that are zero in every cell built here, and
eight of payload. The tag decides how much of the payload means anything: nothing
for the kinds without payload, the low word for booleans, integers and tags that
name no kind, all of it for doubles and references. Two cells are the same when
tag, reserved word and the meaningful bits agree, and only those bits are written
out.
-/
namespace HostBridge

def littleEndian : Nat → Nat → List UInt8
  | 0, _ => []
  | count + 1, n => UInt8.ofNat n :: littleEndian count (n / 256)

def ofLittleEndian : List UInt8 → Nat
  | [] => 0
  | byte :: rest => byte.toNat + 256 * ofLittleEndian rest

theorem length_littleEndian (count n : Nat) : (littleEndian count n).length = count := by
  induction count generalizing n with
  | zero => rfl
  | succ count ih => simp [littleEndian, ih]

theorem ofLittleEndian_littleEndian (count n : Nat) :
    ofLittleEndian (littleEndian count n) = n % Nat.pow 256 count := by
  induction count generalizing n with
  | zero => simp [littleEndian, ofLittleEndian, Nat.mod_one]
  | succ count ih =>
    have hpow : Nat.pow 256 (count + 1) = 256 * Nat.pow 256 count := Nat.mul_comm _ _
    rw [littleEndian, ofLittleEndian, ih, hpow, Nat.mod_mul]
    simp

theorem ofLittleEndian_of_lt {count n : Nat} (h : n < Nat.pow 256 count) :
    ofLittleEndian (littleEndian count n) = n := by
  rw [ofLittleEndian_littleEndian, Nat.mod_eq_of_lt h]

theorem ofLittleEndian_lt (bytes : List UInt8) :
    ofLittleEndian bytes < Nat.pow 256 bytes.length := by
  induction bytes with
  | nil => exact Nat.one_pos
  | cons byte rest ih =>
    have hbyte := byte.toNat_lt
    have hpow : Nat.pow 256 (rest.length + 1) = 256 * Nat.pow 256 rest.length := Nat.mul_comm _ _
    rw [ofLittleEndian, List.length_cons, hpow]
    omega

theorem littleEndian_ofLittleEndian {count : Nat} {bytes : List UInt8}
    (h : bytes.length = count) : littleEndian count (ofLittleEndian bytes) = bytes := by
  subst h
  induction bytes with
  | nil => rfl
  | cons byte rest ih =>
    have hbyte := byte.toNat_lt
    have hfirst : UInt8.ofNat (byte.toNat + 256 * ofLittleEndian rest) = byte := by
      apply UInt8.toNat_inj.mp
      rw [UInt8.toNat_ofNat']
      omega
    have hrest : (byte.toNat + 256 * ofLittleEndian rest) / 256 = ofLittleEndian rest := by omega
    rw [ofLittleEndian, List.length_cons, littleEndian, hfirst, hrest, ih]

theorem littleEndian_zero (count : Nat) : littleEndian count 0 = List.replicate count 0 := by
  induction count with
  | zero => rfl
  | succ count ih => exact congrArg (0 :: ·) ih

theorem littleEndian_add {low n : Nat} (high : Nat) (h : n < Nat.pow 256 low) :
    littleEndian (low + high) n = littleEndian low n ++ List.replicate high 0 := by
  induction low generalizing n with
  | zero =>
    have hzero : n = 0 := Nat.lt_one_iff.mp h
    rw [hzero, Nat.zero_add, littleEndian_zero]
    rfl
  | succ low ih =>
    have hpow : Nat.pow 256 (low + 1) = 256 * Nat.pow 256 low := Nat.mul_comm _ _
    have hrest : n / 256 < Nat.pow 256 low := by omega
    rw [Nat.add_right_comm, littleEndian, ih hrest]
    rfl

@[ext]
structure Cell where
  tag : Int32
  reserved : Int32
  payload : UInt64
  deriving DecidableEq, Repr

namespace Cell

def kind? (c : Cell) : Option Kind := Kind.ofTag? c.tag

def ofKind (kind : Kind) (payload : UInt64) : Cell := ⟨kind.tag, 0, payload⟩

def bytes (c : Cell) : List UInt8 :=
  littleEndian 4 c.tag.toUInt32.toNat ++ littleEndian 4 c.reserved.toUInt32.toNat ++
    littleEndian 8 c.payload.toNat

def ofBytes? (bytes : List UInt8) : Option Cell :=
  if bytes.length = 16 then
    some ⟨(UInt32.ofNat (ofLittleEndian (bytes.take 4))).toInt32,
      (UInt32.ofNat (ofLittleEndian ((bytes.drop 4).take 4))).toInt32,
      UInt64.ofNat (ofLittleEndian (bytes.drop 8))⟩
  else none

def undefined : Cell := ofKind .undefined 0
def null : Cell := ofKind .null 0
def ofBool (b : Bool) : Cell := ofKind .bool b.toUInt64
def ofInt32 (i : Int32) : Cell := ofKind .int32 i.toUInt32.toUInt64
def ofDouble (x : Double) : Cell := ofKind .double x.bits
def ofReference (kind : ReferenceKind) (id : UInt64) : Cell := ofKind (.reference kind) id

def lowWord (c : Cell) : UInt32 := c.payload.toUInt32
def readBool (c : Cell) : Bool := c.lowWord != 0
def readInt32 (c : Cell) : Int32 := c.lowWord.toInt32
def readDouble (c : Cell) : Double := ⟨c.payload⟩
def readId (c : Cell) : UInt64 := c.payload

theorem readBool_ofBool (b : Bool) : (ofBool b).readBool = b := by cases b <;> rfl

theorem readInt32_ofInt32 (i : Int32) : (ofInt32 i).readInt32 = i := by
  simp [readInt32, lowWord, ofInt32, ofKind]

/-- The payload bits that the tag gives a meaning to. -/
def meaningful (c : Cell) : UInt64 :=
  match c.kind? with
  | some .undefined | some .null => 0
  | some .bool | some .int32 | none => c.lowWord.toUInt64
  | some .double | some (.reference _) => c.payload

/-- Equality of cells as the boundary sees it. -/
def same (a b : Cell) : Bool :=
  a.tag == b.tag && a.reserved == b.reserved && a.meaningful == b.meaningful

def text (c : Cell) : String :=
  match c.kind? with
  | some .undefined => "Undefined"
  | some .null => "Null"
  | some .bool => "Bool(" ++ boolText c.readBool ++ ")"
  | some .int32 => "Int32(" ++ intText c.readInt32.toInt ++ ")"
  | some .double => "Double(" ++ c.readDouble.text .positional ++ ")"
  | some (.reference kind) => kind.label ++ "(#" ++ natText c.readId.toNat ++ ")"
  | none =>
    "RawVar \x7b kind: " ++ intText c.tag.toInt ++ ", reserved: " ++ intText c.reserved.toInt ++
      ", value: 0x" ++ hexText 8 c.meaningful.toNat ++ " \x7d"

end Cell
end HostBridge
