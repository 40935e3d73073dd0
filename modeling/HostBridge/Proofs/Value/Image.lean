import HostBridge.Value

/-!
# The sixteen bytes of a value

Every cell is sixteen bytes and every sixteen bytes are a cell. The cell of a value has the tag of
its kind, the reserved word zero, and nothing in the payload beside the bytes that the kind owns;
so no two values share a cell, and the value comes back from the bytes.
-/
namespace HostBridge

/-- How many bytes of the payload the kind owns. -/
def Kind.width : Kind → Nat
  | .undefined | .null => 0
  | .bool | .int32 => 4
  | .double | .reference _ => 8

def Value.number : Value → Nat
  | .undefined | .null => 0
  | .bool b => b.toNat
  | .int32 i => i.toUInt32.toNat
  | .double x => x.bits.toNat
  | .reference _ id => id.number.toNat

def Value.payload? : Value → Option Payload
  | .undefined | .null => none
  | .bool b => some (.bool b)
  | .int32 i => some (.int32 i)
  | .double x => some (.double x)
  | .reference _ id => some (.id id.number)

def Payload.reader : Payload → CellReader
  | .bool _ => .bool
  | .int32 _ => .int32
  | .double _ => .double
  | .id _ => .id

def CellMaker.value : CellMaker → Value
  | .undefined => .undefined
  | .null => .null
  | .bool b => .bool b
  | .int32 i => .int32 i
  | .double x => .double x
  | .reference kind id => .reference kind ⟨id⟩

namespace Cell

theorem length_bytes (c : Cell) : c.bytes.length = 16 := by
  simp [bytes, length_littleEndian]

theorem ofBytes?_bytes (c : Cell) : ofBytes? c.bytes = some c := by
  have htag := c.tag.toUInt32.toNat_lt
  have hreserved := c.reserved.toUInt32.toNat_lt
  have hpayload := c.payload.toNat_lt
  rw [ofBytes?, if_pos c.length_bytes]
  simp only [bytes, List.append_assoc, List.take_left' (length_littleEndian 4 _),
    List.drop_left' (length_littleEndian 4 _)]
  rw [show (8 : Nat) = 4 + 4 from rfl, ← List.drop_drop]
  simp only [List.drop_left' (length_littleEndian 4 _)]
  rw [ofLittleEndian_of_lt htag, ofLittleEndian_of_lt hreserved, ofLittleEndian_of_lt hpayload]
  simp

theorem ofBytes?_isSome (image : List UInt8) :
    (ofBytes? image).isSome = true ↔ image.length = 16 := by
  unfold ofBytes?
  split <;> simp [*]

theorem bytes_of_ofBytes? {image : List UInt8} {c : Cell} (h : ofBytes? image = some c) :
    c.bytes = image := by
  unfold ofBytes? at h
  split at h
  · next hlength =>
    cases h
    have hword (part : List UInt8) (hpart : part.length = 4) :
        littleEndian 4 (UInt32.ofNat (ofLittleEndian part)).toNat = part := by
      have hlt := ofLittleEndian_lt part
      rw [hpart] at hlt
      rw [UInt32.toNat_ofNat_of_lt' hlt, littleEndian_ofLittleEndian hpart]
    have hpayload (part : List UInt8) (hpart : part.length = 8) :
        littleEndian 8 (UInt64.ofNat (ofLittleEndian part)).toNat = part := by
      have hlt := ofLittleEndian_lt part
      rw [hpart] at hlt
      rw [UInt64.toNat_ofNat_of_lt' hlt, littleEndian_ofLittleEndian hpart]
    have hrest : (image.drop 4).take 4 ++ image.drop 8 = image.drop 4 := by
      rw [show (8 : Nat) = 4 + 4 from rfl, ← List.drop_drop, List.take_append_drop]
    simp only [bytes, UInt32.toUInt32_toInt32]
    rw [hword _ (by simp [hlength]), hword _ (by simp [hlength]), hpayload _ (by simp [hlength]),
      List.append_assoc, hrest, List.take_append_drop]
  · cases h

theorem bytes_injective {a b : Cell} (h : a.bytes = b.bytes) : a = b :=
  Option.some.inj ((ofBytes?_bytes a).symm.trans ((congrArg ofBytes? h).trans (ofBytes?_bytes b)))

def width (c : Cell) : Nat :=
  match c.kind? with
  | some kind => kind.width
  | none => 4

theorem toNat_meaningful (c : Cell) :
    c.meaningful.toNat = c.payload.toNat % Nat.pow 256 c.width := by
  have hlow : c.lowWord.toUInt64.toNat = c.payload.toNat % Nat.pow 256 4 := by
    rw [UInt32.toNat_toUInt64, lowWord, UInt64.toNat_toUInt32]
  have hall : c.payload.toNat = c.payload.toNat % Nat.pow 256 8 :=
    (Nat.mod_eq_of_lt c.payload.toNat_lt).symm
  unfold meaningful width
  cases c.kind? with
  | none => exact hlow
  | some kind =>
    cases kind with
    | undefined | null => exact (Nat.mod_one _).symm
    | bool | int32 => exact hlow
    | double | reference => exact hall

theorem same_iff (a b : Cell) : a.same b = true ↔
    a.tag = b.tag ∧ a.reserved = b.reserved ∧ a.meaningful = b.meaningful := by
  simp [same, and_assoc]

end Cell

namespace Value

variable (v : Value)

theorem tag_encode : v.encode.tag = v.kind.tag := by cases v <;> rfl

theorem reserved_encode : v.encode.reserved = 0 := by cases v <;> rfl

theorem kind?_encode : v.encode.kind? = some v.kind := by
  rw [Cell.kind?, tag_encode, Kind.ofTag?_tag]

theorem payload_encode : v.encode.payload.toNat = v.number := by
  cases v with
  | bool b => cases b <;> rfl
  | int32 i => exact UInt32.toNat_toUInt64 _
  | _ => rfl

theorem number_lt : v.number < Nat.pow 256 v.kind.width := by
  cases v with
  | undefined | null => exact Nat.one_pos
  | bool b => cases b <;> decide
  | int32 i => exact i.toUInt32.toNat_lt
  | double x => exact x.bits.toNat_lt
  | reference kind id => exact id.number.toNat_lt

theorem meaningful_encode : v.encode.meaningful = v.encode.payload := by
  apply UInt64.toNat_inj.mp
  rw [Cell.toNat_meaningful, Cell.width, kind?_encode, payload_encode]
  exact Nat.mod_eq_of_lt v.number_lt

theorem decode_encode : decode v.encode = .ok v := by
  rw [decode, kind?_encode]
  cases v with
  | bool b => exact congrArg (Except.ok ∘ bool) (Cell.readBool_ofBool b)
  | int32 i => exact congrArg (Except.ok ∘ int32) (Cell.readInt32_ofInt32 i)
  | _ => rfl

theorem bytes_encode : v.encode.bytes =
    littleEndian 4 v.kind.tag.toUInt32.toNat ++ ([0, 0, 0, 0] ++
      (littleEndian v.kind.width v.number ++ List.replicate (8 - v.kind.width) 0)) := by
  have hwidth : v.kind.width + (8 - v.kind.width) = 8 := by
    cases v <;> rfl
  have hpayload := littleEndian_add (8 - v.kind.width) v.number_lt
  rw [hwidth] at hpayload
  rw [Cell.bytes, tag_encode, reserved_encode, payload_encode, hpayload, List.append_assoc]
  rfl

variable {v}

theorem encode_injective {w : Value} (h : v.encode = w.encode) : v = w :=
  Except.ok.inj ((decode_encode v).symm.trans ((congrArg decode h).trans (decode_encode w)))

theorem eq_of_same_encode {w : Value} (h : v.encode.same w.encode = true) : v = w := by
  obtain ⟨htag, hreserved, hmeaningful⟩ := (Cell.same_iff _ _).mp h
  rw [meaningful_encode, meaningful_encode] at hmeaningful
  exact encode_injective (Cell.ext htag hreserved hmeaningful)

theorem exists_maker (v : Value) : ∃ maker : CellMaker, maker.value = v := by
  cases v with
  | undefined => exact ⟨.undefined, rfl⟩
  | null => exact ⟨.null, rfl⟩
  | bool b => exact ⟨.bool b, rfl⟩
  | int32 i => exact ⟨.int32 i, rfl⟩
  | double x => exact ⟨.double x, rfl⟩
  | reference kind id => exact ⟨.reference kind id.number, rfl⟩

end Value

theorem CellMaker.cell_eq_encode (maker : CellMaker) : maker.cell = maker.value.encode := by
  cases maker <;> rfl

theorem Payload.read_encode {v : Value} {payload : Payload} (h : v.payload? = some payload) :
    payload.reader.read v.encode = payload := by
  cases v with
  | undefined | null => cases h
  | bool b =>
    cases h
    exact congrArg Payload.bool (Cell.readBool_ofBool b)
  | int32 i =>
    cases h
    exact congrArg Payload.int32 (Cell.readInt32_ofInt32 i)
  | double | reference =>
    cases h
    rfl

/-- The bytes of a value are its tag, a reserved zero, what its kind owns and zeros. The value comes
back from them and no other value has them; the makers of the host give the same bytes, and its
readers find the payload in them. -/
structure ImageLaw (v : Value) : Prop where
  decodes : Value.decode v.encode = .ok v
  crosses : Cell.ofBytes? v.encode.bytes = some v.encode
  length : v.encode.bytes.length = 16
  tag : ofLittleEndian (v.encode.bytes.take 4) = v.kind.tag.toUInt32.toNat
  reserved : (v.encode.bytes.drop 4).take 4 = [0, 0, 0, 0]
  payload : ofLittleEndian ((v.encode.bytes.drop 8).take v.kind.width) = v.number
  blank : ∀ byte ∈ v.encode.bytes.drop (8 + v.kind.width), byte = 0
  distinct : ∀ w : Value, w ≠ v → w.encode.bytes ≠ v.encode.bytes ∧ w.encode.same v.encode = false
  made : (∃ maker : CellMaker, maker.value = v) ∧
    ∀ maker : CellMaker, maker.value = v → maker.cell.bytes = v.encode.bytes
  read : ∀ payload, v.payload? = some payload → payload.reader.read v.encode = payload

theorem values_cross_whole (v : Value) : ImageLaw v := by
  have htag := length_littleEndian 4 v.kind.tag.toUInt32.toNat
  have hnumber := length_littleEndian v.kind.width v.number
  have hpayload : v.encode.bytes.drop 8 =
      littleEndian v.kind.width v.number ++ List.replicate (8 - v.kind.width) 0 := by
    rw [v.bytes_encode, show (8 : Nat) = 4 + 4 from rfl, ← List.drop_drop,
      List.drop_left' htag]
    rfl
  constructor
  · exact v.decode_encode
  · exact v.encode.ofBytes?_bytes
  · exact v.encode.length_bytes
  · rw [v.bytes_encode, List.take_left' htag]
    exact ofLittleEndian_of_lt v.kind.tag.toUInt32.toNat_lt
  · rw [v.bytes_encode, List.drop_left' htag]
    rfl
  · rw [hpayload, List.take_left' hnumber]
    exact ofLittleEndian_of_lt v.number_lt
  · intro byte hbyte
    rw [← List.drop_drop, hpayload, List.drop_left' hnumber] at hbyte
    exact List.eq_of_mem_replicate hbyte
  · intro w hne
    refine ⟨fun h => hne (Value.encode_injective (Cell.bytes_injective h)), ?_⟩
    exact Bool.eq_false_iff.mpr fun h => hne (Value.eq_of_same_encode h)
  · refine ⟨v.exists_maker, fun maker h => ?_⟩
    rw [maker.cell_eq_encode, h]
  · exact fun payload => Payload.read_encode

example : (Value.reference .arrayBuffer ⟨0x0102030405⟩).encode.bytes =
    [9, 0, 0, 0, 0, 0, 0, 0, 5, 4, 3, 2, 1, 0, 0, 0] := by decide

end HostBridge
