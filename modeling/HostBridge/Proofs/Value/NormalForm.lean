import HostBridge.Proofs.Value.Image

/-!
# Normal forms of cells

To decode a cell is to forget what its kind gives no meaning to, the reserved word included, and
which number stood for true. The cell of the value is what is left, the normal form: it decodes to
the same value, and is the cell itself when there was nothing to forget.
-/
namespace HostBridge

def Cell.highWord (c : Cell) : UInt32 := (c.payload >>> 32).toUInt32

namespace Kind

theorem tag_toInt (kind : Kind) : 0 ≤ kind.tag.toInt ∧ kind.tag.toInt ≤ 9 := by
  rcases kind with _ | _ | _ | _ | _ | (_ | _ | _ | _ | _) <;> decide

theorem exists_tag_eq {tag : Int32} (h : 0 ≤ tag.toInt ∧ tag.toInt ≤ 9) :
    ∃ kind : Kind, kind.tag = tag := by
  have hall : ∀ n : Fin 10, ∃ kind ∈ all, kind.tag.toInt = n.val := by decide
  obtain ⟨kind, -, hkind⟩ := hall ⟨tag.toInt.toNat, by omega⟩
  exact ⟨kind, Int32.toInt_inj.mp (hkind.trans (Int.toNat_of_nonneg h.1))⟩

theorem ofTag?_eq_none_iff {tag : Int32} :
    ofTag? tag = none ↔ ¬(0 ≤ tag.toInt ∧ tag.toInt ≤ 9) := by
  constructor
  · intro hnone hrange
    obtain ⟨kind, rfl⟩ := exists_tag_eq hrange
    rw [ofTag?_tag] at hnone
    cases hnone
  · intro hrange
    cases hkind : ofTag? tag with
    | none => rfl
    | some kind =>
      rw [← tag_of_ofTag? hkind] at hrange
      exact absurd kind.tag_toInt hrange

end Kind

namespace Cell

variable {c : Cell} {kind : Kind}

theorem toNat_highWord (c : Cell) : c.highWord.toNat = c.payload.toNat >>> 32 := by
  have hlt := c.payload.toNat_lt
  rw [highWord, UInt64.toNat_toUInt32, UInt64.toNat_shiftRight]
  refine Nat.mod_eq_of_lt ?_
  show c.payload.toNat >>> 32 < 2 ^ 32
  omega

theorem meaningful_eq_payload_iff (hkind : c.kind? = some kind) :
    c.meaningful = c.payload ↔
      (kind = .undefined ∨ kind = .null → c.payload = 0) ∧
        (kind = .bool ∨ kind = .int32 → c.highWord = 0) := by
  have hlow : c.lowWord.toUInt64 = c.payload ↔ c.highWord = 0 := by
    rw [← UInt64.toNat_inj, ← UInt32.toNat_inj, toNat_highWord, UInt32.toNat_toUInt64, lowWord,
      UInt64.toNat_toUInt32, UInt32.toNat_zero]
    omega
  unfold meaningful
  rw [hkind]
  cases kind with
  | undefined | null => simp [eq_comm]
  | bool | int32 => simp [hlow]
  | double | reference => simp

end Cell

/-- What a cell has in common with the cell of the value that it decodes to. -/
structure NormalForm (c : Cell) (v : Value) : Prop where
  decodes : Value.decode v.encode = .ok v
  tag : v.encode.tag = c.tag
  settled : ∀ w, Value.decode v.encode = .ok w → w.encode = v.encode
  same : v.encode.same c = true ↔
    c.reserved = 0 ∧ (c.kind? = some .bool → c.lowWord = 0 ∨ c.lowWord = 1)
  image : v.encode.bytes = c.bytes ↔
    (c.reserved = 0 ∧ (c.kind? = some .bool → c.lowWord = 0 ∨ c.lowWord = 1)) ∧
      (c.kind? = some .undefined ∨ c.kind? = some .null → c.payload = 0) ∧
        (c.kind? = some .bool ∨ c.kind? = some .int32 → c.highWord = 0)

namespace Value

variable {c : Cell} {kind : Kind}

theorem kind_ofPayload (c : Cell) (kind : Kind) : (ofPayload c kind).kind = kind := by
  cases kind <;> rfl

theorem bool_toUInt64_eq_iff (w : UInt32) : (w != 0).toUInt64 = w.toUInt64 ↔ w = 0 ∨ w = 1 := by
  constructor
  · intro h
    have hnat := congrArg UInt64.toNat h
    rw [UInt32.toNat_toUInt64] at hnat
    by_cases hw : w = 0
    · exact .inl hw
    · right
      rw [bne_iff_ne.mpr hw] at hnat
      exact UInt32.toNat_inj.mp hnat.symm
  · rintro (rfl | rfl) <;> rfl

theorem payload_ofPayload (hkind : c.kind? = some kind) :
    (ofPayload c kind).encode.payload = c.meaningful ↔
      (kind = .bool → c.lowWord = 0 ∨ c.lowWord = 1) := by
  unfold Cell.meaningful
  rw [hkind]
  cases kind with
  | bool => exact (bool_toUInt64_eq_iff c.lowWord).trans (by simp)
  | int32 => simp [ofPayload, encode, Cell.ofInt32, Cell.ofKind, Cell.readInt32]
  | _ => simp [ofPayload, encode, Cell.undefined, Cell.null, Cell.ofDouble, Cell.ofReference,
      Cell.ofKind, Cell.readDouble, Cell.readId]

theorem tag_ofPayload (hkind : c.kind? = some kind) : (ofPayload c kind).encode.tag = c.tag := by
  rw [tag_encode, kind_ofPayload, Kind.tag_of_ofTag? hkind]

theorem encode_eq_iff {v : Value} :
    v.encode = c ↔ v.encode.same c = true ∧ c.meaningful = c.payload := by
  constructor
  · rintro rfl
    exact ⟨(Cell.same_iff _ _).mpr ⟨rfl, rfl, rfl⟩, v.meaningful_encode⟩
  · rintro ⟨hsame, hpayload⟩
    obtain ⟨htag, hreserved, hmeaningful⟩ := (Cell.same_iff _ _).mp hsame
    rw [meaningful_encode, hpayload] at hmeaningful
    exact Cell.ext htag hreserved hmeaningful

theorem normalForm_ofPayload (hkind : c.kind? = some kind) : NormalForm c (ofPayload c kind) := by
  have hsame : (ofPayload c kind).encode.same c = true ↔
      c.reserved = 0 ∧ (c.kind? = some .bool → c.lowWord = 0 ∨ c.lowWord = 1) := by
    rw [Cell.same_iff, meaningful_encode, payload_ofPayload hkind, reserved_encode, hkind]
    simp [tag_ofPayload hkind, eq_comm]
  constructor
  · exact decode_encode _
  · exact tag_ofPayload hkind
  · intro w hw
    rw [Except.ok.inj ((decode_encode _).symm.trans hw)]
  · exact hsame
  · calc (ofPayload c kind).encode.bytes = c.bytes
        ↔ (ofPayload c kind).encode = c := ⟨Cell.bytes_injective, congrArg Cell.bytes⟩
      _ ↔ (ofPayload c kind).encode.same c = true ∧ c.meaningful = c.payload := encode_eq_iff
      _ ↔ _ := by
        rw [hsame, Cell.meaningful_eq_payload_iff hkind]
        simp only [hkind, Option.some.injEq]

end Value

/-- A cell decodes exactly if its tag is from 0 to 9, and then to the value of its normal form. -/
structure CellLaw (c : Cell) : Prop where
  unknown : Value.decode c = .error (.unknownKind c.tag) ↔ ¬(0 ≤ c.tag.toInt ∧ c.tag.toInt ≤ 9)
  known : 0 ≤ c.tag.toInt ∧ c.tag.toInt ≤ 9 → ∃ v, Value.decode c = .ok v ∧ NormalForm c v

theorem cells_decode_to_normal_form (image : List UInt8) :
    ((Cell.ofBytes? image).isSome = true ↔ image.length = 16) ∧
      ∀ c, Cell.ofBytes? image = some c → c.bytes = image ∧ CellLaw c := by
  refine ⟨Cell.ofBytes?_isSome image, fun c himage => ⟨Cell.bytes_of_ofBytes? himage, ?_, ?_⟩⟩
  · rw [← Kind.ofTag?_eq_none_iff, Value.decode, Cell.kind?]
    cases Kind.ofTag? c.tag <;> simp
  · intro hrange
    obtain ⟨kind, hkind⟩ : ∃ kind, c.kind? = some kind :=
      Option.ne_none_iff_exists'.mp fun hnone => Kind.ofTag?_eq_none_iff.mp hnone hrange
    refine ⟨.ofPayload c kind, ?_, Value.normalForm_ofPayload hkind⟩
    rw [Value.decode, hkind]

theorem cells_decode_to_normal_form_of_leftovers :
    Cell.ofBytes? [2, 0, 0, 0, 0, 0, 0, 0, 2, 0, 0, 0, 0xef, 0xbe, 0xad, 0xde] =
        some ⟨2, 0, 0xdeadbeef00000002⟩ ∧
      CellLaw ⟨2, 0, 0xdeadbeef00000002⟩ ∧
      Value.decode ⟨2, 0, 0xdeadbeef00000002⟩ = .ok (.bool true) ∧
      (Value.bool true).encode.same ⟨2, 0, 0xdeadbeef00000002⟩ = false := by
  have himage : Cell.ofBytes? [2, 0, 0, 0, 0, 0, 0, 0, 2, 0, 0, 0, 0xef, 0xbe, 0xad, 0xde] =
      some ⟨2, 0, 0xdeadbeef00000002⟩ := by decide
  have hlaw := (cells_decode_to_normal_form _).2 _ himage
  exact ⟨himage, hlaw.2, rfl, rfl⟩

end HostBridge
