import HostBridge.Proofs.Value.NormalForm
import HostBridge.Value

/-!
# Checked reading

The readers of a cell look at the payload and not at the tag. The accessors of a value give what
the reader for its kind finds, and for every other kind they say which kind they wanted and which
one they found. So a value answers one accessor at most, and only the two kinds without a payload
answer none.
-/
namespace HostBridge

/-- What an accessor for one kind answers: the payload, unless the value is of another kind. -/
def Kind.grant {α : Type} (wanted found : Kind) (payload : α) : Except DecodeError α :=
  if found = wanted then .ok payload else .error (.kindMismatch wanted found)

namespace Value

def answered (v : Value) : List Bool :=
  [v.asBool.isOk, v.asInt32.isOk, v.asDouble.isOk, v.asReference.isOk]

section
variable (c : Cell) (kind : Kind)

theorem asBool_ofPayload : (ofPayload c kind).asBool = Kind.grant .bool kind c.readBool := by
  cases kind <;> rfl

theorem asInt32_ofPayload : (ofPayload c kind).asInt32 = Kind.grant .int32 kind c.readInt32 := by
  cases kind <;> rfl

theorem asDouble_ofPayload : (ofPayload c kind).asDouble = Kind.grant .double kind c.readDouble := by
  cases kind <;> rfl

end

theorem asReference_of_not_isReference {v : Value} (h : v.kind.isReference = false) :
    v.asReference = .error (.notAReference v.kind) := by
  cases v with
  | reference kind id => cases h
  | _ => rfl

theorem expectReference_reference (found wanted : ReferenceKind) (id : HostId) :
    (reference found id).expectReference wanted =
      if found = wanted then .ok id
      else .error (.kindMismatch (.reference wanted) (.reference found)) := rfl

theorem expectReference_of_not_isReference {v : Value} (h : v.kind.isReference = false)
    (wanted : ReferenceKind) : v.expectReference wanted = .error (.notAReference v.kind) := by
  unfold expectReference
  rw [asReference_of_not_isReference h]
  rfl

theorem expectReference_eq_ok_iff {v : Value} {wanted : ReferenceKind} {id : HostId} :
    v.expectReference wanted = .ok id ↔ v = .reference wanted id := by
  constructor
  · intro h
    cases v with
    | reference found held =>
      rw [expectReference_reference] at h
      split at h
      · next hkind => rw [hkind, Except.ok.inj h]
      · cases h
    | _ =>
      rw [expectReference_of_not_isReference rfl] at h
      cases h
  · rintro rfl
    rw [expectReference_reference, if_pos rfl]

theorem count_answered (v : Value) :
    v.answered.count true = if v.kind = .undefined ∨ v.kind = .null then 0 else 1 := by
  cases v <;> simp [answered, asBool, asInt32, asDouble, asReference, kind, Except.isOk,
    Except.toBool]

end Value

/-- What the accessors answer on the value of a cell of a known kind, by what the readers find in
the cell. No value can be read in two ways, and only those without a payload in none. -/
structure AccessLaw (c : Cell) (kind : Kind) (v : Value) : Prop where
  bool : v.asBool = Kind.grant .bool kind c.readBool ∧ ofValue v = v.asBool
  int32 : v.asInt32 = Kind.grant .int32 kind c.readInt32 ∧ ofValue v = v.asInt32
  double : v.asDouble = Kind.grant .double kind c.readDouble ∧ ofValue v = v.asDouble
  reference : ∀ found, kind = .reference found → v.asReference = .ok (found, ⟨c.readId⟩)
  noReference : kind.isReference = false → v.asReference = .error (.notAReference kind)
  expected : ∀ wanted id, v.expectReference wanted = .ok id ↔ v = .reference wanted id
  otherReference : ∀ wanted found, kind = .reference found → found ≠ wanted →
    v.expectReference wanted = .error (.kindMismatch (.reference wanted) kind)
  notExpected : kind.isReference = false →
    ∀ wanted, v.expectReference wanted = .error (.notAReference kind)
  sole : v.answered.count true ≤ 1 ∧
    (v.answered.count true = 0 ↔ kind = .undefined ∨ kind = .null)

theorem accessors_follow_kind (c : Cell) (kind : Kind) (hkind : c.kind? = some kind) :
    ∃ v, Value.decode c = .ok v ∧ AccessLaw c kind v := by
  have hfound : (Value.ofPayload c kind).kind = kind := Value.kind_ofPayload c kind
  refine ⟨.ofPayload c kind, by rw [Value.decode, hkind], ?_⟩
  constructor
  · exact ⟨Value.asBool_ofPayload c kind, rfl⟩
  · exact ⟨Value.asInt32_ofPayload c kind, rfl⟩
  · exact ⟨Value.asDouble_ofPayload c kind, rfl⟩
  · rintro found rfl
    rfl
  · intro hnot
    rw [Value.asReference_of_not_isReference (by rwa [hfound]), hfound]
  · exact fun wanted id => Value.expectReference_eq_ok_iff
  · rintro wanted found rfl hne
    exact (Value.expectReference_reference found wanted _).trans (if_neg hne)
  · intro hnot wanted
    rw [Value.expectReference_of_not_isReference (by rwa [hfound]), hfound]
  · rw [Value.count_answered, hfound]
    split <;> simp [*]

theorem accessors_follow_kind_of_array :
    Cell.kind? ⟨7, 1, 0x4000000000000005⟩ = some (.reference .array) ∧
      ∃ v, Value.decode ⟨7, 1, 0x4000000000000005⟩ = .ok v ∧
        AccessLaw ⟨7, 1, 0x4000000000000005⟩ (.reference .array) v ∧
        v.asDouble = .error (.kindMismatch .double (.reference .array)) ∧
        v.expectReference .object =
          .error (.kindMismatch (.reference .object) (.reference .array)) := by
  have hkind : Cell.kind? ⟨7, 1, 0x4000000000000005⟩ = some (.reference .array) := by decide
  obtain ⟨v, hdecode, hlaw⟩ := accessors_follow_kind _ _ hkind
  refine ⟨hkind, v, hdecode, hlaw, hlaw.double.1, ?_⟩
  exact hlaw.otherReference .object .array rfl (by decide)

end HostBridge
