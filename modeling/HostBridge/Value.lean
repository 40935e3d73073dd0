import HostBridge.Value.Cell

/-!
# Boundary values

The value a cell stands for, with its tag checked. A cell decodes unless its tag names no kind, and
every value has one cell with nothing in the bits that its kind gives no meaning to. The accessors
refuse a value of another kind than the one they read, and say which kind they found.

Booleans, the integers of at most 32 bits that fit the boundary's one integer kind, and floats of
both widths cross as values of their own. An optional number crosses as itself, or as undefined when
it is absent at any depth.

The host makes cells and looks into them by names that it knows. A maker is called with the payload
of its kind; a reader looks at the payload one way and does not ask for the kind.
-/
namespace HostBridge

/-- The identity of an object of the host. Identities are compared as numbers only. -/
structure HostId where
  number : UInt64
  deriving DecidableEq, Repr

namespace HostId

def text (id : HostId) : String := "#" ++ natText id.number.toNat

def label (id : HostId) : String := "HostId(" ++ natText id.number.toNat ++ ")"

def order (a b : HostId) : Ordering := compare a.number.toNat b.number.toNat

end HostId

inductive Value
  | undefined
  | null
  | bool (b : Bool)
  | int32 (i : Int32)
  | double (x : Double)
  | reference (kind : ReferenceKind) (id : HostId)
  deriving DecidableEq, Repr

inductive DecodeError
  | unknownKind (tag : Int32)
  | kindMismatch (expected found : Kind)
  | notAReference (found : Kind)
  deriving DecidableEq, Repr

def DecodeError.message : DecodeError → String
  | .unknownKind tag => "unknown variant kind tag " ++ intText tag.toInt
  | .kindMismatch expected found =>
    "expected " ++ expected.name ++ " variant, found " ++ found.name
  | .notAReference found => "expected a reference variant, found " ++ found.name

namespace Value

def kind : Value → Kind
  | undefined => .undefined
  | null => .null
  | bool _ => .bool
  | int32 _ => .int32
  | double _ => .double
  | reference kind _ => .reference kind

def encode : Value → Cell
  | undefined => .undefined
  | null => .null
  | bool b => .ofBool b
  | int32 i => .ofInt32 i
  | double x => .ofDouble x
  | reference kind id => .ofReference kind id.number

def ofPayload (c : Cell) : Kind → Value
  | .undefined => undefined
  | .null => null
  | .bool => bool c.readBool
  | .int32 => int32 c.readInt32
  | .double => double c.readDouble
  | .reference kind => reference kind ⟨c.readId⟩

def decode (c : Cell) : Except DecodeError Value :=
  match c.kind? with
  | some kind => .ok (ofPayload c kind)
  | none => .error (.unknownKind c.tag)

def asBool (v : Value) : Except DecodeError Bool :=
  match v with
  | bool b => .ok b
  | _ => .error (.kindMismatch .bool v.kind)

def asInt32 (v : Value) : Except DecodeError Int32 :=
  match v with
  | int32 i => .ok i
  | _ => .error (.kindMismatch .int32 v.kind)

def asDouble (v : Value) : Except DecodeError Double :=
  match v with
  | double x => .ok x
  | _ => .error (.kindMismatch .double v.kind)

def asReference (v : Value) : Except DecodeError (ReferenceKind × HostId) :=
  match v with
  | reference kind id => .ok (kind, id)
  | _ => .error (.notAReference v.kind)

def expectReference (v : Value) (wanted : ReferenceKind) : Except DecodeError HostId := do
  let (found, id) ← v.asReference
  if found = wanted then .ok id else .error (.kindMismatch (.reference wanted) v.kind)

/-- Equality of values as their users see it: doubles are compared as numbers. -/
def same : Value → Value → Bool
  | double x, double y => x.sameNumber y
  | a, b => a == b

def text : Value → String
  | undefined => "Undefined"
  | null => "Null"
  | bool b => "Bool(" ++ boolText b ++ ")"
  | int32 i => "Int32(" ++ intText i.toInt ++ ")"
  | double x => "Double(" ++ x.text .compact ++ ")"
  | reference kind id => kind.label ++ "(" ++ id.label ++ ")"

end Value

class ToValue (α : Type) where
  toValue : α → Value

export ToValue (toValue)

instance : ToValue Bool := ⟨.bool⟩
instance : ToValue Int8 := ⟨fun i => .int32 i.toInt32⟩
instance : ToValue Int16 := ⟨fun i => .int32 i.toInt32⟩
instance : ToValue Int32 := ⟨.int32⟩
instance : ToValue UInt8 := ⟨fun n => .int32 n.toUInt32.toInt32⟩
instance : ToValue UInt16 := ⟨fun n => .int32 n.toUInt32.toInt32⟩
instance : ToValue Double := ⟨.double⟩
instance : ToValue Single := ⟨fun f => .double (.ofSingle f)⟩

instance {α : Type} [ToValue α] : ToValue (Option α) where
  toValue
    | some a => toValue a
    | none => .undefined

class OfValue (α : Type) where
  ofValue : Value → Except DecodeError α

export OfValue (ofValue)

instance : OfValue Bool := ⟨Value.asBool⟩
instance : OfValue Int32 := ⟨Value.asInt32⟩
instance : OfValue Double := ⟨Value.asDouble⟩

inductive CellMaker
  | undefined
  | null
  | bool (b : Bool)
  | int32 (i : Int32)
  | double (x : Double)
  | reference (kind : ReferenceKind) (id : UInt64)
  deriving DecidableEq, Repr

namespace CellMaker

def referenceSymbol : ReferenceKind → String
  | .string => "string_id_to_var"
  | .object => "object_id_to_var"
  | .array => "array_id_to_var"
  | .dictionary => "dictionary_id_to_var"
  | .arrayBuffer => "array_buffer_id_to_var"

def symbol : CellMaker → String
  | undefined => "make_undefined"
  | null => "make_null"
  | bool _ => "bool_to_var"
  | int32 _ => "i32_to_var"
  | double _ => "f64_to_var"
  | reference kind _ => referenceSymbol kind

def cell : CellMaker → Cell
  | undefined => .undefined
  | null => .null
  | bool b => .ofBool b
  | int32 i => .ofInt32 i
  | double x => .ofDouble x
  | reference kind id => .ofReference kind id

end CellMaker

inductive Payload
  | bool (b : Bool)
  | int32 (i : Int32)
  | double (x : Double)
  | id (id : UInt64)
  deriving DecidableEq, Repr

inductive CellReader
  | bool | int32 | double | id
  deriving DecidableEq, Repr

namespace CellReader

def all : List CellReader := [bool, int32, double, id]

def symbol : CellReader → String
  | bool => "bool_from_var"
  | int32 => "i32_from_var"
  | double => "f64_from_var"
  | id => "id_from_var"

def read : CellReader → Cell → Payload
  | bool, c => .bool c.readBool
  | int32, c => .int32 c.readInt32
  | double, c => .double c.readDouble
  | id, c => .id c.readId

end CellReader
end HostBridge
