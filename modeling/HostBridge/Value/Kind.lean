/-!
# Kinds of boundary values

A value that crosses the boundary is of one of ten kinds. Five of them name an
object that the host owns; the other five carry their payload themselves. Each
kind has a 32-bit tag, the tags being 0 to 9, and every other tag names no kind.
-/
namespace HostBridge

inductive ReferenceKind
  | string | object | array | dictionary | arrayBuffer
  deriving DecidableEq, Repr

inductive Kind
  | undefined | null | bool | int32 | double
  | reference (kind : ReferenceKind)
  deriving DecidableEq, Repr

namespace ReferenceKind

def all : List ReferenceKind := [.string, .object, .array, .dictionary, .arrayBuffer]

def name : ReferenceKind → String
  | .string => "string"
  | .object => "object"
  | .array => "array"
  | .dictionary => "dictionary"
  | .arrayBuffer => "array buffer"

def label : ReferenceKind → String
  | .string => "String"
  | .object => "Object"
  | .array => "Array"
  | .dictionary => "Dictionary"
  | .arrayBuffer => "ArrayBuffer"

end ReferenceKind

namespace Kind

def all : List Kind :=
  [.undefined, .null, .bool, .int32, .double] ++ ReferenceKind.all.map .reference

def tag : Kind → Int32
  | .undefined => 0
  | .null => 1
  | .bool => 2
  | .int32 => 3
  | .double => 4
  | .reference .string => 5
  | .reference .object => 6
  | .reference .array => 7
  | .reference .dictionary => 8
  | .reference .arrayBuffer => 9

def ofTag? (tag : Int32) : Option Kind := all.find? (·.tag == tag)

def reference? : Kind → Option ReferenceKind
  | .reference kind => some kind
  | _ => none

def isReference (kind : Kind) : Bool := kind.reference?.isSome

def name : Kind → String
  | .undefined => "undefined"
  | .null => "null"
  | .bool => "bool"
  | .int32 => "int32"
  | .double => "double"
  | .reference kind => kind.name

def label : Kind → String
  | .undefined => "Undefined"
  | .null => "Null"
  | .bool => "Bool"
  | .int32 => "Int32"
  | .double => "Double"
  | .reference kind => kind.label

theorem mem_all (kind : Kind) : kind ∈ all := by
  rcases kind with _ | _ | _ | _ | _ | (_ | _ | _ | _ | _) <;> decide

theorem ofTag?_tag (kind : Kind) : ofTag? kind.tag = some kind := by
  rcases kind with _ | _ | _ | _ | _ | (_ | _ | _ | _ | _) <;> decide

theorem tag_of_ofTag? {tag : Int32} {kind : Kind} (h : ofTag? tag = some kind) :
    kind.tag = tag := by
  simpa using List.find?_some h

end Kind
end HostBridge
