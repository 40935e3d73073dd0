/-!
# Error slots

A thread has one slot for the message of its last failure. The message is set, taken,
looked at and cleared; across the boundary it is handed out as a copy that ends with a
zero byte, and the slot keeps that copy for as long as its reader may look at it. A zero
byte inside a message would end the copy early, so a question mark stands for it.

The failures that end up here are panics too, by the text they carry.
-/
namespace HostBridge

inductive PanicPayload
  | literal (text : String)
  | owned (text : String)
  | other
  deriving DecidableEq, Repr

def PanicPayload.text : PanicPayload → String
  | literal text | owned text => text
  | other => "unknown panic"

/-- The bytes of a text that ends with a zero byte: none of them is zero. -/
structure TerminatedText where
  bytes : List UInt8
  zero_not_mem : 0 ∉ bytes
  deriving DecidableEq, Repr

def TerminatedText.ofBytes? (bytes : List UInt8) : Option TerminatedText :=
  if h : 0 ∈ bytes then none else some ⟨bytes, h⟩

structure ErrorSlot where
  message : Option String
  exported : Option TerminatedText
  deriving DecidableEq, Repr

namespace ErrorSlot

def empty : ErrorSlot := ⟨none, none⟩

def set (_ : ErrorSlot) (message : String) : ErrorSlot := ⟨some message, none⟩

def take (slot : ErrorSlot) : Option String × ErrorSlot :=
  (slot.message, { slot with message := none })

def has (slot : ErrorSlot) : Bool := slot.message.isSome

def clear (_ : ErrorSlot) : ErrorSlot := empty

def exportBytes (message : String) : List UInt8 :=
  message.toUTF8.toList.map fun byte => if byte = 0 then '?'.toUInt8 else byte

def handOut (slot : ErrorSlot) (message : String) : Option TerminatedText × ErrorSlot :=
  match TerminatedText.ofBytes? (exportBytes message) with
  | some text => (some text, { slot with exported := some text })
  | none => (none, slot)

def getCopy (slot : ErrorSlot) : Option TerminatedText × ErrorSlot :=
  match slot.message with
  | some message => slot.handOut message
  | none => (none, slot)

def takeCopy (slot : ErrorSlot) : Option TerminatedText × ErrorSlot :=
  match slot.take with
  | (some message, slot) => slot.handOut message
  | (none, slot) => (none, slot)

inductive Call
  | set (message : String)
  | take | has | clear | getCopy | takeCopy
  | panicText (payload : PanicPayload)
  | elsewhere (call : Call)
  deriving DecidableEq, Repr

inductive Answer
  | nothing
  | flag (flag : Bool)
  | text (text : Option String)
  | copy (text : Option TerminatedText)
  deriving DecidableEq, Repr

def answer : ErrorSlot → Call → Answer × ErrorSlot
  | slot, .set message => (.nothing, slot.set message)
  | slot, .take => (.text slot.take.1, slot.take.2)
  | slot, .has => (.flag slot.has, slot)
  | slot, .clear => (.nothing, slot.clear)
  | slot, .getCopy => (.copy slot.getCopy.1, slot.getCopy.2)
  | slot, .takeCopy => (.copy slot.takeCopy.1, slot.takeCopy.2)
  | slot, .panicText payload => (.text (some payload.text), slot)
  | slot, .elsewhere call => ((answer empty call).1, slot)

end ErrorSlot
end HostBridge
