import HostBridge.Log.Record
import HostBridge.Text.Display

/-!
# Random bytes, or an error

A source fills a buffer with random bytes. A fill that the source refuses, or that leaves nothing
but zeros, is an error, and there is no weaker source to fall back on. An empty buffer is filled
without asking the source.

A read may deliver fewer bytes than there is room for, ask to be tried again, fail, or deliver
nothing, which is the end of the file. Reading goes on until the room is filled or a read fails or
finds the end of the file; what was delivered until then stands at the front of the buffer.
-/
namespace HostBridge.Entropy

inductive Failure
  | deviceUnavailable
  | insufficientEntropy
  deriving DecidableEq, Repr

namespace Failure

def status : Failure → Int32
  | deviceUnavailable => -1
  | insufficientEntropy => -2

def message : Failure → String
  | deviceUnavailable => "secure random device unavailable"
  | insufficientEntropy => "secure random source returned insufficient entropy"

def label : Failure → String
  | deviceUnavailable => "DeviceUnavailable"
  | insufficientEntropy => "InsufficientEntropy"

end Failure

structure Fill (σ : Type) where
  outcome : Except Failure Unit
  buffer : List UInt8
  state : σ
  records : List Log.Record

structure Source (σ : Type) where
  fill : σ → List UInt8 → Fill σ

def target : String := "plugbridge_runtime::entropy"

def allZeroRecord (length : Nat) : Log.Record :=
  ⟨.error, target, "entropy source returned an all-zero buffer", [.bare "len" (natText length)]⟩

def gotData (buffer : List UInt8) : Bool := buffer.foldl (· ||| ·) 0 != 0

def fillChecked {σ : Type} (source : Source σ) (state : σ) (buffer : List UInt8) : Fill σ :=
  if buffer.isEmpty then ⟨.ok (), buffer, state, []⟩
  else
    let filled := source.fill state buffer
    match filled.outcome with
    | .error _ => filled
    | .ok () =>
      if gotData filled.buffer then filled
      else
        { filled with
          outcome := .error .insufficientEntropy
          records := filled.records ++ [allZeroRecord filled.buffer.length] }

structure ScriptedCall where
  pattern : List UInt8
  upTo : Option Nat
  failure : Option Failure
  deriving Repr

namespace ScriptedCall

def written (call : ScriptedCall) (buffer : List UInt8) : List UInt8 :=
  if call.pattern.isEmpty then buffer
  else
    let count := min (call.upTo.getD buffer.length) buffer.length
    (List.range count).map (fun i => call.pattern.getD (i % call.pattern.length) 0) ++
      buffer.drop count

end ScriptedCall

def scripted (script : List ScriptedCall) : Source Nat where
  fill calls buffer :=
    match script[min calls (script.length - 1)]? with
    | none => ⟨.ok (), buffer, calls + 1, []⟩
    | some call =>
      ⟨match call.failure with | some e => .error e | none => .ok (),
        call.written buffer, calls + 1, []⟩

def fillEach {σ : Type} (source : Source σ) : σ → List (List UInt8) → List (Fill σ)
  | _, [] => []
  | state, buffer :: rest =>
    let filled := fillChecked source state buffer
    filled :: fillEach source filled.state rest

def systemMessage (description : String) (number : Nat) : String :=
  description ++ " (os error " ++ natText number ++ ")"

inductive ReadError
  | inputOutput
  | other (description : String) (number : Nat)
  deriving DecidableEq, Repr

def ReadError.message : ReadError → String
  | .inputOutput => systemMessage "Input/output error" 5
  | .other description number => systemMessage description number

/-- The answer to one read. A read delivers no more than it has room for, so what an
answer holds beyond that stays behind. -/
inductive ReadAnswer
  | bytes (bytes : List UInt8)
  | retry
  | failed (error : ReadError)
  deriving DecidableEq, Repr

/-- A reading is `waiting` when the answers ran out before the buffer was full. -/
inductive ReadEnd
  | full
  | endOfFile
  | failed (error : ReadError)
  | waiting
  deriving DecidableEq, Repr

structure Reading where
  delivered : List UInt8
  ending : ReadEnd
  reads : Nat
  unread : List ReadAnswer
  deriving DecidableEq, Repr

namespace Reading

def after (bytes : List UInt8) (later : Reading) : Reading :=
  { later with delivered := bytes ++ later.delivered, reads := later.reads + 1 }

end Reading

def readFull : Nat → List ReadAnswer → Reading
  | 0, answers => ⟨[], .full, 0, answers⟩
  | _ + 1, [] => ⟨[], .waiting, 0, []⟩
  | room + 1, .retry :: rest => .after [] (readFull (room + 1) rest)
  | _ + 1, .failed e :: rest => ⟨[], .failed e, 1, rest⟩
  | room + 1, .bytes bytes :: rest =>
    let taken := bytes.take (room + 1)
    if taken.isEmpty then ⟨[], .endOfFile, 1, rest⟩
    else .after taken (readFull (room + 1 - taken.length) rest)

/-- What a random device delivers is not determined; bytes that are not zero stand for it. -/
def randomBytes (count : Nat) : List UInt8 := List.replicate count 0xa5

structure Device where
  answers : Nat → List ReadAnswer

namespace Device

def zeros : Device := ⟨fun room => [.bytes (List.replicate room 0)]⟩

def empty : Device := ⟨fun _ => [.bytes []]⟩

def random : Device := ⟨fun room => [.bytes (randomBytes room)]⟩

end Device
end HostBridge.Entropy
