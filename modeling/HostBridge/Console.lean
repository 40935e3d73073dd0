import HostBridge.Log.Filter
import HostBridge.Log.Record

/-!
# Writing to the console

The host's console knows four levels. Log records map onto them: errors and warnings keep their
rank, information shows as a tip, and everything below is a plain log line.

A writer belongs to one of the two standard streams and has a level. While a sink is installed,
bytes that are a whole text go to it as one message, without the line end the console adds itself;
all other bytes go to the stream's descriptor as they are. So a write that is not empty has one
destination, and an empty one has none. A write that goes to a descriptor is made again, with all of
its bytes, for as long as it is interrupted; what the descriptor says then is what the writer is
told.
-/
namespace HostBridge.Console

inductive Level
  | tip | log | warning | error
  deriving DecidableEq, Repr

namespace Level

def all : List Level := [tip, log, warning, error]

def number : Level → Int32
  | tip => 0
  | log => 1
  | warning => 2
  | error => 3

def ofNumber? (n : Int32) : Option Level := all.find? (·.number == n)

def ofRecord : Log.Level → Level
  | .error => error
  | .warn => warning
  | .info => tip
  | .debug | .trace => log

def name : Level → String
  | tip => "tip"
  | log => "log"
  | warning => "warning"
  | error => "error"

def label : Level → String
  | tip => "Tip"
  | log => "Log"
  | warning => "Warning"
  | error => "Error"

def order (a b : Level) : Ordering := compare a.number.toInt b.number.toInt

end Level
end HostBridge.Console

namespace HostBridge

namespace Console

inductive Stream
  | out | err
  deriving DecidableEq, Repr

namespace Stream

def descriptor : Stream → Nat
  | out => 1
  | err => 2

def label : Stream → String
  | out => "Out"
  | err => "Err"

def level : Stream → Level
  | out => .log
  | err => .error

end Stream

structure Writer where
  stream : Stream
  level : Level
  deriving DecidableEq, Repr

namespace Writer

def ofStream (stream : Stream) : Writer := ⟨stream, stream.level⟩

def withLevel (w : Writer) (level : Level) : Writer := { w with level }

def forRecord (r : Log.Record) : Writer := (ofStream .err).withLevel (.ofRecord r.level)

end Writer

structure WriteError where
  number : Nat
  description : String
  deriving DecidableEq, Repr

def WriteError.message (e : WriteError) : String :=
  e.description ++ " (os error " ++ natText e.number ++ ")"

def WriteError.storageFull : WriteError := ⟨28, "No space left on device"⟩

/-- How many of so many offered bytes a descriptor takes. -/
abbrev Acceptance := Nat → Except WriteError Nat

def Acceptance.everything : Acceptance := .ok

def Acceptance.nothing : Acceptance := fun _ => .error .storageFull

inductive Delivery
  | message (sink : String) (level : Level) (text : String)
  | raw (stream : Stream) (bytes : List UInt8)
  deriving DecidableEq, Repr

end Console

structure Console where
  sink : Option String
  deliveries : List Console.Delivery
  deriving DecidableEq, Repr

namespace Console

def textOf? (bytes : List UInt8) : Option String := String.fromUTF8? ⟨bytes.toArray⟩

def withoutLineEnd (text : String) : String :=
  if text.toList.getLast? = some '\n' then String.ofList text.toList.dropLast else text

def empty : Console := ⟨none, []⟩

def install (c : Console) (sink : String) : Console := { c with sink := some sink }

def remove (c : Console) : Console := { c with sink := none }

def deliver (c : Console) (d : Delivery) : Console :=
  { c with deliveries := c.deliveries ++ [d] }

def writeRaw (c : Console) (accept : Acceptance) (stream : Stream) (bytes : List UInt8) :
    Except WriteError Nat × Console :=
  match accept bytes.length with
  | .ok count => (.ok count, c.deliver (.raw stream (bytes.take count)))
  | .error e => (.error e, c)

def write (c : Console) (accept : Acceptance) (w : Writer) (bytes : List UInt8) :
    Except WriteError Nat × Console :=
  if bytes.isEmpty then (.ok 0, c)
  else
    match c.sink, textOf? bytes with
    | some sink, some text =>
      (.ok bytes.length, c.deliver (.message sink w.level (withoutLineEnd text)))
    | _, _ => c.writeRaw accept w.stream bytes

def writeAll (c : Console) (w : Writer) (texts : List String) : Console :=
  texts.foldl (fun c text => (c.write .everything w text.toUTF8.toList).2) c

/-- Writes a log record that the filter lets through, as one line. -/
def log (c : Console) (filter : Log.Filter) (r : Log.Record) : Console :=
  if filter.admits r then c.writeAll (.forRecord r) [r.line ++ "\n"] else c

def drain (c : Console) : List Delivery × Console := (c.deliveries, { c with deliveries := [] })

end Console
end HostBridge

namespace HostBridge.Console

inductive Attempts
  | interrupted (next : Attempts)
  | took (count : Nat)
  | refused (error : WriteError)

def Attempts.settle : Attempts → Except WriteError Nat
  | interrupted next => next.settle
  | took count => .ok count
  | refused error => .error error

def Attempts.accept (attempts : Attempts) : Acceptance := fun _ => attempts.settle

/-- A write, with what the descriptor would say to it, which never takes more than it is offered. -/
structure Write where
  writer : Writer
  bytes : List UInt8
  attempts : Attempts
  fits : ∀ count, attempts.settle = .ok count → count ≤ bytes.length

inductive Command
  | install (sink : String)
  | remove
  | write (write : Write)

abbrev Answer := Except WriteError Nat

def perform (c : Console) : Command → List Answer × Console
  | .install sink => ([], c.install sink)
  | .remove => ([], c.remove)
  | .write w =>
    let (answer, c) := c.write w.attempts.accept w.writer w.bytes
    ([answer], c)

def run (c : Console) : List Command → List Answer × Console
  | [] => ([], c)
  | command :: rest =>
    let (answers, c) := c.perform command
    let (later, c) := c.run rest
    (answers ++ later, c)

end HostBridge.Console
