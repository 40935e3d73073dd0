import HostBridge.Completion
import HostBridge.ErrorSlot

/-!
# The state of the bridge

A thread is a stack of tasks, the first of which is what it does next. Beside them it has its error
slot and the reply to what it was asked last. The tasks are small enough for everything that other
threads could observe in between: to post is to wait for the gate, to decide while holding it, and
to leave it, each a task of its own. What a thread does is noted as events, so that the order of
things can be spoken about.

One message loop serves any number of threads. Its gate guards the quit flag, and is held by at most
one thread. Callbacks that have not been handed over yet sit in numbered slots, receivers under
numbers of their own. All that has happened is kept in the trace, the first event first.
-/
namespace HostBridge

abbrev Table (α : Type) := List (Nat × α)

namespace Table

variable {α : Type}

def get? (table : Table α) (key : Nat) : Option α := List.lookup key table

def erase (table : Table α) (key : Nat) : Table α :=
  List.filter (fun entry => entry.1 != key) table

def put (table : Table α) (key : Nat) (entry : α) : Table α := (key, entry) :: table.erase key

end Table

inductive ThreadId
  | main | loop
  | helper (index : Nat)
  deriving DecidableEq, Repr

inductive Missing
  | slot | receiver | loop
  deriving DecidableEq, Repr

def Missing.message : Missing → String
  | .slot => "no slot"
  | .receiver => "no receiver"
  | .loop => "no loop"

inductive Reply
  | nothing
  | text (text : String)
  | flag (flag : Bool)
  | code (code : Code)
  | receipt (receipt : Receipt)
  | missing (missing : Missing)
  | panicked (message : Option String)
  | slot (answer : ErrorSlot.Answer)
  | callback (callback : Callback)
  | loop (poster : String) (loop : Option String)

def Reply.ofText? : Option String → Reply
  | some s => .text s
  | none => .nothing

/-- What threads note. Under the gate a callback is `accepted` or `refused`; it is `waived` when its
poster is answered at once, `dispatched` when the loop thread gets to it, and `aborted` when nobody
else will run it. All of these come before it is `invoked`, if it is. A closure that runs on success
only is not told the code when it has `started`. -/
inductive Event
  | started (serial : Nat) (name : String) (code : Option Code)
  | finished (serial : Nat)
  | native (serial : Nat) (context : UInt64) (result : Int32)
  | acted (name : String) (reply : Reply)
  | logged (record : Log.Record)
  | accepted (callback : Callback) (result : Int32)
  | refused (callback : Callback)
  | waived (callback : Callback)
  | quitQueued
  | dispatched (callback : Callback) (result : Int32)
  | aborted (callback : Callback)
  | invoked (callback : Callback) (result : Int32)
  | answered (request : Request) (callback : Callback) (result : Int32) (code : Code)
  | discarded

inductive Item
  | run (callback : Callback) (delay : Nat) (result : Int32)
  | quit

inductive Errand
  | post (request : Request) (callback : Callback) (delay : Nat) (result : Int32)
  | quit

/-- What a thread can have to do. To `enter` is to wait until nobody holds the gate and to take it,
to `dispatch` is to sleep out the delay and then to run, and to `delegate` is to hand tasks to a
thread of their own and wait for it. With `discardLoop` the poster of the loop itself goes away. -/
inductive Task
  | invoke (callback : Callback) (result : Int32)
  | abort (callback : Callback)
  | body (closure : Nat) (name : String) (actions : List Action)
  | act (action : Action)
  | report (name : String)
  | offer (order : Order) (callback : Callback)
  | enter (errand : Errand)
  | decide (errand : Errand)
  | leave
  | log (record : Log.Record)
  | answer (request : Request) (callback : Callback) (result : Int32) (code : Code)
  | reply (reply : Reply)
  | receive
  | dispatch (callback : Callback) (delay : Nat) (result : Int32)
  | delegate (tasks : List Task)
  | awaitHelper (index : Nat)
  | await (channel : Nat)
  | openLatch
  | awaitLoop
  | discardLoop
  | clonePoster
  | dropPoster

structure Thread where
  tasks : List Task
  slot : ErrorSlot
  reply : Reply

namespace Thread

def idle : Thread := ⟨[], .empty, .nothing⟩

def isIdle (thread : Thread) : Bool := thread.tasks.isEmpty

end Thread

/-- Who has the loop: whoever asks for it, a thread that is shutting it down, or nobody. -/
inductive Ownership
  | available | closing | gone
  deriving DecidableEq, Repr

/-- `receivers` has the channels that the receivers listen to, `made` counts the callbacks made so
far, and `posters` the posters beside the one that belongs to the loop itself. While the bridge is
`latched`, the callback that holds the loop thread up does not return. -/
structure Bridge where
  main : Thread
  loopThread : Thread
  helpers : List Thread
  slots : Table Callback
  receivers : Table Nat
  channels : List Channel
  made : Nat
  loopName : String
  posters : Nat
  owner : Ownership
  gate : Option ThreadId
  quitting : Bool
  queue : List Item
  latched : Bool
  trace : List (ThreadId × Event)

namespace Bridge

def fresh : Bridge where
  main := .idle
  loopThread := .idle
  helpers := []
  slots := []
  receivers := []
  channels := []
  made := 0
  loopName := ""
  posters := 0
  owner := .gone
  gate := none
  quitting := false
  queue := []
  latched := false
  trace := []

def thread (s : Bridge) : ThreadId → Thread
  | .main => s.main
  | .loop => s.loopThread
  | .helper index => s.helpers.getD index .idle

def updateThread (s : Bridge) (t : ThreadId) (f : Thread → Thread) : Bridge :=
  match t with
  | .main => { s with main := f s.main }
  | .loop => { s with loopThread := f s.loopThread }
  | .helper index => { s with helpers := s.helpers.modify index f }

def setTasks (s : Bridge) (t : ThreadId) (tasks : List Task) : Bridge :=
  s.updateThread t fun thread => { thread with tasks }

def push (s : Bridge) (t : ThreadId) (tasks : List Task) : Bridge :=
  s.updateThread t fun thread => { thread with tasks := tasks ++ thread.tasks }

def reply (s : Bridge) (t : ThreadId) (reply : Reply) : Bridge :=
  s.updateThread t fun thread => { thread with reply }

def setSlot (s : Bridge) (t : ThreadId) (slot : ErrorSlot) : Bridge :=
  s.updateThread t fun thread => { thread with slot }

def threadName? (s : Bridge) : ThreadId → Option String
  | .main => some "main"
  | .loop => some s.loopName
  | .helper _ => none

def note (s : Bridge) (t : ThreadId) (events : List Event) : Bridge :=
  { s with trace := s.trace ++ events.map (t, ·) }

def log (s : Bridge) (t : ThreadId) (records : List Log.Record) : Bridge :=
  s.note t (records.map .logged)

def hasStopped (s : Bridge) : Bool := s.loopThread.isIdle

/-- Nobody is left who could queue anything. -/
def isDisconnected (s : Bridge) : Bool := s.posters == 0 && s.owner == .gone

def enqueue (s : Bridge) (item : Item) : Bridge := { s with queue := s.queue ++ [item] }

def startLoop (s : Bridge) (name : String) : Bridge :=
  { s with
    loopThread := { Thread.idle with tasks := [.receive] }
    loopName := name
    posters := 1
    owner := .available
    gate := none
    quitting := false
    queue := []
    latched := false }

def posterText (s : Bridge) : String :=
  "LoopPoster \x7b name: " ++ quoted s.loopName ++ ", quitting: " ++ boolText s.quitting ++
    " \x7d"

def loopText (s : Bridge) : String :=
  "MessageLoop \x7b poster: " ++ s.posterText ++ ", thread_id: ThreadId(_) \x7d"

def sendTo (s : Bridge) (channel : Nat) (code : Code) : Bridge :=
  { s with channels := s.channels.modify channel (·.send code) }

def abandon (s : Bridge) (receiver : Nat) : Bridge :=
  match s.receivers.get? receiver with
  | some channel =>
    { s with
      receivers := s.receivers.erase receiver
      channels := s.channels.modify channel .abandon }
  | none => s

def assemble (s : Bridge) (optional : Bool) (target : Target) : Callback × Bridge :=
  let callback : Callback := ⟨s.made, target, 0⟩
  (if optional then callback.optional else callback, { s with made := s.made + 1 })

/-- A callback from its recipe. The receiver of a channel replaces the one that its number
had before. -/
def make (s : Bridge) (optional : Bool) : Recipe → Callback × Bridge
  | .blocking => s.assemble optional .blocking
  | .native context => s.assemble optional (.native context)
  | .closure trigger name body =>
    s.assemble optional (.closure (some ⟨name, .perform trigger body⟩))
  | .channel name receiver =>
    let s := s.abandon receiver
    let channel := s.channels.length
    let s := { s with
      receivers := s.receivers.put receiver channel
      channels := s.channels ++ [Channel.pending] }
    s.assemble optional (.closure (some ⟨name, .send channel⟩))

def tryTake (s : Bridge) (receiver : Nat) : Reply × Bridge :=
  match s.receivers.get? receiver with
  | none => (.missing .receiver, s)
  | some channel =>
    let (receipt, resolved) := (s.channels.getD channel .abandoned).tryTake
    (.receipt receipt, { s with channels := s.channels.set channel resolved })

def poll (s : Bridge) (receiver : Nat) : Reply × Bridge :=
  match s.receivers.get? receiver with
  | none => (.missing .receiver, s)
  | some channel =>
    match (s.channels.getD channel .abandoned).poll with
    | (some receipt, resolved) =>
      (.receipt receipt, { s with channels := s.channels.set channel resolved })
    | (none, _) => (.panicked (some Channel.spentMessage), s)

end Bridge
end HostBridge
