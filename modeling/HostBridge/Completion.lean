import HostBridge.Code
import HostBridge.ErrorSlot

/-!
# Completion callbacks

A channel carries one code from a callback to the receiver that was made with it. The receiver may
ask without waiting, as often as it likes; the code is handed over once. Asking again finds the
channel spent, which is told by `tryTake` and is a mistake of the caller for `poll`. A receiver that
is gone leaves the code unobserved.

A callback is what an asynchronous operation runs, once, when it is finished: a native function with
a context of the host's, or a closure of our own. The sentinel has no function and asks the host to
block instead. The lowest bit of the flags marks a callback as optional, the others mean nothing
here.

A closure is a name and a duty: to send its code into a channel, or to go through a body of actions,
always or only on success. Bodies are finite trees, because an action may post a callback with a
body of its own.
-/
namespace HostBridge

inductive Channel
  | pending
  | ready (code : Code)
  | taken
  | abandoned
  deriving DecidableEq, Repr

inductive Receipt
  | pending
  | delivered (code : Code)
  | released
  deriving DecidableEq, Repr

def Receipt.releasedMessage : String := "completion callback released without a result"

namespace Channel

def send (channel : Channel) (code : Code) : Channel :=
  match channel with
  | pending => ready code
  | channel => channel

def tryTake : Channel → Receipt × Channel
  | pending => (.pending, pending)
  | ready code => (.delivered code, taken)
  | channel => (.released, channel)

def poll (channel : Channel) : Option Receipt × Channel :=
  if channel = taken then (none, taken)
  else (some channel.tryTake.1, channel.tryTake.2)

def spentMessage : String := "called after complete"

def abandon (_ : Channel) : Channel := abandoned

end Channel

inductive Trigger
  | always | onSuccess
  deriving DecidableEq, Repr

/-- How the poster of a loop is reached: directly, through the loop that owns it, or on a
thread of its own. -/
inductive Via
  | poster | loop | helper
  deriving DecidableEq, Repr

inductive Request
  | post | complete
  deriving DecidableEq, Repr

/-- How a callback is handed over. The loop sleeps for the delay, in milliseconds, before it runs
the callback. -/
structure Order where
  request : Request
  via : Via
  delay : Nat
  result : Int32
  deriving DecidableEq, Repr

mutual

inductive Recipe
  | blocking
  | native (context : UInt64)
  | closure (trigger : Trigger) (name : String) (body : List Action)
  | channel (name : String) (receiver : Nat)

inductive Action
  | panic (payload : PanicPayload)
  | setError (message : String)
  | takeError
  | run (slot : Nat) (result : Int32)
  | tryTake (receiver : Nat)
  | post (order : Order) (optional : Bool) (recipe : Recipe)
  | quit (via : Via)
  | threadName
  | isLoopThread
  | joinLoop
  | dropLoop

end

namespace Action

def name : Action → String
  | panic _ => "panic"
  | setError _ => "set_error"
  | takeError => "take_error"
  | run .. => "run"
  | tryTake _ => "try_take"
  | post order .. => match order.request with | .post => "post" | .complete => "complete"
  | quit _ => "quit"
  | threadName => "thread_name"
  | isLoopThread => "is_loop_thread"
  | joinLoop => "join_loop"
  | dropLoop => "drop_loop"

def isReported : Action → Bool
  | panic _ | dropLoop => false
  | _ => true

end Action

inductive Duty
  | perform (trigger : Trigger) (body : List Action)
  | send (channel : Nat)

structure Closure where
  name : String
  duty : Duty

/-- The sentinel, a native function with its context, the latch, which returns when it is open or
when it is aborted, or the trampoline with its closure, unless the context is null. -/
inductive Target
  | blocking
  | native (context : UInt64)
  | latch
  | closure (context : Option Closure)

structure Callback where
  serial : Nat
  target : Target
  flags : Int32

namespace Callback

def optionalFlag : Int32 := 1

def sentinel (serial : Nat) : Callback := ⟨serial, .blocking, 0⟩

def isBlocking (callback : Callback) : Bool :=
  match callback.target with
  | .blocking => true
  | _ => false

def isOptional (callback : Callback) : Bool := callback.flags &&& optionalFlag != 0

def optional (callback : Callback) : Callback :=
  { callback with flags := callback.flags ||| optionalFlag }

def hasNullContext (callback : Callback) : Bool :=
  match callback.target with
  | .blocking | .closure none => true
  | .native context => context == 0
  | .latch | .closure (some _) => false

def nullContext (callback : Callback) : Callback :=
  { callback with
    target := match callback.target with
      | .blocking => .blocking
      | .native _ => .native 0
      | .latch => .latch
      | .closure _ => .closure none }

/-- Where functions and closures are kept is not determined, so a letter stands for it. -/
def contextText : Target → String
  | .native context => "0x" ++ hexText 1 context.toNat
  | .blocking | .closure none => "0x0"
  | .latch | .closure (some _) => "P"

def text (callback : Callback) : String :=
  if callback.isBlocking then "CompletionCallback(block until complete)"
  else
    "CompletionCallback \x7b func: F, user_data: " ++ contextText callback.target ++
      ", flags: " ++ intText callback.flags.toInt ++ " \x7d"

end Callback
end HostBridge
