import HostBridge.MessageLoop.Schedule
import HostBridge.Settings

/-!
# Scripts

The main thread goes through a script, one step after another. After each step the bridge settles:
whatever was posted has run, unless the loop is held up by the latch. A step that names a slot, a
receiver or a loop that is not there is refused and does nothing.

A loop has a thread of its own under the loop's name. The system may refuse the thread, which is an
error; a name that no thread can have is not refused but makes the launch panic.
-/
namespace HostBridge

inductive Step
  | put (slot : Nat) (optional : Bool) (recipe : Recipe)
  | makeOptional (slot : Nat)
  | setFlags (slot : Nat) (flags : Int32)
  | nullContext (slot : Nat)
  | inspect (slot : Nat)
  | invoke (slot : Nat) (result : Int32)
  | abort (slot : Nat)
  | forget (slot : Nat)
  | invokeElsewhere (slot : Nat) (result : Int32)
  | runNull (result : Int32)
  | poll (receiver : Nat)
  | wait (receiver : Nat)
  | dropReceiver (receiver : Nat)
  | waitElsewhere (slot receiver : Nat) (result : Int32)
  | slotCall (call : ErrorSlot.Call)
  | act (action : Action)
  | spawn (name : String)
  | hold
  | release
  | describe
  | isLoopThread

namespace Bridge

def ask (s : Bridge) (tasks : List Task) : Bridge :=
  settle ((s.setTasks .main tasks).reply .main .nothing)

def respond (s : Bridge) (reply : Reply) : Bridge := s.reply .main reply

def withSlot (s : Bridge) (slot : Nat) (f : Callback → Bridge) : Bridge :=
  match s.slots.get? slot with
  | some callback => f callback
  | none => s.respond (.missing .slot)

def changeSlot (s : Bridge) (slot : Nat) (f : Callback → Callback) : Bridge :=
  s.withSlot slot fun callback =>
    { s with slots := s.slots.put slot (f callback) }.respond .nothing

def takeSlot (s : Bridge) (slot : Nat) (tasks : Callback → List Task) : Bridge :=
  s.withSlot slot fun callback =>
    { s with slots := s.slots.erase slot }.ask (tasks callback)

def takeReceiver (s : Bridge) (receiver : Nat) (f : Nat → Bridge → Bridge) : Bridge :=
  match s.receivers.get? receiver with
  | some channel => f channel { s with receivers := s.receivers.erase receiver }
  | none => s.respond (.missing .receiver)

def dropLoop (s : Bridge) : Bridge :=
  if s.owner = .available then s.ask [.act .dropLoop] else s

def isThreadName (name : String) : Bool := name.toList.all fun c => c.toNat != 0

def spawn (s : Bridge) (name : String) : Bridge :=
  let s := s.dropLoop
  if isThreadName name then (s.startLoop name).respond (.text name)
  else s.respond (.panicked none)

def hold (s : Bridge) : Bridge :=
  if s.latched then s.respond (.text "held")
  else if s.isReachable .poster then
    let (callback, s) := s.assemble false .latch
    let s := { s with latched := true }.ask [.offer ⟨.post, .poster, 0, 0⟩ callback]
    match s.main.reply with
    | .code (.named .ok) => s
    | _ => { s with latched := false }
  else s.respond (.missing .loop)

def describe (s : Bridge) : Reply :=
  if s.posters = 0 then .missing .loop
  else .loop s.posterText (if s.owner = .available then some s.loopText else none)

def perform (s : Bridge) : Step → Bridge
  | .put slot optional recipe =>
    let (callback, s) := s.make optional recipe
    { s with slots := s.slots.put slot callback }.respond .nothing
  | .makeOptional slot => s.changeSlot slot .optional
  | .setFlags slot flags => s.changeSlot slot fun callback => { callback with flags }
  | .nullContext slot => s.changeSlot slot .nullContext
  | .inspect slot => s.withSlot slot fun callback => s.respond (.callback callback)
  | .invoke slot result =>
    s.takeSlot slot fun callback => [.invoke callback result, .reply .nothing]
  | .abort slot => s.takeSlot slot fun callback => [.abort callback, .reply .nothing]
  | .forget slot => s.takeSlot slot fun _ => []
  | .invokeElsewhere slot result =>
    s.takeSlot slot fun callback => [.delegate [.invoke callback result], .reply .nothing]
  | .runNull _ => s.respond .nothing
  | .poll receiver =>
    let (reply, s) := s.poll receiver
    s.respond reply
  | .wait receiver => s.takeReceiver receiver fun channel s => s.ask [.await channel]
  | .dropReceiver receiver =>
    if (s.receivers.get? receiver).isSome then (s.abandon receiver).respond .nothing
    else s.respond (.missing .receiver)
  | .waitElsewhere slot receiver result =>
    s.withSlot slot fun _ =>
      s.takeReceiver receiver fun channel s =>
        s.takeSlot slot fun callback => [.delegate [.invoke callback result], .await channel]
  | .slotCall call =>
    let (answer, slot) := s.main.slot.answer call
    (s.setSlot .main slot).respond (.slot answer)
  | .act action => s.ask [.act action]
  | .spawn name => s.spawn name
  | .hold => s.hold
  | .release => ({ s with latched := false }.ask []).respond .nothing
  | .describe => s.respond s.describe
  | .isLoopThread =>
    s.respond (if s.owner = .available then .flag false else .missing .loop)

end Bridge

inductive Launch
  | started (s : Bridge)
  | refused (error : Nat)
  | panicked

namespace Bridge

/-- The system's error, if it has one, comes after the look at the name. -/
def launch (s : Bridge) (refusal : Option Nat) (name : String) : Launch :=
  if isThreadName name then refusal.elim (.started (s.startLoop name)) .refused else .panicked

theorem spawn_eq_launch (s : Bridge) (name : String) : s.spawn name =
    match s.dropLoop.launch none name with
    | .started started => started.respond (.text name)
    | .refused _ | .panicked => s.dropLoop.respond (.panicked none) := by
  unfold spawn launch
  split <;> rfl

end Bridge
end HostBridge
