import HostBridge.MessageLoop.State

/-!
# One step of one thread

A step does the first task of a thread, or nothing while that task has to wait. A callback
that is posted gets in when the quit flag is down; otherwise it runs with the code of an
aborted operation on the thread that posted it, after the gate has been given back. A
panic ends the body it happens in and nothing else: its text goes into the error slot of
the thread.
-/
namespace HostBridge

namespace Log

def completionTarget : String := "plugbridge_core::completion"

def loopTarget : String := "plugbridge_runtime::message_loop"

def enteringRecord (name : String) (code : Code) : Record :=
  ⟨.debug, completionTarget, "entering completion callback",
    [.quoted "callback" name, .bare "code" code.text]⟩

def skippedRecord (name : String) (code : Code) : Record :=
  ⟨.warn, completionTarget, "completion callback skipped",
    [.quoted "callback" name, .bare "code" code.text]⟩

def panickedRecord (name text : String) : Record :=
  ⟨.error, completionTarget, "completion callback panicked: " ++ text, [.quoted "callback" name]⟩

def nullContextRecord : Record :=
  ⟨.error, completionTarget, "completion trampoline called without a context", []⟩

def abortingRecord : Record := ⟨.debug, completionTarget, "aborting completion callback", []⟩

def loopRecord (level : Level) (message name : String) : Record :=
  ⟨level, loopTarget, message, [.bare "message_loop" name]⟩

end Log

def panicMessage (name text : String) : String :=
  "completion callback `" ++ name ++ "` panicked: " ++ text

namespace Bridge

def enterClosure (s : Bridge) (t : ThreadId) (serial : Nat) (closure : Closure)
    (result : Int32) : Bridge :=
  let (code, warnings) := Code.receive result
  let s := s.log t (warnings ++ [Log.enteringRecord closure.name code])
  match closure.duty with
  | .send channel => s.sendTo channel code
  | .perform .always body =>
    (s.note t [.started serial closure.name (some code)]).push t [.body serial closure.name body]
  | .perform .onSuccess body =>
    if code.isOk then
      (s.note t [.started serial closure.name none]).push t [.body serial closure.name body]
    else s.log t [Log.skippedRecord closure.name code]

/-- Runs a callback with a result. A closed latch holds its callback up, unless that is
being aborted. -/
def invoke? (s : Bridge) (t : ThreadId) (callback : Callback) (result : Int32) : Option Bridge :=
  let called := s.note t [.invoked callback result]
  match callback.target with
  | .blocking => some s
  | .native context => some (called.note t [.native callback.serial context result])
  | .latch => if s.latched && result != NamedCode.aborted.number then none else some called
  | .closure none => some (called.log t [Log.nullContextRecord])
  | .closure (some closure) => some (called.enterClosure t callback.serial closure result)

def dropTasks : List Task :=
  [.enter .quit, .openLatch, .awaitLoop, .discardLoop, .reply .nothing]

/-- To join a loop is to shut it down and then to give it up, which quits once more. -/
def joinTasks : List Task :=
  [.enter .quit, .openLatch, .awaitLoop, .enter .quit, .discardLoop, .reply (.flag true)]

def shutDown (s : Bridge) (t : ThreadId) (tasks : List Task) : Bridge :=
  if s.owner = .available then { s with owner := .closing }.push t tasks
  else s.reply t (.missing .loop)

def route (s : Bridge) (t : ThreadId) (via : Via) (tasks : List Task) : Bridge :=
  match via with
  | .poster | .loop => s.push t tasks
  | .helper => s.push t [.delegate tasks]

def isReachable (s : Bridge) : Via → Bool
  | .poster | .helper => 0 < s.posters
  | .loop => s.owner == .available

def act (s : Bridge) (t : ThreadId) : Action → Bridge
  | .panic _ => s
  | .setError message => (s.setSlot t ((s.thread t).slot.set message)).reply t .nothing
  | .takeError =>
    let (message, slot) := (s.thread t).slot.take
    (s.setSlot t slot).reply t (.ofText? message)
  | .run slot result =>
    match s.slots.get? slot with
    | none => s.reply t (.missing .slot)
    | some callback =>
      { s with
        slots := s.slots.put slot (.sentinel s.made)
        made := s.made + 1 }.push t [.invoke callback result, .reply .nothing]
  | .tryTake receiver =>
    let (reply, s) := s.tryTake receiver
    s.reply t reply
  | .post order optional recipe =>
    if s.isReachable order.via then
      let (callback, s) := s.make optional recipe
      s.route t order.via [.offer order callback]
    else s.reply t (.missing .loop)
  | .quit via =>
    if s.isReachable via then s.route t via [.enter .quit, .reply .nothing]
    else s.reply t (.missing .loop)
  | .threadName => s.reply t (.ofText? (s.threadName? t))
  | .isLoopThread =>
    s.reply t (if s.owner = .available then .flag (t == .loop) else .nothing)
  | .joinLoop => s.shutDown t joinTasks
  | .dropLoop => s.shutDown t dropTasks

def continueBody (s : Bridge) (t : ThreadId) (closure : Nat) (name : String) :
    List Action → Bridge
  | [] => s.note t [.finished closure]
  | .panic payload :: _ =>
    (s.log t [Log.panickedRecord name payload.text]).setSlot t
      ((s.thread t).slot.set (panicMessage name payload.text))
  | action :: rest =>
    let report := if action.isReported then [Task.report action.name] else []
    s.push t (.act action :: report ++ [.body closure name rest])

def offer (s : Bridge) (t : ThreadId) (order : Order) (callback : Callback) : Bridge :=
  match order.request with
  | .post =>
    if callback.isBlocking then
      ((s.log t [Log.loopRecord .warn "cannot post the blocking sentinel" s.loopName]).note t
        [.waived callback]).push t [.answer .post callback order.result .badArgument]
    else s.push t [.enter (.post .post callback order.delay order.result)]
  | .complete =>
    if callback.isBlocking || callback.isOptional then
      let (code, warnings) := Code.receive order.result
      ((s.log t warnings).note t [.waived callback]).push t
        [.answer .complete callback order.result code]
    else s.push t [.enter (.post .complete callback 0 order.result)]

def acceptance : Request → Code
  | .post => .ok
  | .complete => .completionPending

/-- Turns a callback away: it is aborted when the gate has been left. -/
def refuse (s : Bridge) (t : ThreadId) (request : Request) (callback : Callback) (result : Int32)
    (record : Log.Record) : Bridge :=
  (s.note t [.refused callback]).push t
    [.log record, .leave, .abort callback, .answer request callback result .failed]

def decide (s : Bridge) (t : ThreadId) : Errand → Bridge
  | .post request callback delay result =>
    if s.quitting then
      s.refuse t request callback result
        (Log.loopRecord .warn "post after quit rejected" s.loopName)
    else if s.hasStopped then
      s.refuse t request callback result
        (Log.loopRecord .error "message loop is gone" s.loopName)
    else
      ((s.enqueue (.run callback delay result)).note t
        [.accepted callback result]).push t
          [.leave, .answer request callback result (acceptance request)]
  | .quit =>
    if s.quitting then s.push t [.leave]
    else
      let s := if s.hasStopped then s else (s.enqueue .quit).note t [.quitQueued]
      { s with quitting := true }.push t [.leave]

/-- The loop thread takes the first item; the quit marker ends it, and so does a queue
that nobody can fill any more. -/
def receive? (s : Bridge) (t : ThreadId) : Option Bridge :=
  match s.queue with
  | [] => if s.isDisconnected then some s else none
  | .quit :: queue => some { s with queue }
  | .run callback delay result :: queue =>
    some ({ s with queue }.push t [.dispatch callback delay result, .receive])

/-- Waits for the code of a channel. A code that was taken before cannot be waited for. -/
def await? (s : Bridge) (t : ThreadId) (channel : Nat) : Option Bridge :=
  match (s.channels.getD channel .abandoned).poll with
  | (some .pending, _) => none
  | (some receipt, resolved) =>
    some ({ s with channels := s.channels.set channel resolved }.reply t (.receipt receipt))
  | (none, _) => some (s.reply t (.panicked (some Channel.spentMessage)))

def perform? (s : Bridge) (t : ThreadId) : Task → Option Bridge
  | .invoke callback result => s.invoke? t callback result
  | .abort callback =>
    if callback.isBlocking then some s
    else some (((s.note t [.aborted callback]).log t [Log.abortingRecord]).push t
      [.invoke callback NamedCode.aborted.number])
  | .body closure name actions => some (s.continueBody t closure name actions)
  | .act action => some (s.act t action)
  | .report name => some (s.note t [.acted name (s.thread t).reply])
  | .offer order callback => some (s.offer t order callback)
  | .enter errand =>
    if s.gate.isSome then none
    else some ({ s with gate := some t }.push t [.decide errand])
  | .decide errand => some (s.decide t errand)
  | .leave => some { s with gate := none }
  | .log record => some (s.log t [record])
  | .answer request callback result code =>
    some ((s.note t [.answered request callback result code]).reply t (.code code))
  | .reply reply => some (s.reply t reply)
  | .receive => s.receive? t
  | .dispatch callback _ result =>
    some ((s.note t [.dispatched callback result]).push t [.invoke callback result])
  | .delegate tasks =>
    let s := s.push t [.awaitHelper s.helpers.length]
    some { s with helpers := s.helpers ++ [{ Thread.idle with tasks }] }
  | .awaitHelper index =>
    let helper := s.thread (.helper index)
    if helper.isIdle then some (s.reply t helper.reply) else none
  | .await channel => s.await? t channel
  | .openLatch => some { s with latched := false }
  | .awaitLoop => if t = .loop || s.hasStopped then some s else none
  | .discardLoop => some { s.note t [.discarded] with owner := .gone }
  | .clonePoster => some { s with posters := s.posters + 1 }
  | .dropPoster => some { s with posters := s.posters - 1 }

def step? (s : Bridge) (t : ThreadId) : Option Bridge :=
  match (s.thread t).tasks with
  | [] => none
  | task :: rest => (s.setTasks t rest).perform? t task

end Bridge
end HostBridge
