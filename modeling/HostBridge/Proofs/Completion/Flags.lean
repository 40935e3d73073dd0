import HostBridge.MessageLoop.Script
import HostBridge.Proofs.MessageLoop.Reachable

/-!
# Flag words

Of the 32 flags of a callback only the lowest is read. To mask a callback is to clear the other 31,
and the lowest too if that is not to be kept. All that a callback can be found in is masked with it:
bodies, whose actions make callbacks when they are gone through, tasks, events and replies. Where a
callback is being given to a complete call, its lowest flag is kept in any case.
-/
namespace HostBridge

def keptFlags (keep : Bool) (flags : Int32) : Int32 :=
  if keep then flags &&& Callback.optionalFlag else 0

def Request.keeps (keep : Bool) : Request → Bool
  | .post => keep
  | .complete => true

mutual

def Recipe.mask (keep : Bool) : Recipe → Recipe
  | .blocking => .blocking
  | .native context => .native context
  | .closure trigger name body => .closure trigger name (maskBody keep body)
  | .channel name receiver => .channel name receiver

def Action.mask (keep : Bool) : Action → Action
  | .post order optional recipe =>
    .post order (order.request.keeps keep && optional) (recipe.mask keep)
  | .panic payload => .panic payload
  | .setError message => .setError message
  | .takeError => .takeError
  | .run slot result => .run slot result
  | .tryTake receiver => .tryTake receiver
  | .quit via => .quit via
  | .threadName => .threadName
  | .isLoopThread => .isLoopThread
  | .joinLoop => .joinLoop
  | .dropLoop => .dropLoop

def maskBody (keep : Bool) : List Action → List Action
  | [] => []
  | action :: rest => action.mask keep :: maskBody keep rest

end

def Target.mask (keep : Bool) : Target → Target
  | .closure (some ⟨name, .perform trigger body⟩) =>
    .closure (some ⟨name, .perform trigger (maskBody keep body)⟩)
  | target => target

/-- The first decides about the flags that are in the bodies, the second about those of the callback
itself. -/
def Callback.maskWith (keep keepOwn : Bool) (callback : Callback) : Callback :=
  ⟨callback.serial, callback.target.mask keep, keptFlags keepOwn callback.flags⟩

def Callback.mask (keep : Bool) (callback : Callback) : Callback := callback.maskWith keep keep

def Reply.mask (keep : Bool) : Reply → Reply
  | .callback printed => .callback (printed.mask keep)
  | reply => reply

def Event.mask (keep : Bool) : Event → Event
  | .acted name reply => .acted name (reply.mask keep)
  | .accepted callback result => .accepted (callback.mask keep) result
  | .refused callback => .refused (callback.mask keep)
  | .waived callback => .waived (callback.mask keep)
  | .dispatched callback result => .dispatched (callback.mask keep) result
  | .aborted callback => .aborted (callback.mask keep)
  | .invoked callback result => .invoked (callback.mask keep) result
  | .answered request callback result code =>
    .answered request (callback.mask keep) result code
  | event => event

def Item.mask (keep : Bool) : Item → Item
  | .run callback delay result => .run (callback.mask keep) delay result
  | .quit => .quit

def Errand.mask (keep : Bool) : Errand → Errand
  | .post request callback delay result => .post request (callback.mask keep) delay result
  | .quit => .quit

mutual

def Task.mask (keep : Bool) : Task → Task
  | .invoke callback result => .invoke (callback.mask keep) result
  | .abort callback => .abort (callback.mask keep)
  | .body closure name actions => .body closure name (maskBody keep actions)
  | .act action => .act (action.mask keep)
  | .offer order callback =>
    .offer order (callback.maskWith keep (order.request.keeps keep))
  | .enter errand => .enter (errand.mask keep)
  | .decide errand => .decide (errand.mask keep)
  | .answer request callback result code => .answer request (callback.mask keep) result code
  | .reply reply => .reply (reply.mask keep)
  | .dispatch callback delay result => .dispatch (callback.mask keep) delay result
  | .delegate tasks => .delegate (maskTasks keep tasks)
  | .report name => .report name
  | .leave => .leave
  | .log record => .log record
  | .receive => .receive
  | .awaitHelper index => .awaitHelper index
  | .await channel => .await channel
  | .openLatch => .openLatch
  | .awaitLoop => .awaitLoop
  | .discardLoop => .discardLoop
  | .clonePoster => .clonePoster
  | .dropPoster => .dropPoster

def maskTasks (keep : Bool) : List Task → List Task
  | [] => []
  | task :: rest => task.mask keep :: maskTasks keep rest

end

def Thread.mask (keep : Bool) (thread : Thread) : Thread :=
  ⟨maskTasks keep thread.tasks, thread.slot, thread.reply.mask keep⟩

def Bridge.mask (keep : Bool) (s : Bridge) : Bridge :=
  { s with
    main := s.main.mask keep
    loopThread := s.loopThread.mask keep
    helpers := s.helpers.map (·.mask keep)
    slots := s.slots.map fun entry => (entry.1, entry.2.mask keep)
    queue := s.queue.map (·.mask keep)
    trace := s.trace.map fun entry => (entry.1, entry.2.mask keep) }

namespace Callback

theorem toBitVec_and_optionalFlag (flags : Int32) :
    (flags &&& optionalFlag).toBitVec = if flags.toBitVec.getLsbD 0 then 1#32 else 0#32 := by
  rw [Int32.toBitVec_and]
  apply BitVec.eq_of_getLsbD_eq
  intro i hi
  have hone : optionalFlag.toBitVec.getLsbD i = decide (i = 0) := by
    show (1#32).getLsbD i = _
    rw [BitVec.getLsbD_one]
    simp
  rw [BitVec.getLsbD_and, hone]
  by_cases h0 : i = 0
  · subst h0
    cases flags.toBitVec.getLsbD 0 <;> rfl
  · cases flags.toBitVec.getLsbD 0 <;> simp [h0, BitVec.getLsbD_one]

theorem isOptional_iff (callback : Callback) :
    callback.isOptional = true ↔ callback.flags.toBitVec.getLsbD 0 = true := by
  rw [isOptional, bne_iff_ne, ne_eq, ← Int32.toBitVec_inj, toBitVec_and_optionalFlag]
  cases callback.flags.toBitVec.getLsbD 0 <;> decide

/-- Making a callback optional sets its lowest flag and touches nothing else. -/
structure OptionalLaw (callback : Callback) : Prop where
  serial : callback.optional.serial = callback.serial
  target : callback.optional.target = callback.target
  lowest : callback.optional.flags.toBitVec.getLsbD 0 = true
  others : ∀ i, 0 < i →
    callback.optional.flags.toBitVec.getLsbD i = callback.flags.toBitVec.getLsbD i
  isOptional : callback.optional.isOptional = true

theorem optionalLaw (callback : Callback) : callback.OptionalLaw := by
  have hbit (i : Nat) : callback.optional.flags.toBitVec.getLsbD i =
      (callback.flags.toBitVec.getLsbD i || decide (i = 0)) := by
    rw [optional, Int32.toBitVec_or, BitVec.getLsbD_or]
    congr 1
    show (1#32).getLsbD i = _
    rw [BitVec.getLsbD_one]
    simp
  have hlowest : callback.optional.flags.toBitVec.getLsbD 0 = true := by
    rw [hbit]
    simp
  refine ⟨rfl, rfl, hlowest, ?_, (isOptional_iff _).mpr hlowest⟩
  intro i hi
  rw [hbit, decide_eq_false (Nat.ne_of_gt hi), Bool.or_false]

end Callback
end HostBridge
