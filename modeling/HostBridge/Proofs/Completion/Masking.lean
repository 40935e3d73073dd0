import HostBridge.Proofs.Completion.Flags

/-!
# Steps under a mask

What a thread does next can be done under a mask: the parts of an operation give the masked state
when they are given masked parts. The one place where a flag decides is the offer of a callback to a
complete call; there the lowest flag is still to be seen, and so two states that look the same under
a mask look the same after a step.
-/
namespace HostBridge

variable {keep : Bool}

theorem maskTasks_append (first second : List Task) :
    maskTasks keep (first ++ second) = maskTasks keep first ++ maskTasks keep second := by
  induction first with
  | nil => rfl
  | cons task rest ih => exact congrArg (task.mask keep :: ·) ih

theorem isEmpty_maskTasks (tasks : List Task) :
    (maskTasks keep tasks).isEmpty = tasks.isEmpty := by
  cases tasks <;> rfl

theorem Callback.isBlocking_mask (callback : Callback) (keepOwn : Bool) :
    (callback.maskWith keep keepOwn).isBlocking = callback.isBlocking := by
  obtain ⟨serial, target, flags⟩ := callback
  rcases target with _ | _ | _ | _ | ⟨_, _ | _⟩ <;> rfl

theorem keptFlags_zero (keepOwn : Bool) : keptFlags keepOwn 0 = 0 := by cases keepOwn <;> decide

theorem Callback.mask_sentinel (serial : Nat) : (sentinel serial).mask keep = sentinel serial :=
  congrArg (fun flags : Int32 => (⟨serial, .blocking, flags⟩ : Callback)) (keptFlags_zero keep)

namespace Table

variable {α : Type} (f : α → α) (table : Table α) (key : Nat)

theorem get?_map : get? (table.map fun entry => (entry.1, f entry.2)) key =
    (table.get? key).map f := by
  induction table with
  | nil => rfl
  | cons entry rest ih =>
    obtain ⟨number, a⟩ := entry
    simp only [get?, List.map_cons, List.lookup_cons] at ih ⊢
    split
    · rfl
    · exact ih

theorem erase_map : erase (table.map fun entry => (entry.1, f entry.2)) key =
    (table.erase key).map fun entry => (entry.1, f entry.2) := by
  simp only [erase, List.filter_map]
  rfl

theorem put_map (a : α) : put (table.map fun entry => (entry.1, f entry.2)) key (f a) =
    (table.put key a).map fun entry => (entry.1, f entry.2) := by
  rw [put, put, erase_map]
  rfl

end Table

namespace Bridge

variable (s : Bridge) (t : ThreadId)

theorem thread_mask : (s.mask keep).thread t = (s.thread t).mask keep := by
  cases t with
  | helper index =>
    simp only [mask, thread, List.getD_eq_getElem?_getD, List.getElem?_map]
    cases s.helpers[index]? <;> rfl
  | _ => rfl

theorem mask_updateThread {f g : Thread → Thread}
    (h : ∀ thread, (f thread).mask keep = g (thread.mask keep)) :
    (s.updateThread t f).mask keep = (s.mask keep).updateThread t g := by
  cases t with
  | main => simp only [mask, updateThread, h]
  | loop => simp only [mask, updateThread, h]
  | helper index =>
    have hmodify : (s.helpers.modify index f).map (·.mask keep) =
        (s.helpers.map (·.mask keep)).modify index g := by
      generalize s.helpers = helpers
      induction helpers generalizing index with
      | nil => cases index <;> rfl
      | cons helper rest ih =>
        cases index with
        | zero => simp [h]
        | succ index => simpa using ih index
    simp only [mask, updateThread, hmodify]

theorem mask_setTasks (tasks : List Task) :
    (s.setTasks t tasks).mask keep = (s.mask keep).setTasks t (maskTasks keep tasks) :=
  mask_updateThread s t fun _ => rfl

theorem mask_push (tasks : List Task) :
    (s.push t tasks).mask keep = (s.mask keep).push t (maskTasks keep tasks) :=
  mask_updateThread s t fun thread => by simp only [Thread.mask, maskTasks_append]

theorem mask_reply (reply : Reply) :
    (s.reply t reply).mask keep = (s.mask keep).reply t (reply.mask keep) :=
  mask_updateThread s t fun _ => rfl

theorem mask_setSlot (slot : ErrorSlot) :
    (s.setSlot t slot).mask keep = (s.mask keep).setSlot t slot :=
  mask_updateThread s t fun _ => rfl

theorem mask_note (events : List Event) :
    (s.note t events).mask keep = (s.mask keep).note t (events.map (·.mask keep)) := by
  simp [mask, note]

theorem mask_log (records : List Log.Record) :
    (s.log t records).mask keep = (s.mask keep).log t records := by
  rw [log, mask_note, log, List.map_map]
  rfl

theorem mask_enqueue (item : Item) :
    (s.enqueue item).mask keep = (s.mask keep).enqueue (item.mask keep) := by
  simp [mask, enqueue]

theorem hasStopped_mask : (s.mask keep).hasStopped = s.hasStopped :=
  isEmpty_maskTasks s.loopThread.tasks

theorem get?_mask (slot : Nat) :
    (s.mask keep).slots.get? slot = (s.slots.get? slot).map (·.mask keep) :=
  Table.get?_map _ _ _

theorem mask_erase (slot : Nat) :
    ({ s with slots := s.slots.erase slot } : Bridge).mask keep =
      { s.mask keep with slots := (s.mask keep).slots.erase slot } := by
  simp only [mask, Table.erase_map]

theorem mask_put (slot : Nat) (callback : Callback) :
    ({ s with slots := s.slots.put slot callback } : Bridge).mask keep =
      { s.mask keep with slots := (s.mask keep).slots.put slot (callback.mask keep) } := by
  simp only [mask, ← Table.put_map]

theorem mask_enlist (tasks : List Task) :
    ({ s with helpers := s.helpers ++ [{ Thread.idle with tasks }] } : Bridge).mask keep =
      { s.mask keep with
        helpers :=
          (s.mask keep).helpers ++ [{ Thread.idle with tasks := maskTasks keep tasks }] } := by
  simp only [mask, List.map_append]
  rfl

theorem mask_abandon (receiver : Nat) :
    (s.abandon receiver).mask keep = (s.mask keep).abandon receiver := by
  have hreceivers : (s.mask keep).receivers = s.receivers := rfl
  unfold abandon
  rw [hreceivers]
  cases s.receivers.get? receiver <;> rfl

theorem mask_tryTake (receiver : Nat) :
    ((s.tryTake receiver).1, (s.tryTake receiver).2.mask keep) =
      (s.mask keep).tryTake receiver := by
  have hreceivers : (s.mask keep).receivers = s.receivers := rfl
  unfold tryTake
  rw [hreceivers]
  cases s.receivers.get? receiver <;> rfl

theorem mask_poll (receiver : Nat) :
    ((s.poll receiver).1, (s.poll receiver).2.mask keep) = (s.mask keep).poll receiver := by
  have hreceivers : (s.mask keep).receivers = s.receivers := rfl
  have hchannels : (s.mask keep).channels = s.channels := rfl
  unfold poll
  rw [hreceivers, hchannels]
  cases s.receivers.get? receiver with
  | none => rfl
  | some channel =>
    simp only
    rcases (s.channels.getD channel .abandoned).poll with ⟨_ | _, _⟩ <;> rfl

theorem assemble_eq (optional : Bool) (target : Target) : s.assemble optional target =
    (⟨s.made, target, if optional then 0 ||| Callback.optionalFlag else 0⟩,
      { s with made := s.made + 1 }) := by
  cases optional <;> rfl

theorem mask_assemble (keepOwn optional : Bool) (target : Target) :
    ((s.assemble optional target).1.maskWith keep keepOwn,
        (s.assemble optional target).2.mask keep) =
      (s.mask keep).assemble (keepOwn && optional) (target.mask keep) := by
  have hflags : keptFlags keepOwn (if optional then 0 ||| Callback.optionalFlag else 0) =
      if keepOwn && optional then 0 ||| Callback.optionalFlag else 0 := by
    cases keepOwn <;> cases optional <;> decide
  simp only [assemble_eq, Callback.maskWith, hflags]
  rfl

theorem mask_make (keepOwn optional : Bool) (recipe : Recipe) :
    ((s.make optional recipe).1.maskWith keep keepOwn, (s.make optional recipe).2.mask keep) =
      (s.mask keep).make (keepOwn && optional) (recipe.mask keep) := by
  cases recipe with
  | channel name receiver =>
    simp only [make, Recipe.mask, ← mask_abandon, mask_assemble]
    rfl
  | _ => exact mask_assemble s keepOwn optional _

theorem mask_enterClosure (serial : Nat) (name : String) (duty : Duty) (result : Int32) :
    (s.enterClosure t serial ⟨name, duty⟩ result).mask keep =
      (s.mask keep).enterClosure t serial ⟨name, match duty with
        | .perform trigger body => .perform trigger (maskBody keep body)
        | .send channel => .send channel⟩ result := by
  cases duty with
  | send channel =>
    simp only [enterClosure, ← mask_log]
    rfl
  | perform trigger body =>
    cases trigger with
    | always =>
      simp only [enterClosure, mask_push, mask_note, mask_log]
      rfl
    | onSuccess =>
      simp only [enterClosure]
      split
      · simp only [mask_push, mask_note, mask_log]
        rfl
      · simp only [mask_log]

theorem mask_invoke? (callback : Callback) (result : Int32) :
    (s.invoke? t callback result).map (mask keep) =
      (s.mask keep).invoke? t (callback.mask keep) result := by
  obtain ⟨serial, target, flags⟩ := callback
  have hcalled := @mask_note keep s t [.invoked ⟨serial, target, flags⟩ result]
  cases target with
  | blocking => rfl
  | native context =>
    simp only [invoke?, Option.map_some, mask_note]
    rfl
  | latch =>
    have hlatched : (s.mask keep).latched = s.latched := rfl
    simp only [invoke?, Callback.mask, Callback.maskWith, Target.mask, hlatched]
    split
    · rfl
    · exact congrArg some hcalled
  | closure context =>
    cases context with
    | none =>
      simp only [invoke?, Option.map_some, mask_log, mask_note]
      rfl
    | some closure =>
      obtain ⟨name, duty⟩ := closure
      simp only [invoke?, Option.map_some, mask_enterClosure, mask_note]
      cases duty <;> rfl

theorem isReachable_mask (via : Via) : (s.mask keep).isReachable via = s.isReachable via := by
  cases via <;> rfl

theorem mask_route (via : Via) (tasks : List Task) :
    (s.route t via tasks).mask keep = (s.mask keep).route t via (maskTasks keep tasks) := by
  cases via <;> exact mask_push s t _

theorem mask_shutDown {tasks : List Task} (h : maskTasks keep tasks = tasks) :
    (s.shutDown t tasks).mask keep = (s.mask keep).shutDown t tasks := by
  have howner : (s.mask keep).owner = s.owner := rfl
  unfold shutDown
  rw [howner]
  split
  · rw [mask_push, h]
    rfl
  · exact mask_reply s t _

theorem mask_act (action : Action) :
    (s.act t action).mask keep = (s.mask keep).act t (action.mask keep) := by
  have hthread := @thread_mask keep s t
  cases action with
  | panic payload => rfl
  | setError message =>
    simp only [act, Action.mask, mask_reply, mask_setSlot, hthread]
    rfl
  | takeError =>
    simp only [act, Action.mask, mask_reply, mask_setSlot, hthread]
    cases hmessage : (s.thread t).slot.message <;>
      simp [Thread.mask, ErrorSlot.take, hmessage, Reply.ofText?, Reply.mask]
  | run slot result =>
    simp only [act, Action.mask, get?_mask]
    cases s.slots.get? slot with
    | none => exact mask_reply s t _
    | some callback =>
      have hput := @mask_put keep { s with made := s.made + 1 } slot (.sentinel s.made)
      rw [Callback.mask_sentinel] at hput
      simp only [Option.map_some, mask_push, hput]
      rfl
  | tryTake receiver =>
    have htake := @mask_tryTake keep s receiver
    simp only [act, Action.mask, ← htake, mask_reply]
    congr 1
    unfold tryTake
    split <;> rfl
  | post order optional recipe =>
    have hmake := @mask_make keep s (order.request.keeps keep) optional recipe
    simp only [act, Action.mask, isReachable_mask, ← hmake]
    split
    · exact mask_route _ t order.via _
    · exact mask_reply s t _
  | quit via =>
    simp only [act, Action.mask, isReachable_mask]
    split
    · exact mask_route s t via _
    · exact mask_reply s t _
  | threadName =>
    have hname : (s.mask keep).threadName? t = s.threadName? t := by cases t <;> rfl
    simp only [act, Action.mask, mask_reply, hname]
    cases s.threadName? t <;> rfl
  | isLoopThread =>
    have howner : (s.mask keep).owner = s.owner := rfl
    simp only [act, Action.mask, mask_reply, howner]
    split <;> rfl
  | joinLoop => exact mask_shutDown s t rfl
  | dropLoop => exact mask_shutDown s t rfl

theorem mask_continueBody (closure : Nat) (name : String) (actions : List Action) :
    (s.continueBody t closure name actions).mask keep =
      (s.mask keep).continueBody t closure name (maskBody keep actions) := by
  match actions with
  | [] => exact mask_note s t _
  | .panic payload :: _ =>
    simp only [continueBody, maskBody, Action.mask, mask_setSlot, mask_log, thread_mask]
    rfl
  | .post order optional recipe :: _ => exact mask_push s t _
  | .setError _ :: _ | .takeError :: _ | .run .. :: _ | .tryTake _ :: _ | .quit _ :: _
  | .threadName :: _ | .isLoopThread :: _ | .joinLoop :: _ | .dropLoop :: _ =>
    exact mask_push s t _

theorem mask_refuse (request : Request) (callback : Callback) (result : Int32)
    (record : Log.Record) : (s.refuse t request callback result record).mask keep =
      (s.mask keep).refuse t request (callback.mask keep) result record := by
  simp only [refuse, mask_push, mask_note]
  rfl

theorem mask_decide (errand : Errand) :
    (s.decide t errand).mask keep = (s.mask keep).decide t (errand.mask keep) := by
  have hquitting : (s.mask keep).quitting = s.quitting := rfl
  have hname : (s.mask keep).loopName = s.loopName := rfl
  cases errand with
  | post request callback delay result =>
    simp only [decide, Errand.mask, hquitting, hname, hasStopped_mask]
    split
    · exact mask_refuse ..
    · split
      · exact mask_refuse ..
      · simp only [mask_push, mask_note, mask_enqueue]
        rfl
  | quit =>
    simp only [decide, Errand.mask, hquitting, hasStopped_mask]
    split
    · exact mask_push s t _
    · rw [mask_push]
      split
      · rfl
      · have hqueued := @mask_note keep (s.enqueue .quit) t [.quitQueued]
        rw [mask_enqueue] at hqueued
        exact congrArg (fun a : Bridge => { a with quitting := true }.push t [.leave]) hqueued

theorem mask_receive? :
    (s.receive? t).map (mask keep) = (s.mask keep).receive? t := by
  have hqueue : (s.mask keep).queue = s.queue.map (·.mask keep) := rfl
  have hgone : (s.mask keep).isDisconnected = s.isDisconnected := rfl
  unfold receive?
  rw [hqueue, hgone]
  match s.queue with
  | [] =>
    simp only [List.map_nil]
    split <;> rfl
  | .quit :: _ => rfl
  | .run callback delay result :: _ =>
    simp only [List.map_cons, Item.mask, Option.map_some, mask_push]
    rfl

theorem mask_await? (channel : Nat) :
    (s.await? t channel).map (mask keep) = (s.mask keep).await? t channel := by
  have hchannels : (s.mask keep).channels = s.channels := rfl
  unfold await?
  rw [hchannels]
  rcases (s.channels.getD channel .abandoned).poll with ⟨_ | (_ | _ | _), _⟩
  · exact congrArg some (mask_reply s t _)
  · rfl
  · exact congrArg some (mask_reply _ t _)
  · exact congrArg some (mask_reply _ t _)

theorem mask_perform? (task : Task) (h : ∀ order callback, task ≠ .offer order callback) :
    (s.perform? t task).map (mask keep) = (s.mask keep).perform? t (task.mask keep) := by
  have hgate : (s.mask keep).gate = s.gate := rfl
  cases task with
  | invoke callback result => exact mask_invoke? s t callback result
  | abort callback =>
    have hblocking := @Callback.isBlocking_mask keep callback keep
    simp only [perform?, Task.mask, Callback.mask, hblocking]
    split
    · rfl
    · simp only [Option.map_some, mask_push, mask_log, mask_note]
      rfl
  | body closure name actions => exact congrArg some (mask_continueBody s t closure name actions)
  | act action => exact congrArg some (mask_act s t action)
  | report name =>
    simp only [perform?, Task.mask, Option.map_some, mask_note, thread_mask]
    rfl
  | offer order callback => exact absurd rfl (h order callback)
  | enter errand =>
    simp only [perform?, Task.mask, hgate]
    split
    · rfl
    · simp only [Option.map_some, mask_push]
      rfl
  | decide errand => exact congrArg some (mask_decide s t errand)
  | leave | openLatch | clonePoster | dropPoster => rfl
  | log record => exact congrArg some (mask_log s t [record])
  | answer request callback result code =>
    simp only [perform?, Task.mask, Option.map_some, mask_reply, mask_note]
    rfl
  | reply reply => exact congrArg some (mask_reply s t reply)
  | receive => exact mask_receive? s t
  | dispatch callback delay result =>
    simp only [perform?, Task.mask, Option.map_some, mask_push, mask_note]
    rfl
  | delegate tasks =>
    have hlength : (s.mask keep).helpers.length = s.helpers.length := List.length_map _
    simp only [perform?, Task.mask, Option.map_some, mask_enlist, mask_push, hlength]
    rfl
  | awaitHelper index =>
    have hidle : ((s.thread (.helper index)).mask keep).isIdle =
        (s.thread (.helper index)).isIdle := isEmpty_maskTasks _
    simp only [perform?, Task.mask, thread_mask, hidle]
    split
    · exact congrArg some (mask_reply s t _)
    · rfl
  | await channel => exact mask_await? s t channel
  | awaitLoop =>
    simp only [perform?, Task.mask, hasStopped_mask]
    split <;> rfl
  | discardLoop =>
    simp only [perform?, Task.mask, Option.map_some]
    exact congrArg (fun a : Bridge => some { a with owner := .gone })
      (@mask_note keep s t [.discarded])

variable {s t} {s' : Bridge}

theorem mask_eq_of_keeps {callback callback' : Callback} (request : Request)
    (h : callback.maskWith keep (request.keeps keep) =
      callback'.maskWith keep (request.keeps keep)) :
    callback.mask keep = callback'.mask keep := by
  simp only [Callback.maskWith, Callback.mk.injEq, Callback.mask] at h ⊢
  obtain ⟨hserial, htarget, hflags⟩ := h
  refine ⟨hserial, htarget, ?_⟩
  cases request with
  | post => exact hflags
  | complete =>
    cases keep with
    | false => rfl
    | true => exact hflags

theorem isBlocking_eq_of_keeps {callback callback' : Callback} {keepOwn : Bool}
    (h : callback.maskWith keep keepOwn = callback'.maskWith keep keepOwn) :
    callback.isBlocking = callback'.isBlocking := by
  rw [← callback.isBlocking_mask keepOwn, h, Callback.isBlocking_mask]

theorem isOptional_eq_of_keeps {callback callback' : Callback}
    (h : callback.maskWith keep true = callback'.maskWith keep true) :
    callback.isOptional = callback'.isOptional :=
  congrArg (fun c : Callback => c.flags != 0) h

theorem mask_offer_eq (hs : s.mask keep = s'.mask keep) (order : Order)
    {callback callback' : Callback}
    (hc : callback.maskWith keep (order.request.keeps keep) =
      callback'.maskWith keep (order.request.keeps keep)) :
    (s.offer t order callback).mask keep = (s'.offer t order callback').mask keep := by
  have hblocking := isBlocking_eq_of_keeps hc
  have hcallback := mask_eq_of_keeps order.request hc
  have hname : s.loopName = s'.loopName := (congrArg Bridge.loopName hs :)
  obtain ⟨request, via, delay, result⟩ := order
  cases request with
  | post =>
    simp only [offer, hblocking, hname]
    split
    · simp only [mask_push, mask_note, mask_log, hs, List.map_cons, List.map_nil, Event.mask,
        maskTasks, Task.mask, hcallback]
    · simp only [mask_push, hs, maskTasks, Task.mask, Errand.mask, hcallback]
  | complete =>
    have hoptional := isOptional_eq_of_keeps hc
    simp only [offer, hblocking, hoptional]
    split
    · simp only [mask_push, mask_note, mask_log, hs, List.map_cons, List.map_nil, Event.mask,
        maskTasks, Task.mask, hcallback]
    · simp only [mask_push, hs, maskTasks, Task.mask, Errand.mask, hcallback]

theorem mask_perform?_eq (hs : s.mask keep = s'.mask keep) {task task' : Task}
    (ht : task.mask keep = task'.mask keep) :
    (s.perform? t task).map (mask keep) = (s'.perform? t task').map (mask keep) := by
  by_cases hoffer : ∃ order callback, task = .offer order callback
  · obtain ⟨order, callback, rfl⟩ := hoffer
    cases task' with
    | offer order' callback' =>
      simp only [Task.mask, Task.offer.injEq] at ht
      obtain ⟨rfl, hc⟩ := ht
      exact congrArg some (mask_offer_eq hs order hc)
    | _ => cases ht
  · have hoffer' : ∀ order callback, task' ≠ .offer order callback := by
      rintro order callback rfl
      cases task with
      | offer => exact hoffer ⟨_, _, rfl⟩
      | _ => cases ht
    rw [mask_perform? s t task fun order callback h => hoffer ⟨order, callback, h⟩,
      mask_perform? s' t task' hoffer', hs, ht]

theorem mask_step?_eq (hs : s.mask keep = s'.mask keep) (t : ThreadId) :
    (s.step? t).map (mask keep) = (s'.step? t).map (mask keep) := by
  have hthread : (s.thread t).mask keep = (s'.thread t).mask keep := by
    rw [← thread_mask, hs, thread_mask]
  have htasks : maskTasks keep (s.thread t).tasks = maskTasks keep (s'.thread t).tasks :=
    congrArg Thread.tasks hthread
  unfold step?
  match hown : (s.thread t).tasks, hother : (s'.thread t).tasks with
  | [], [] => rfl
  | [], _ :: _ | _ :: _, [] =>
    rw [hown, hother] at htasks
    cases htasks
  | task :: rest, task' :: rest' =>
    rw [hown, hother] at htasks
    simp only [maskTasks, List.cons.injEq] at htasks
    refine mask_perform?_eq ?_ htasks.1
    rw [mask_setTasks, mask_setTasks, hs, htasks.2]

end Bridge
end HostBridge
