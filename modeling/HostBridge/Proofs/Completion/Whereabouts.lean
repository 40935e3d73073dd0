import HostBridge.Proofs.Completion.Panics

/-!
# Where callbacks are

All callbacks that anybody has or has had: on a stack, in a slot, in the queue, or called. Each
is there once. What a move leads to was there before, with its context or without it, or it is
new and has a number and a channel that nobody has had.
-/
namespace HostBridge

mutual

def Task.callbacks : Task → List Callback
  | .invoke callback _ | .abort callback | .offer _ callback | .dispatch callback _ _ => [callback]
  | .enter errand | .decide errand =>
    match errand with
    | .post _ callback _ _ => [callback]
    | .quit => []
  | .delegate tasks => callbacksOf tasks
  | _ => []

def callbacksOf : List Task → List Callback
  | [] => []
  | task :: rest => task.callbacks ++ callbacksOf rest

end

def Item.callbacks : Item → List Callback
  | .run callback _ _ => [callback]
  | .quit => []

def Event.callbacks : Event → List Callback
  | .invoked callback _ => [callback]
  | _ => []

/-- A callback is what another has been: the same, but for flags and a context that is gone. -/
structure Callback.Descends (callback ancestor : Callback) : Prop where
  serial : callback.serial = ancestor.serial
  target : callback.target = ancestor.target ∨ callback.target = ancestor.nullContext.target

theorem Callback.Descends.refl (callback : Callback) : callback.Descends callback :=
  ⟨rfl, .inl rfl⟩

/-- Flags may be changed as one likes, and the context may be taken away; nothing else is done
to a callback in its slot. -/
def Motion.IsFaithful (s : Bridge) (m : Motion) : Prop :=
  ∀ t slot target flags callback, m = .call t (.change slot target flags) →
    s.slots.get? slot = some callback →
      target = callback.target ∨ target = callback.nullContext.target

theorem Motion.isFaithful_step (s : Bridge) (t : ThreadId) : (Motion.step t).IsFaithful s := by
  intro u slot target flags callback hcall
  cases hcall

theorem Motion.isFaithful_call {call : Call} (s : Bridge) (t : ThreadId)
    (hc : ∀ slot target flags, call ≠ .change slot target flags) :
    (Motion.call t call).IsFaithful s := by
  intro u slot target flags callback hcall
  cases hcall
  exact absurd rfl (hc slot target flags)

section lists
variable {callback : Callback} {tasks : List Task}

theorem mem_callbacksOf :
    callback ∈ callbacksOf tasks ↔ ∃ task ∈ tasks, callback ∈ task.callbacks := by
  induction tasks with
  | nil => simp [callbacksOf]
  | cons task rest ih => simp [callbacksOf, ih]

def Callback.counts (serial : Nat) (callback : Callback) : Nat :=
  if callback.serial == serial then 1 else 0

mutual

theorem totalOf_callbacks (serial : Nat) :
    ∀ task : Task, totalOf (Callback.counts serial) task.callbacks = task.holds .due serial
  | .delegate tasks => totalOf_callbacksOf serial tasks
  | .enter errand | .decide errand => by
    cases errand <;> rfl
  | .invoke .. | .abort _ | .offer .. | .dispatch .. => rfl
  | .body .. | .act _ | .report _ | .leave | .log _ | .answer .. | .reply _ | .receive
  | .awaitHelper _ | .await _ | .openLatch | .awaitLoop | .discardLoop | .clonePoster
  | .dropPoster => rfl

theorem totalOf_callbacksOf (serial : Nat) :
    ∀ tasks : List Task, totalOf (Callback.counts serial) (callbacksOf tasks) =
      tasksHold .due serial tasks
  | [] => by simp [callbacksOf, tasksHold]
  | task :: rest => by
    rw [callbacksOf, totalOf_append, tasksHold, totalOf_callbacks serial task,
      totalOf_callbacksOf serial rest]

end

end lists

namespace Bridge

def callbacks (s : Bridge) : List Callback :=
  callbacksOf s.main.tasks ++ callbacksOf s.loopThread.tasks ++
    s.helpers.flatMap (callbacksOf ·.tasks) ++ s.slots.map (·.2) ++
      s.queue.flatMap Item.callbacks ++ s.trace.flatMap (·.2.callbacks)

structure Born (s s' : Bridge) (callback : Callback) : Prop where
  serial : callback.serial = s.made
  made : s'.made = s.made + 1
  sender : ∀ channel, callback.sender? = some channel →
    channel = s.channels.length ∧ s'.channels.length = s.channels.length + 1

variable {name : String} {s s' : Bridge} {t : ThreadId} {callback other : Callback}

theorem mem_callbacks : callback ∈ s.callbacks ↔
    (∃ u, ∃ task ∈ s.tasks u, callback ∈ task.callbacks) ∨
    (∃ entry ∈ s.slots, entry.2 = callback) ∨
    (∃ item ∈ s.queue, callback ∈ item.callbacks) ∨
    ∃ u result, (u, .invoked callback result) ∈ s.trace := by
  have htrace : (∃ entry ∈ s.trace, callback ∈ entry.2.callbacks) ↔
      ∃ u result, (u, .invoked callback result) ∈ s.trace := by
    constructor
    · intro ⟨⟨u, e⟩, he, hc⟩
      cases e with
      | invoked other result =>
        rw [List.mem_singleton.mp hc]
        exact ⟨u, result, he⟩
      | _ => cases hc
    · intro ⟨u, result, he⟩
      exact ⟨_, he, List.mem_singleton.mpr rfl⟩
  have hthreads : (∃ u, ∃ task ∈ s.tasks u, callback ∈ task.callbacks) ↔
      callback ∈ callbacksOf s.main.tasks ∨ callback ∈ callbacksOf s.loopThread.tasks ∨
        ∃ helper ∈ s.helpers, callback ∈ callbacksOf helper.tasks := by
    simp only [mem_callbacksOf]
    constructor
    · intro ⟨u, task, htask, hc⟩
      cases u with
      | main => exact .inl ⟨task, htask, hc⟩
      | loop => exact .inr (.inl ⟨task, htask, hc⟩)
      | helper index =>
        by_cases hi : index < s.helpers.length
        · refine .inr (.inr ⟨s.helpers[index], List.getElem_mem hi, task, ?_, hc⟩)
          simpa [tasks, thread, List.getD_eq_getElem?_getD, hi] using htask
        · simp [tasks, thread, List.getD_eq_getElem?_getD, hi, Thread.idle] at htask
    · intro h
      rcases h with ⟨task, htask, hc⟩ | ⟨task, htask, hc⟩ | ⟨helper, hhelper, task, htask, hc⟩
      · exact ⟨.main, task, htask, hc⟩
      · exact ⟨.loop, task, htask, hc⟩
      · obtain ⟨index, hi, rfl⟩ := List.mem_iff_getElem.mp hhelper
        refine ⟨.helper index, task, ?_, hc⟩
        simpa [tasks, thread, List.getD_eq_getElem?_getD, hi] using htask
  rw [hthreads, ← htrace]
  simp only [callbacks, List.mem_append, List.mem_flatMap, List.mem_map, or_assoc]

theorem mem_callbacks_of_task {u : ThreadId} {task : Task} (h : task ∈ s.tasks u)
    (hc : callback ∈ task.callbacks) : callback ∈ s.callbacks :=
  mem_callbacks.mpr (.inl ⟨u, task, h, hc⟩)

theorem mem_callbacks_of_slot {entry : Nat × Callback} (h : entry ∈ s.slots) :
    entry.2 ∈ s.callbacks :=
  mem_callbacks.mpr (.inr (.inl ⟨entry, h, rfl⟩))

theorem mem_callbacks_of_item {item : Item} (h : item ∈ s.queue)
    (hc : callback ∈ item.callbacks) : callback ∈ s.callbacks :=
  mem_callbacks.mpr (.inr (.inr (.inl ⟨item, h, hc⟩)))

theorem mem_callbacks_of_invoked {u : ThreadId} {result : Int32}
    (h : (u, .invoked callback result) ∈ s.trace) : callback ∈ s.callbacks :=
  mem_callbacks.mpr (.inr (.inr (.inr ⟨u, result, h⟩)))

theorem totalOf_callbacks_le (serial : Nat) :
    totalOf (Callback.counts serial) s.callbacks + (if s.made ≤ serial then 1 else 0) ≤
      s.tally (.custody .due serial) := by
  have hevents : totalOf (fun entry : ThreadId × Event =>
      totalOf (Callback.counts serial) entry.2.callbacks) s.trace ≤
        totalOf (fun entry => entry.2.leaves .due serial) s.trace := by
    apply totalOf_mono
    intro ⟨u, e⟩
    cases e <;> simp [Event.callbacks, Event.leaves, Callback.counts]
  have hitems : totalOf (fun item => totalOf (Callback.counts serial) item.callbacks) s.queue ≤
      totalOf (Item.holds .due serial) s.queue := by
    apply totalOf_mono
    intro item
    cases item <;> simp [Item.callbacks, Item.holds, Callback.counts, Callback.heldAt, Stage.upTo]
  have hslots : totalOf (fun entry : Nat × Callback => entry.2.counts serial) s.slots ≤
      totalOf (fun entry : Nat × Callback => entry.2.heldAt .due serial .offered) s.slots :=
    totalOf_mono (fun entry => Nat.le_refl _) _
  simp only [callbacks, totalOf_append, totalOf_flatMap, totalOf_map, totalOf_callbacksOf]
  simp only [tally, Weight.tasks_custody, Weight.events, totalOf_map]
  simp only [Weight.custody]
  omega

theorem Reachable.callbacks_unique (hr : Reachable name s) (hc : callback ∈ s.callbacks)
    (ho : other ∈ s.callbacks) (hserial : callback.serial = other.serial) : callback = other := by
  have hle := s.totalOf_callbacks_le other.serial
  have hone := hr.custody .due other.serial
  exact eq_of_totalOf_le_one (Callback.counts other.serial) (by omega) hc ho
    (by simp [Callback.counts, hserial]) (by simp [Callback.counts])

theorem Reachable.serial_lt_made (hr : Reachable name s) (hc : callback ∈ s.callbacks) :
    callback.serial < s.made := by
  have hle := s.totalOf_callbacks_le callback.serial
  have hone := hr.custody .due callback.serial
  have hcount := le_totalOf (Callback.counts callback.serial) hc
  have hself : callback.counts callback.serial = 1 := by simp [Callback.counts]
  split at hle
  · omega
  · omega

theorem born_make {optional : Bool} {recipe : Recipe}
    (hmade : s'.made = (s.make optional recipe).2.made)
    (hchannels : s'.channels = (s.make optional recipe).2.channels) :
    Born s s' (s.make optional recipe).1 where
  serial := (s.serial_make optional recipe).1
  made := hmade.trans (s.serial_make optional recipe).2
  sender := by
    intro channel hsender
    cases recipe with
    | channel name receiver =>
      have hchannel : channel = (s.abandon receiver).channels.length := by
        cases optional <;> simp [make, assemble, Callback.optional, Callback.sender?] at hsender <;>
          exact hsender.symm
      rw [hchannels, hchannel]
      simp [make, assemble, length_channels_abandon]
    | _ => cases optional <;> cases hsender

theorem callbacks_opens (callback : Callback) (result : Int32) :
    callbacksOf (callback.opens result) = [] := by
  simp only [Callback.opens]
  split
  · next closure _ =>
    obtain ⟨name, duty⟩ := closure
    cases duty with
    | send channel => rfl
    | perform trigger body =>
      simp only [Closure.opens]
      split <;> rfl
  · rfl

theorem callbacks_bodyTasks (serial : Nat) (name : String) (actions : List Action) :
    callbacksOf (bodyTasks serial name actions) = [] := by
  cases actions with
  | nil => rfl
  | cons action rest =>
    cases hp : action.isPanic with
    | true =>
      cases action with
      | panic => rfl
      | _ => cases hp
    | false =>
      rw [bodyTasks_cons hp, Action.tasks]
      split <;> rfl

theorem Deed.mem_callbacks {task : Task} {rest pushed : List Task} {events : List Event}
    (h : Deed s s' t rest task pushed events) (hc : callback ∈ callbacksOf pushed) :
    callback ∈ task.callbacks ∨ (∃ entry ∈ s.slots, entry.2 = callback) ∨
      (∃ item ∈ s.queue, callback ∈ item.callbacks) ∨
      ∃ order optional recipe, task = .act (.post order optional recipe) ∧
        s.isReachable order.via = true ∧ callback = (s.make optional recipe).1 := by
  cases h with
  | invoke other result =>
    rw [callbacks_opens] at hc
    cases hc
  | body serial name actions =>
    rw [callbacks_bodyTasks] at hc
    cases hc
  | act action =>
    cases action with
    | run slot result =>
      simp only [actTasks] at hc
      split at hc
      · next other hslot =>
        simp only [callbacksOf, Task.callbacks, List.append_nil, List.mem_singleton] at hc
        exact .inr (.inl ⟨_, Table.mem_of_get? hslot, hc.symm⟩)
      · cases hc
    | post order optional recipe =>
      simp only [actTasks] at hc
      split at hc
      · next hreach =>
        refine .inr (.inr (.inr ⟨order, optional, recipe, rfl, hreach, ?_⟩))
        cases hvia : order.via <;>
          simpa [hvia, Via.tasks, callbacksOf, Task.callbacks] using hc
      · cases hc
    | quit via =>
      simp only [actTasks] at hc
      split at hc
      · cases via <;> cases hc
      · cases hc
    | joinLoop | dropLoop =>
      simp only [actTasks] at hc
      split at hc <;> cases hc
    | _ => cases hc
  | report | silent => cases hc
  | waive => cases hc
  | ask => exact .inl hc
  | other hq hr he =>
    cases he with
    | ordinary hquiet => cases hquiet.symm.trans hq
    | shutDown => cases hq
    | invoke => cases hr
    | waive | ask => cases hr
    | abort | dispatch => exact .inl hc
    | @enter errand =>
      cases errand with
      | post => exact .inl hc
      | quit => cases hc
    | refuse => exact .inl hc
    | @take other delay result queue hqueue =>
      have hm : Item.run other delay result ∈ s.queue := by simp [hqueue]
      exact .inr (.inr (.inl ⟨_, hm, hc⟩))
    | _ => cases hc

theorem Effect.mem_queue {popped pushed rest : List Task} {events : List Event} {item : Item}
    (h : Effect s t rest s' popped pushed events) (hm : item ∈ s'.queue) :
    item ∈ s.queue ∨ item = .quit ∨ ∃ request callback delay result,
      popped = [.decide (.post request callback delay result)] ∧
        item = .run callback delay result := by
  have hsame (hqueue : s'.queue = s.queue) : item ∈ s.queue := hqueue ▸ hm
  cases h with
  | @accept request callback delay result _ _ hcore =>
    rw [show s'.queue = _ from congrArg Core.queue hcore] at hm
    rcases List.mem_append.mp hm with hm | hm
    · exact .inl hm
    · exact .inr (.inr ⟨_, _, _, _, rfl, List.mem_singleton.mp hm⟩)
  | quit _ _ hcore =>
    rw [show s'.queue = _ from congrArg Core.queue hcore] at hm
    rcases List.mem_append.mp hm with hm | hm
    · exact .inl hm
    · exact .inr (.inl (List.mem_singleton.mp hm))
  | take hqueue hcore =>
    rw [show s'.queue = _ from congrArg Core.queue hcore] at hm
    exact .inl (by rw [hqueue]; exact List.mem_cons_of_mem _ hm)
  | stop hqueue hcore =>
    rw [show s'.queue = _ from congrArg Core.queue hcore] at hm
    exact .inl (by rw [hqueue]; exact List.mem_cons_of_mem _ hm)
  | _ =>
    have hcore := ‹s'.core = _›
    exact .inl (hsame (congrArg Core.queue hcore))

theorem new_callback_step? (h : s.step? t = some s') (hc : callback ∈ s'.callbacks) :
    callback ∈ s.callbacks ∨
      (∃ order optional recipe rest, s.tasks t = .act (.post order optional recipe) :: rest ∧
        s.isReachable order.via = true ∧ callback = (s.make optional recipe).1) ∨
      callback = .sentinel s.made ∧ s'.made = s.made + 1 := by
  obtain ⟨task, rest, hb⟩ := exists_task h
  obtain ⟨pushed, events, hturn, hdeed⟩ := deed_step? hb h
  have hstore := store_step? hb h
  have htask : task ∈ s.tasks t := by simp [hb]
  rcases mem_callbacks.mp hc with ⟨u, x, hx, hcx⟩ | ⟨entry, hentry, rfl⟩ | ⟨item, hitem, hci⟩ |
    ⟨u, result, he⟩
  · by_cases hu : u = t
    · subst hu
      rw [hturn.after] at hx
      rcases List.mem_append.mp hx with hx | hx
      · rcases hdeed.mem_callbacks (mem_callbacksOf.mpr ⟨x, hx, hcx⟩) with
          hold | hold | hold | ⟨order, optional, recipe, rfl, hreach, rfl⟩
        · exact .inl (mem_callbacks_of_task htask hold)
        · exact .inl (mem_callbacks.mpr (.inr (.inl hold)))
        · exact .inl (mem_callbacks.mpr (.inr (.inr (.inl hold))))
        · exact .inr (.inl ⟨order, optional, recipe, rest, hb, hreach, rfl⟩)
      · exact .inl (mem_callbacks_of_task (hturn.mem_rest hx) hcx)
    · left
      rcases hturn.others u hu with hsame | ⟨-, -, hpopped⟩
      · exact mem_callbacks_of_task (hsame ▸ hx) hcx
      · cases hpopped
        exact mem_callbacks_of_task htask (mem_callbacksOf.mpr ⟨x, hx, hcx⟩)
  · rw [show s'.slots = (s.storeAfter task).slots from congrArg Store.slots hstore] at hentry
    rcases mem_slots_storeAfter hentry with hold | ⟨hsentinel, hmade⟩
    · exact .inl (mem_callbacks_of_slot hold)
    · exact .inr (.inr ⟨hsentinel, (congrArg Store.made hstore).trans hmade⟩)
  · left
    rcases hturn.effect.mem_queue hitem with hold | rfl | ⟨_, _, _, _, hpopped, rfl⟩
    · exact mem_callbacks_of_item hold hci
    · cases hci
    · cases hpopped
      exact mem_callbacks_of_task htask hci
  · left
    rcases hturn.mem_trace_iff.mp he with hold | ⟨rfl, hnew⟩
    · exact mem_callbacks_of_invoked hold
    · have hpopped : [task] = [.invoke callback result] := hturn.effect.noted hnew
      cases hpopped
      exact mem_callbacks_of_task htask (List.mem_singleton.mpr rfl)

theorem callbacks_step? (h : s.step? t = some s') (hc : callback ∈ s'.callbacks) :
    callback ∈ s.callbacks ∨ Born s s' callback := by
  rcases new_callback_step? h hc with hold | ⟨order, optional, recipe, rest, hb, hreach, rfl⟩ |
    ⟨rfl, hmade⟩
  · exact .inl hold
  · have hstore := store_step? hb h
    simp only [storeAfter, hreach, if_true] at hstore
    exact .inr (born_make (congrArg Store.made hstore) (congrArg Store.channels hstore))
  · refine .inr ⟨rfl, hmade, fun channel hsender => ?_⟩
    cases hsender

theorem mem_callTasks {call : Call} (hc : callback ∈ callbacksOf (s.callTasks call)) :
    ∃ entry ∈ s.slots, entry.2 = callback := by
  have hslot {slot : Nat} {make : Callback → Task} (hmake : ∀ c, (make c).callbacks = [c])
      (hm : callback ∈ callbacksOf ((s.slots.get? slot).elim [] fun c => [make c])) :
      ∃ entry ∈ s.slots, entry.2 = callback := by
    cases hslot : s.slots.get? slot with
    | none =>
      rw [hslot] at hm
      cases hm
    | some found =>
      rw [hslot, Option.elim_some, callbacksOf, hmake, callbacksOf, List.append_nil] at hm
      exact ⟨_, Table.mem_of_get? hslot, (List.mem_singleton.mp hm).symm⟩
  cases call with
  | offer | invoke | abort => exact hslot (fun _ => rfl) hc
  | await receiver =>
    simp only [callTasks] at hc
    cases hr : s.receivers.get? receiver <;> rw [hr] at hc <;> cases hc
  | _ => cases hc

theorem mem_slots_storeWithout {slot : Nat} {entry : Nat × Callback}
    (h : entry ∈ (s.storeWithout slot).slots) : entry ∈ s.slots := by
  unfold storeWithout at h
  split at h
  · exact (Table.mem_erase.mp h).1
  · exact h

theorem mem_slots_storeCalled {call : Call} {entry : Nat × Callback}
    (h : entry ∈ (s.storeCalled call).slots) :
    entry ∈ s.slots ∨
    (∃ slot optional recipe, call = .put slot optional recipe ∧
      entry = (slot, (s.make optional recipe).1)) ∨
    ∃ slot target flags found, call = .change slot target flags ∧
      s.slots.get? slot = some found ∧ entry = (slot, ⟨found.serial, target, flags⟩) := by
  cases call with
  | put slot optional recipe =>
    rcases Table.mem_put.mp h with rfl | ⟨h, -⟩
    · exact .inr (.inl ⟨slot, optional, recipe, rfl, rfl⟩)
    · exact .inl h
  | change slot target flags =>
    simp only [storeCalled] at h
    split at h
    · next found hslot =>
      rcases Table.mem_put.mp h with rfl | ⟨h, -⟩
      · exact .inr (.inr ⟨slot, target, flags, found, rfl, hslot, rfl⟩)
      · exact .inl h
    · exact .inl h
  | offer | invoke | abort | forget => exact .inl (mem_slots_storeWithout h)
  | poll receiver =>
    left
    simp only [storeCalled, poll] at h
    split at h
    · exact h
    · split at h <;> exact h
  | await receiver =>
    simp only [storeCalled] at h
    split at h <;> exact .inl h
  | dropReceiver receiver => exact .inl (by rwa [storeCalled, store, slots_abandon] at h)
  | _ => exact .inl h

theorem callbacks_call (hfree : s.IsFree t) {call : Call}
    (hfaithful : (Motion.call t call).IsFaithful s) (hc : callback ∈ (s.call t call).callbacks) :
    (∃ other ∈ s.callbacks, callback.Descends other) ∨ Born s (s.call t call) callback := by
  obtain ⟨pushed, hframe, -⟩ := frame_call hfree.mem_threads call
  have hstore : (s.call t call).store = s.storeCalled call := store_call call
  have hsame (h : callback ∈ s.callbacks) : ∃ other ∈ s.callbacks, callback.Descends other :=
    ⟨callback, h, .refl callback⟩
  rcases mem_callbacks.mp hc with ⟨u, x, hx, hcx⟩ | ⟨entry, hentry, rfl⟩ | ⟨item, hitem, hci⟩ |
    ⟨u, result, he⟩
  · left
    apply hsame
    by_cases hu : u = t
    · subst hu
      rw [tasks_call hfree.mem_threads] at hx
      rcases List.mem_append.mp hx with hx | hx
      · exact mem_callbacks.mpr (.inr (.inl (mem_callTasks (mem_callbacksOf.mpr ⟨x, hx, hcx⟩))))
      · exact mem_callbacks_of_task hx hcx
    · rw [hframe.others u hu] at hx
      exact mem_callbacks_of_task hx hcx
  · rw [show (s.call t call).slots = (s.storeCalled call).slots from
      congrArg Store.slots hstore] at hentry
    rcases mem_slots_storeCalled hentry with hold | ⟨slot, optional, recipe, rfl, rfl⟩ |
      ⟨slot, target, flags, found, rfl, hslot, rfl⟩
    · exact .inl (hsame (mem_callbacks_of_slot hold))
    · exact .inr (born_make (congrArg Store.made hstore) (congrArg Store.channels hstore))
    · refine .inl ⟨found, mem_callbacks_of_slot (Table.mem_of_get? hslot), rfl,
        hfaithful t slot target flags found rfl hslot⟩
  · rw [show (s.call t call).queue = s.queue from congrArg Core.queue hframe.core] at hitem
    exact .inl (hsame (mem_callbacks_of_item hitem hci))
  · rw [trace_call hfree] at he
    exact .inl (hsame (mem_callbacks_of_invoked he))

/-- Whatever callback there is after a move, it descends from one before or it is new. -/
theorem callbacks_moved {m : Motion} (h : Moved s m s') (hm : m.IsFaithful s)
    (hc : callback ∈ s'.callbacks) :
    (∃ other ∈ s.callbacks, callback.Descends other) ∨ Born s s' callback := by
  cases h with
  | step h => exact (callbacks_step? h hc).imp_left fun hold => ⟨callback, hold, .refl callback⟩
  | call call hfree => exact callbacks_call hfree hm hc
  | enlist =>
    left
    refine ⟨callback, ?_, .refl callback⟩
    simpa [callbacks, Bridge.enlist, Thread.idle, callbacksOf] using hc

end Bridge

end HostBridge
