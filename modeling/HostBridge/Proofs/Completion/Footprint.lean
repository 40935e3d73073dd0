import HostBridge.Proofs.MessageLoop.Answers
import Mathlib.Logic.Function.Basic

/-!
# Footprints

What a task changes beside the loop: the callbacks, receivers and channels that are kept for
everybody, which few tasks do anything to, and the error slots, of which a task never changes
another than that of its own thread.
-/
namespace HostBridge

namespace Table

variable {α : Type}

theorem mem_erase {table : Table α} {key : Nat} {entry : Nat × α} :
    entry ∈ table.erase key ↔ entry ∈ table ∧ entry.1 ≠ key := by
  simp [erase, List.mem_filter]

theorem mem_put {table : Table α} {key : Nat} {a : α} {entry : Nat × α} :
    entry ∈ table.put key a ↔ entry = (key, a) ∨ entry ∈ table ∧ entry.1 ≠ key := by
  rw [put, List.mem_cons, mem_erase]

theorem get?_put (table : Table α) (key : Nat) (a : α) : (table.put key a).get? key = some a := by
  simp [get?, put]

theorem mem_of_get? {table : Table α} {key : Nat} {a : α} (h : table.get? key = some a) :
    (key, a) ∈ table := by
  induction table with
  | nil => cases h
  | cons entry table ih =>
    obtain ⟨number, b⟩ := entry
    simp only [get?, List.lookup_cons] at h
    split at h
    · next heq =>
      cases h
      rw [eq_of_beq heq]
      exact List.mem_cons_self
    · exact List.mem_cons_of_mem _ (ih h)

end Table

def Callback.sender? (callback : Callback) : Option Nat :=
  match callback.target with
  | .closure (some ⟨_, .send channel⟩) => some channel
  | _ => none

def Task.touch : Task → ErrorSlot → ErrorSlot
  | .body _ name (.panic payload :: _), slot => slot.set (panicMessage name payload.text)
  | .act (.setError message), slot => slot.set message
  | .act .takeError, slot => slot.take.2
  | _, slot => slot

structure Store where
  slots : Table Callback
  receivers : Table Nat
  channels : List Channel
  made : Nat

namespace Bridge

def store (s : Bridge) : Store := ⟨s.slots, s.receivers, s.channels, s.made⟩

def errorSlots (s : Bridge) (u : ThreadId) : ErrorSlot := (s.thread u).slot

section parts
variable (s : Bridge) (t : ThreadId)

theorem store_updateThread (f : Thread → Thread) : (s.updateThread t f).store = s.store := by
  cases t <;> rfl

@[simp]
theorem store_push (tasks : List Task) : (s.push t tasks).store = s.store :=
  store_updateThread ..

@[simp]
theorem store_reply (reply : Reply) : (s.reply t reply).store = s.store := store_updateThread ..

@[simp]
theorem store_setSlot (slot : ErrorSlot) : (s.setSlot t slot).store = s.store :=
  store_updateThread ..

@[simp]
theorem store_setTasks (tasks : List Task) : (s.setTasks t tasks).store = s.store :=
  store_updateThread ..

@[simp]
theorem slots_setTasks (tasks : List Task) : (s.setTasks t tasks).slots = s.slots :=
  congrArg Store.slots (s.store_setTasks t tasks)

@[simp]
theorem receivers_setTasks (tasks : List Task) : (s.setTasks t tasks).receivers = s.receivers :=
  congrArg Store.receivers (s.store_setTasks t tasks)

@[simp]
theorem channels_setTasks (tasks : List Task) : (s.setTasks t tasks).channels = s.channels :=
  congrArg Store.channels (s.store_setTasks t tasks)

@[simp]
theorem made_setTasks (tasks : List Task) : (s.setTasks t tasks).made = s.made :=
  congrArg Store.made (s.store_setTasks t tasks)

@[simp]
theorem store_note (events : List Event) : (s.note t events).store = s.store := rfl

@[simp]
theorem store_log (records : List Log.Record) : (s.log t records).store = s.store := rfl

@[simp]
theorem errorSlots_push (tasks : List Task) : (s.push t tasks).errorSlots = s.errorSlots :=
  funext fun u => slot_push u

@[simp]
theorem errorSlots_reply (reply : Reply) : (s.reply t reply).errorSlots = s.errorSlots :=
  funext fun u => slot_reply reply u

@[simp]
theorem errorSlots_setTasks (tasks : List Task) :
    (s.setTasks t tasks).errorSlots = s.errorSlots :=
  funext fun u => slot_setTasks u

@[simp]
theorem errorSlots_note (events : List Event) : (s.note t events).errorSlots = s.errorSlots := rfl

@[simp]
theorem errorSlots_log (records : List Log.Record) :
    (s.log t records).errorSlots = s.errorSlots := rfl

theorem slots_abandon (receiver : Nat) : (s.abandon receiver).slots = s.slots := by
  unfold abandon
  split <;> rfl

theorem length_channels_abandon (receiver : Nat) :
    (s.abandon receiver).channels.length = s.channels.length := by
  unfold abandon
  split
  · exact List.length_modify ..
  · rfl

theorem errorSlots_abandon (receiver : Nat) :
    (s.abandon receiver).errorSlots = s.errorSlots := by
  unfold abandon
  split <;> rfl

@[simp]
theorem errorSlots_make (optional : Bool) (recipe : Recipe) :
    (s.make optional recipe).2.errorSlots = s.errorSlots := by
  cases recipe with
  | channel name receiver => exact s.errorSlots_abandon receiver
  | _ => rfl

@[simp]
theorem errorSlots_tryTake (receiver : Nat) :
    (s.tryTake receiver).2.errorSlots = s.errorSlots := by
  unfold tryTake
  split <;> rfl

theorem errorSlots_setSlot (slot : ErrorSlot) (h : t ∈ s.threads) :
    (s.setSlot t slot).errorSlots = Function.update s.errorSlots t slot := by
  funext u
  by_cases hu : u = t
  · rw [hu, Function.update_self]
    exact congrArg Thread.slot
      (s.thread_updateThread_self t (fun thread => { thread with slot }) h)
  · rw [Function.update_of_ne hu]
    exact congrArg Thread.slot
      (s.thread_updateThread_ne t (fun thread => { thread with slot }) hu)

@[simp]
theorem errorSlots_enlist (tasks : List Task) :
    ({ s with helpers := s.helpers ++ [{ Thread.idle with tasks }] } : Bridge).errorSlots =
      s.errorSlots := by
  funext u
  cases u with
  | helper index =>
    simp only [errorSlots, thread, List.getD_eq_getElem?_getD]
    rcases Nat.lt_trichotomy index s.helpers.length with hi | hi | hi
    · rw [List.getElem?_append_left hi]
    · subst hi
      simp [Thread.idle]
    · rw [List.getElem?_eq_none (by simp; omega), List.getElem?_eq_none (Nat.le_of_lt hi)]
  | _ => rfl

@[simp]
theorem store_route (via : Via) (tasks : List Task) : (s.route t via tasks).store = s.store := by
  cases via <;> exact store_push ..

@[simp]
theorem store_shutDown (tasks : List Task) : (s.shutDown t tasks).store = s.store := by
  unfold shutDown
  split
  · exact store_push ..
  · exact store_reply ..

@[simp]
theorem errorSlots_route (via : Via) (tasks : List Task) :
    (s.route t via tasks).errorSlots = s.errorSlots := by
  cases via <;> exact errorSlots_push ..

@[simp]
theorem errorSlots_shutDown (tasks : List Task) :
    (s.shutDown t tasks).errorSlots = s.errorSlots := by
  unfold shutDown
  split
  · exact errorSlots_push ..
  · exact errorSlots_reply ..

end parts

def deliver (s : Bridge) (callback : Callback) (result : Int32) : Bridge :=
  match callback.sender? with
  | some channel => s.sendTo channel (Code.receive result).1
  | none => s

def unload (s : Bridge) (slot : Nat) : Bridge :=
  match s.slots.get? slot with
  | some _ => { s with slots := s.slots.put slot (.sentinel s.made), made := s.made + 1 }
  | none => s

def collect (s : Bridge) (channel : Nat) : Bridge :=
  { s with
    channels := s.channels.set channel (s.channels.getD channel .abandoned).tryTake.2 }

def storeAfter (s : Bridge) : Task → Store
  | .invoke callback result => (s.deliver callback result).store
  | .act (.run slot _) => (s.unload slot).store
  | .act (.tryTake receiver) => (s.tryTake receiver).2.store
  | .act (.post order optional recipe) =>
    if s.isReachable order.via then (s.make optional recipe).2.store else s.store
  | .await channel => (s.collect channel).store
  | _ => s.store

section store
variable {s s' : Bridge} {t : ThreadId}

theorem storeAfter_updateThread (f : Thread → Thread) (task : Task) :
    (s.updateThread t f).storeAfter task = s.storeAfter task := by
  have hreach (via : Via) : (s.updateThread t f).isReachable via = s.isReachable via := by
    cases t <;> cases via <;> rfl
  cases task with
  | invoke callback result =>
    simp only [storeAfter, deliver]
    cases callback.sender? <;> cases t <;> rfl
  | await channel => cases t <;> rfl
  | act action =>
    cases action with
    | run slot result =>
      have hslots : (s.updateThread t f).slots = s.slots := by cases t <;> rfl
      simp only [storeAfter, unload, hslots]
      cases s.slots.get? slot <;> cases t <;> rfl
    | tryTake receiver =>
      have hreceivers : (s.updateThread t f).receivers = s.receivers := by cases t <;> rfl
      simp only [storeAfter, Bridge.tryTake, hreceivers]
      cases s.receivers.get? receiver <;> cases t <;> rfl
    | post order optional recipe =>
      simp only [storeAfter, hreach]
      split
      · cases recipe with
        | channel name receiver =>
          have hreceivers : (s.updateThread t f).receivers = s.receivers := by cases t <;> rfl
          simp only [make, abandon, hreceivers]
          cases s.receivers.get? receiver <;> cases t <;> rfl
        | _ => cases t <;> rfl
      · exact store_updateThread ..
    | _ => exact store_updateThread ..
  | _ => exact store_updateThread ..

theorem store_enterClosure (callback : Callback) (closure : Closure) (result : Int32)
    (h : callback.target = .closure (some closure)) :
    (s.enterClosure t callback.serial closure result).store =
      (s.deliver callback result).store := by
  obtain ⟨name, duty⟩ := closure
  simp only [enterClosure, deliver, Callback.sender?, h]
  cases duty with
  | send channel => rfl
  | perform trigger body =>
    cases trigger with
    | always => simp
    | onSuccess =>
      dsimp only
      split <;> simp

theorem store_invoke? {callback : Callback} {result : Int32}
    (h : s.invoke? t callback result = some s') : s'.store = (s.deliver callback result).store := by
  have hsilent (hnone : callback.sender? = none) : (s.deliver callback result).store = s.store := by
    simp only [deliver, hnone]
  unfold invoke? at h
  dsimp only at h
  split at h
  · next htarget =>
    cases h
    exact (hsilent (by simp [Callback.sender?, htarget])).symm
  · next htarget =>
    cases h
    exact (hsilent (by simp [Callback.sender?, htarget])).symm
  · next htarget =>
    split at h
    · cases h
    · cases h
      exact (hsilent (by simp [Callback.sender?, htarget])).symm
  · next htarget =>
    cases h
    exact (hsilent (by simp [Callback.sender?, htarget])).symm
  · next closure htarget =>
    cases h
    rw [store_enterClosure callback closure result htarget]
    simp only [deliver]
    cases callback.sender? <;> rfl

theorem store_await? {channel : Nat} (h : s.await? t channel = some s') :
    s'.store = (s.collect channel).store := by
  unfold await? at h
  split at h
  · cases h
  · next receipt resolved _ hpoll =>
    cases h
    simp only [Channel.poll] at hpoll
    split at hpoll
    · cases hpoll
    · cases hpoll
      exact store_reply ..
  · next hpoll =>
    cases h
    have htaken : s.channels.getD channel .abandoned = .taken := by
      simp only [Channel.poll] at hpoll
      split at hpoll
      · assumption
      · cases hpoll
    have hsame : s.channels.set channel .taken = s.channels := by
      rw [← htaken, List.getD_eq_getElem?_getD]
      by_cases hc : channel < s.channels.length
      · simp [hc]
      · rw [List.set_eq_of_length_le (by omega)]
    rw [store_reply]
    simp only [collect, store, htaken, Channel.tryTake, hsame]

theorem store_act (action : Action) : (s.act t action).store = s.storeAfter (.act action) := by
  cases action with
  | setError | takeError => simp [act, storeAfter]
  | run slot result =>
    simp only [act, storeAfter, unload]
    cases s.slots.get? slot with
    | none => exact store_reply ..
    | some callback => exact store_push ..
  | tryTake receiver => exact store_reply ..
  | post order optional recipe =>
    simp only [act, storeAfter]
    split
    · exact store_route ..
    · exact store_reply ..
  | quit via =>
    simp only [act]
    split
    · exact store_route ..
    · exact store_reply ..
  | joinLoop | dropLoop => exact store_shutDown ..
  | panic => rfl
  | _ => exact store_reply ..

theorem store_continueBody (closure : Nat) (name : String) (actions : List Action) :
    (s.continueBody t closure name actions).store = s.store := by
  match actions with
  | [] => rfl
  | action :: rest => cases action <;> simp [continueBody]

theorem store_offer (order : Order) (callback : Callback) :
    (s.offer t order callback).store = s.store := by
  rcases offer_cases s t order callback with ⟨code, records, -, h⟩ | ⟨-, delay, h⟩
  all_goals rw [h]; simp

theorem store_decide (errand : Errand) : (s.decide t errand).store = s.store := by
  cases errand with
  | post request callback delay result =>
    simp only [Bridge.decide, refuse]
    split
    · simp
    · split
      · simp
      · rw [store_push]
        rfl
  | quit =>
    simp only [Bridge.decide]
    split
    · simp
    · rw [store_push]
      split <;> rfl

theorem store_receive? (h : s.receive? t = some s') : s'.store = s.store := by
  unfold receive? at h
  split at h
  · split at h <;> cases h
    rfl
  · cases h
    rfl
  · cases h
    exact store_push ..

theorem store_perform? {task : Task} (h : s.perform? t task = some s') :
    s'.store = s.storeAfter task := by
  cases task with
  | invoke callback result => exact store_invoke? h
  | abort callback =>
    simp only [perform?] at h
    split at h
    · cases h
      rfl
    · cases h
      simp [storeAfter]
  | body closure name actions => cases h; exact store_continueBody ..
  | act action => cases h; exact store_act action
  | offer order callback => cases h; exact store_offer ..
  | enter errand =>
    simp only [perform?] at h
    split at h
    · cases h
    · cases h
      rw [store_push]
      rfl
  | decide errand => cases h; exact store_decide errand
  | answer => cases h; simp [storeAfter]
  | reply => cases h; simp [storeAfter]
  | receive => exact store_receive? h
  | dispatch => cases h; simp [storeAfter]
  | delegate tasks =>
    cases h
    exact store_push ..
  | awaitHelper index =>
    simp only [perform?] at h
    split at h
    · cases h
      exact store_reply ..
    · cases h
  | await channel => exact store_await? h
  | awaitLoop =>
    simp only [perform?] at h
    split at h <;> cases h
    rfl
  | _ => cases h; rfl

theorem store_step? {task : Task} {rest : List Task} (hb : s.tasks t = task :: rest)
    (h : s.step? t = some s') : s'.store = s.storeAfter task :=
  (store_perform? (step?_eq hb ▸ h)).trans (storeAfter_updateThread _ task)

theorem slots_make (optional : Bool) (recipe : Recipe) :
    (s.make optional recipe).2.slots = s.slots := by
  cases recipe with
  | channel name receiver => exact s.slots_abandon receiver
  | _ => rfl

theorem mem_slots_storeAfter {task : Task} {entry : Nat × Callback}
    (h : entry ∈ (s.storeAfter task).slots) :
    entry ∈ s.slots ∨
      entry.2 = .sentinel s.made ∧ (s.storeAfter task).made = s.made + 1 := by
  cases task with
  | invoke callback result =>
    simp only [storeAfter, deliver] at h
    split at h <;> exact .inl h
  | act action =>
    cases action with
    | run slot result =>
      simp only [storeAfter, unload] at h ⊢
      split at h
      · rcases Table.mem_put.mp h with rfl | ⟨h, -⟩
        · exact .inr ⟨rfl, rfl⟩
        · exact .inl h
      · exact .inl h
    | tryTake receiver =>
      simp only [storeAfter, Bridge.tryTake] at h
      split at h <;> exact .inl h
    | post order optional recipe =>
      simp only [storeAfter] at h
      split at h
      · left
        rwa [store, slots_make] at h
      · exact .inl h
    | _ => exact .inl h
  | _ => exact .inl h

end store

section slots
variable {s s' : Bridge} {t : ThreadId}

theorem errorSlots_enterClosure (serial : Nat) (closure : Closure) (result : Int32) :
    (s.enterClosure t serial closure result).errorSlots = s.errorSlots := by
  obtain ⟨name, duty⟩ := closure
  simp only [enterClosure]
  cases duty with
  | send channel => rfl
  | perform trigger body =>
    cases trigger with
    | always => simp
    | onSuccess =>
      dsimp only
      split <;> simp

theorem errorSlots_invoke? {callback : Callback} {result : Int32}
    (h : s.invoke? t callback result = some s') : s'.errorSlots = s.errorSlots := by
  unfold invoke? at h
  dsimp only at h
  split at h
  · cases h
    rfl
  · cases h
    rfl
  · split at h <;> cases h
    rfl
  · cases h
    rfl
  · cases h
    exact errorSlots_enterClosure ..

theorem errorSlots_await? {channel : Nat} (h : s.await? t channel = some s') :
    s'.errorSlots = s.errorSlots := by
  unfold await? at h
  split at h
  · cases h
  · cases h
    exact errorSlots_reply ..
  · cases h
    exact errorSlots_reply ..

theorem errorSlots_offer (order : Order) (callback : Callback) :
    (s.offer t order callback).errorSlots = s.errorSlots := by
  rcases offer_cases s t order callback with ⟨code, records, -, h⟩ | ⟨-, delay, h⟩
  all_goals rw [h]; simp

theorem errorSlots_decide (errand : Errand) :
    (s.decide t errand).errorSlots = s.errorSlots := by
  cases errand with
  | post request callback delay result =>
    simp only [Bridge.decide, refuse]
    split
    · simp
    · split
      · simp
      · rw [errorSlots_push]
        rfl
  | quit =>
    simp only [Bridge.decide]
    split
    · simp
    · rw [errorSlots_push]
      split <;> rfl

theorem errorSlots_receive? (h : s.receive? t = some s') : s'.errorSlots = s.errorSlots := by
  unfold receive? at h
  split at h
  · split at h <;> cases h
    rfl
  · cases h
    rfl
  · cases h
    exact errorSlots_push ..

theorem errorSlots_act (ht : t ∈ s.threads) (action : Action) :
    (s.act t action).errorSlots =
      Function.update s.errorSlots t ((Task.act action).touch (s.errorSlots t)) := by
  cases action with
  | setError message =>
    simp only [act, errorSlots_reply, errorSlots_setSlot s t _ ht]
    rfl
  | takeError =>
    simp only [act, errorSlots_reply, errorSlots_setSlot s t _ ht]
    rfl
  | run slot result =>
    simp only [act, Task.touch, Function.update_eq_self]
    split
    · exact errorSlots_reply ..
    · exact errorSlots_push ..
  | post order optional recipe =>
    simp only [act, Task.touch, Function.update_eq_self]
    split <;> simp
  | quit via =>
    simp only [act, Task.touch, Function.update_eq_self]
    split <;> simp
  | _ => simp [act, Task.touch]

theorem errorSlots_continueBody (ht : t ∈ s.threads) (closure : Nat) (name : String)
    (actions : List Action) : (s.continueBody t closure name actions).errorSlots =
      Function.update s.errorSlots t ((Task.body closure name actions).touch (s.errorSlots t)) := by
  match actions with
  | [] => exact (Function.update_eq_self t s.errorSlots).symm
  | action :: rest =>
    cases action with
    | panic payload => exact errorSlots_setSlot _ t _ ht
    | _ => simp [continueBody, Task.touch]

theorem errorSlots_perform? (ht : t ∈ s.threads) {task : Task}
    (h : s.perform? t task = some s') :
    s'.errorSlots = Function.update s.errorSlots t (task.touch (s.errorSlots t)) := by
  have hsame (heq : s'.errorSlots = s.errorSlots) (hidle : task.touch = id) :
      s'.errorSlots = Function.update s.errorSlots t (task.touch (s.errorSlots t)) := by
    rw [hidle, heq]
    exact (Function.update_eq_self t s.errorSlots).symm
  cases task with
  | invoke callback result => exact hsame (errorSlots_invoke? h) rfl
  | abort callback =>
    simp only [perform?] at h
    split at h
    · cases h
      exact hsame rfl rfl
    · cases h
      exact hsame (by simp) rfl
  | body closure name actions => cases h; exact errorSlots_continueBody ht ..
  | act action => cases h; exact errorSlots_act ht action
  | offer order callback => cases h; exact hsame (errorSlots_offer ..) rfl
  | enter errand =>
    simp only [perform?] at h
    split at h
    · cases h
    · cases h
      exact hsame (errorSlots_push ..) rfl
  | decide errand => cases h; exact hsame (errorSlots_decide errand) rfl
  | answer => cases h; exact hsame (by simp) rfl
  | reply => cases h; exact hsame (by simp) rfl
  | receive => exact hsame (errorSlots_receive? h) rfl
  | dispatch => cases h; exact hsame (by simp) rfl
  | delegate tasks =>
    cases h
    exact hsame ((errorSlots_enlist _ tasks).trans (errorSlots_push ..)) rfl
  | awaitHelper index =>
    simp only [perform?] at h
    split at h
    · cases h
      exact hsame (errorSlots_reply ..) rfl
    · cases h
  | await channel => exact hsame (errorSlots_await? h) rfl
  | awaitLoop =>
    simp only [perform?] at h
    split at h <;> cases h
    exact hsame rfl rfl
  | _ => cases h; exact hsame rfl rfl

theorem errorSlots_step? {task : Task} {rest : List Task} (hb : s.tasks t = task :: rest)
    (h : s.step? t = some s') :
    s'.errorSlots = Function.update s.errorSlots t (task.touch (s.errorSlots t)) := by
  have hp := errorSlots_perform? (mem_threads_setTasks hb) (step?_eq hb ▸ h)
  rwa [errorSlots_setTasks] at hp

end slots

end Bridge
end HostBridge
