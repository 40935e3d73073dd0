import HostBridge.MessageLoop.Step
import HostBridge.Total

/-!
# Tallies

A weight says what a task, a callback in a slot, an item of the queue and an event count
for, and what the numbers that have not been given to a callback yet count for together.
The tally of a bridge adds up all of them. An operation on the bridge changes a tally by
what it pushes, queues, notes or takes away, whatever the weight is.
-/
namespace HostBridge

namespace Table

variable {α : Type} (size : α → Nat)

theorem totalOf_erase_le (table : Table α) (key : Nat) :
    totalOf (size ·.2) (table.erase key) ≤ totalOf (size ·.2) table := by
  induction table with
  | nil => exact Nat.le_refl 0
  | cons entry table ih =>
    simp only [erase] at ih ⊢
    by_cases h : (entry.1 != key) = true
    · simp only [List.filter_cons, h, if_true, totalOf_cons]
      omega
    · simp only [List.filter_cons, h, totalOf_cons]
      simp only [Bool.false_eq_true, if_false]
      omega

theorem totalOf_erase_of_get? {table : Table α} {key : Nat} {a : α}
    (h : table.get? key = some a) :
    totalOf (size ·.2) (table.erase key) + size a ≤ totalOf (size ·.2) table := by
  induction table with
  | nil => cases h
  | cons entry table ih =>
    obtain ⟨number, b⟩ := entry
    by_cases same : key = number
    · subst same
      simp only [get?, List.lookup_cons, beq_self_eq_true, Option.some.injEq] at h
      subst h
      have := totalOf_erase_le size table key
      simp only [erase, List.filter_cons, bne_self_eq_false, Bool.false_eq_true, if_false,
        totalOf_cons] at this ⊢
      omega
    · have differs : (key == number) = false := by simpa using same
      simp only [get?, List.lookup_cons, differs] at h
      have := ih h
      have keeps : (number != key) = true := by simpa using Ne.symm same
      simp only [erase, List.filter_cons, keeps, if_true, totalOf_cons] at this ⊢
      omega

end Table

/-- The events that say nothing about the loop or about who has a callback. -/
def Event.isPlain : Event → Bool
  | .started .. | .finished _ | .native .. | .acted .. | .logged _ => true
  | _ => false

structure Weight where
  task : Task → Nat
  callback : Callback → Nat
  item : Item → Nat
  event : Event → Nat
  unmade : Nat → Nat
  event_plain : ∀ e : Event, e.isPlain = true → event e = 0

namespace Weight

variable (w : Weight)

def tasks (tasks : List Task) : Nat := totalOf w.task tasks

@[simp]
theorem tasks_nil : w.tasks [] = 0 := rfl

@[simp]
theorem tasks_cons (task : Task) (rest : List Task) :
    w.tasks (task :: rest) = w.task task + w.tasks rest := rfl

@[simp]
theorem tasks_append (first second : List Task) :
    w.tasks (first ++ second) = w.tasks first + w.tasks second :=
  totalOf_append w.task first second

def events (events : List Event) : Nat := totalOf w.event events

@[simp]
theorem events_nil : w.events [] = 0 := rfl

@[simp]
theorem events_cons (e : Event) (rest : List Event) :
    w.events (e :: rest) = w.event e + w.events rest := rfl

theorem events_plain {events : List Event} (h : ∀ e ∈ events, e.isPlain = true) :
    w.events events = 0 := by
  induction events with
  | nil => rfl
  | cons e rest ih =>
    rw [events_cons, w.event_plain e (h e (by simp)), ih fun e' he => h e' (by simp [he])]

@[simp]
theorem events_logged (records : List Log.Record) : w.events (records.map .logged) = 0 := by
  apply w.events_plain
  intro e he
  obtain ⟨record, -, rfl⟩ := List.mem_map.mp he
  rfl

end Weight

namespace Bridge

variable (w : Weight)

def tally (s : Bridge) : Nat :=
  w.tasks s.main.tasks + w.tasks s.loopThread.tasks + totalOf (w.tasks ·.tasks) s.helpers +
    totalOf (w.callback ·.2) s.slots + totalOf w.item s.queue +
    w.events (s.trace.map (·.2)) + w.unmade s.made

theorem tally_updateThread_le (s : Bridge) (t : ThreadId) (f : Thread → Thread) (extra : Nat)
    (h : ∀ thread, w.tasks (f thread).tasks ≤ w.tasks thread.tasks + extra) :
    (s.updateThread t f).tally w ≤ s.tally w + extra := by
  cases t with
  | main => have := h s.main; simp only [updateThread, tally]; omega
  | loop => have := h s.loopThread; simp only [updateThread, tally]; omega
  | helper index =>
    have := totalOf_modify_le (fun thread => w.tasks thread.tasks) f extra h s.helpers index
    simp only [updateThread, tally]
    omega

theorem tally_push_le (s : Bridge) (t : ThreadId) (tasks : List Task) :
    (s.push t tasks).tally w ≤ s.tally w + w.tasks tasks :=
  s.tally_updateThread_le w t _ _ fun thread => by
    simp only [Weight.tasks_append]; omega

theorem tally_reply_le (s : Bridge) (t : ThreadId) (reply : Reply) :
    (s.reply t reply).tally w ≤ s.tally w :=
  s.tally_updateThread_le w t _ 0 fun _ => Nat.le_refl _

theorem tally_setSlot_le (s : Bridge) (t : ThreadId) (slot : ErrorSlot) :
    (s.setSlot t slot).tally w ≤ s.tally w :=
  s.tally_updateThread_le w t _ 0 fun _ => Nat.le_refl _

@[simp]
theorem tally_note (s : Bridge) (t : ThreadId) (events : List Event) :
    (s.note t events).tally w = s.tally w + w.events events := by
  have h : (s.note t events).trace.map (·.2) = s.trace.map (·.2) ++ events := by
    simp [note, Function.comp_def]
  simp only [tally, Weight.events, h, totalOf_append]
  simp only [note]
  omega

@[simp]
theorem tally_log (s : Bridge) (t : ThreadId) (records : List Log.Record) :
    (s.log t records).tally w = s.tally w := by
  rw [log, tally_note, Weight.events_logged, Nat.add_zero]

theorem tally_enqueue (s : Bridge) (item : Item) :
    (s.enqueue item).tally w = s.tally w + w.item item := by
  simp only [enqueue, tally, totalOf_append, totalOf_cons, totalOf_nil]
  omega

theorem tally_setTasks {s : Bridge} {t : ThreadId} {task : Task} {rest : List Task}
    (h : (s.thread t).tasks = task :: rest) :
    (s.setTasks t rest).tally w + w.task task = s.tally w := by
  cases t with
  | main =>
    simp only [thread] at h
    simp only [setTasks, updateThread, tally, h, Weight.tasks_cons]
    omega
  | loop =>
    simp only [thread] at h
    simp only [setTasks, updateThread, tally, h, Weight.tasks_cons]
    omega
  | helper index =>
    simp only [thread] at h
    have inside : index < s.helpers.length := by
      apply Nat.lt_of_not_le
      intro outside
      rw [List.getD_eq_getElem?_getD, List.getElem?_eq_none outside] at h
      simp [Thread.idle] at h
    have := totalOf_modify_getD (fun thread => w.tasks thread.tasks)
      (fun thread => { thread with tasks := rest }) (w.task task) Thread.idle s.helpers index
      inside (by simp only [h, Weight.tasks_cons]; omega)
    simp only [setTasks, updateThread, tally]
    omega

theorem tasks_add_events_le_tally (s : Bridge) (t : ThreadId) :
    w.tasks (s.thread t).tasks + w.events (s.trace.map (·.2)) ≤ s.tally w := by
  cases t with
  | main => simp only [thread, tally]; omega
  | loop => simp only [thread, tally]; omega
  | helper index =>
    have hle : w.tasks (s.helpers.getD index .idle).tasks ≤
        totalOf (w.tasks ·.tasks) s.helpers := by
      by_cases hi : index < s.helpers.length
      · rw [List.getD_eq_getElem?_getD, List.getElem?_eq_getElem hi]
        exact le_totalOf (fun thread => w.tasks thread.tasks) (List.getElem_mem hi)
      · rw [List.getD_eq_getElem?_getD, List.getElem?_eq_none (by omega)]
        exact Nat.zero_le _
    simp only [thread, tally]
    omega

theorem event_le_tally {s : Bridge} {entry : ThreadId × Event} (h : entry ∈ s.trace) :
    w.event entry.2 ≤ s.tally w := by
  have hevent : w.event entry.2 ≤ w.events (s.trace.map (·.2)) :=
    le_totalOf w.event (List.mem_map_of_mem h)
  have hall := s.tasks_add_events_le_tally w .main
  omega

theorem callback_le_tally {s : Bridge} {entry : Nat × Callback} (h : entry ∈ s.slots) :
    w.callback entry.2 ≤ s.tally w := by
  have hslot := le_totalOf (fun entry : Nat × Callback => w.callback entry.2) h
  simp only [tally]
  omega

theorem tally_erase {s : Bridge} {slot : Nat} {callback : Callback}
    (h : s.slots.get? slot = some callback) :
    { s with slots := s.slots.erase slot }.tally w + w.callback callback ≤ s.tally w := by
  have htaken := Table.totalOf_erase_of_get? w.callback h
  simp only [tally]
  omega

theorem tally_put {s : Bridge} {slot : Nat} {callback : Callback} (new : Callback)
    (h : s.slots.get? slot = some callback) :
    { s with slots := s.slots.put slot new }.tally w + w.callback callback ≤
      s.tally w + w.callback new := by
  have htaken := Table.totalOf_erase_of_get? w.callback h
  simp only [tally, Table.put, totalOf_cons]
  omega

theorem tally_enlist (s : Bridge) (tasks : List Task) :
    { s with helpers := s.helpers ++ [{ Thread.idle with tasks }] }.tally w =
      s.tally w + w.tasks tasks := by
  simp only [tally, totalOf_append, totalOf_cons, totalOf_nil]
  omega

@[simp]
theorem tally_sendTo (s : Bridge) (channel : Nat) (code : Code) :
    (s.sendTo channel code).tally w = s.tally w := rfl

@[simp]
theorem tally_abandon (s : Bridge) (receiver : Nat) :
    (s.abandon receiver).tally w = s.tally w := by
  unfold abandon
  split <;> rfl

@[simp]
theorem tally_tryTake (s : Bridge) (receiver : Nat) :
    (s.tryTake receiver).2.tally w = s.tally w := by
  unfold tryTake
  split <;> rfl

@[simp]
theorem made_abandon (s : Bridge) (receiver : Nat) : (s.abandon receiver).made = s.made := by
  unfold abandon
  split <;> rfl

theorem tally_assemble (s : Bridge) (optional : Bool) (target : Target) :
    (s.assemble optional target).2.tally w + w.unmade s.made =
      s.tally w + w.unmade (s.made + 1) := by
  simp only [assemble, tally]
  omega

theorem tally_make (s : Bridge) (optional : Bool) (recipe : Recipe) :
    (s.make optional recipe).2.tally w + w.unmade s.made =
      s.tally w + w.unmade (s.made + 1) := by
  cases recipe with
  | channel name receiver =>
    have h := (s.abandon receiver).tally_assemble w optional .blocking
    rw [tally_abandon, made_abandon] at h
    rw [← h]
    simp only [make, assemble, tally, made_abandon]
  | _ => exact s.tally_assemble w optional _

theorem serial_make (s : Bridge) (optional : Bool) (recipe : Recipe) :
    (s.make optional recipe).1.serial = s.made ∧ (s.make optional recipe).2.made = s.made + 1 := by
  cases recipe <;> cases optional <;>
    simp only [make, assemble, made_abandon, Callback.optional, if_true, if_false,
      Bool.false_eq_true, and_self]

end Bridge
end HostBridge
