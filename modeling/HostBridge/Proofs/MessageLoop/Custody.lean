import HostBridge.MessageLoop.Decline
import HostBridge.Proofs.MessageLoop.Guard

/-!
# Custody of callbacks

A callback is in one place at a time and goes one way: it lies in a slot or is being
offered, then it is decided on at the gate, then it is due to be called. The weights here
count where one callback is up to a stage, and how often it has left that stage. They
decline, so neither happens twice.
-/
namespace HostBridge

inductive Stage
  | offered | decided | due
  deriving DecidableEq

def Stage.upTo : Stage → Stage → Bool
  | .offered, stage => stage == .offered
  | .decided, stage => stage != .due
  | .due, _ => true

def Callback.heldAt (limit : Stage) (serial : Nat) (stage : Stage) (callback : Callback) : Nat :=
  if limit.upTo stage && callback.serial == serial then 1 else 0

mutual

def Task.holds (limit : Stage) (serial : Nat) : Task → Nat
  | .offer _ callback => callback.heldAt limit serial .offered
  | .enter errand | .decide errand =>
    match errand with
    | .post _ callback _ _ => callback.heldAt limit serial .offered
    | .quit => 0
  | .abort callback | .dispatch callback _ _ => callback.heldAt limit serial .decided
  | .invoke callback _ => callback.heldAt limit serial .due
  | .delegate tasks => tasksHold limit serial tasks
  | _ => 0

def tasksHold (limit : Stage) (serial : Nat) : List Task → Nat
  | [] => 0
  | task :: rest => task.holds limit serial + tasksHold limit serial rest

end

def Item.holds (limit : Stage) (serial : Nat) : Item → Nat
  | .run callback _ _ => callback.heldAt limit serial .decided
  | .quit => 0

def Event.leaves (limit : Stage) (serial : Nat) : Event → Nat
  | .accepted callback _ | .refused callback =>
    if limit == .offered && callback.serial == serial then 1 else 0
  | .dispatched callback _ | .aborted callback =>
    if limit == .decided && callback.serial == serial then 1 else 0
  | .invoked callback _ => if limit == .due && callback.serial == serial then 1 else 0
  | .waived callback => if callback.serial == serial then 1 else 0
  | _ => 0

namespace Callback

variable (limit : Stage) (serial : Nat) (callback : Callback)

theorem heldAt_offered :
    callback.heldAt limit serial .offered = if callback.serial = serial then 1 else 0 := by
  cases limit <;> simp [heldAt, Stage.upTo]

theorem heldAt_le (stage : Stage) :
    callback.heldAt limit serial stage ≤ callback.heldAt limit serial .offered := by
  cases limit <;> cases stage <;> simp [heldAt, Stage.upTo]

end Callback

namespace Weight

/-- Counts one callback up to a stage. -/
def custody (limit : Stage) (serial : Nat) : Weight where
  task := Task.holds limit serial
  callback := Callback.heldAt limit serial .offered
  item := Item.holds limit serial
  event := Event.leaves limit serial
  unmade made := if made ≤ serial then 1 else 0
  event_plain e he := by cases e <;> first | rfl | cases he

theorem tasks_custody (limit : Stage) (serial : Nat) (tasks : List Task) :
    (custody limit serial).tasks tasks = tasksHold limit serial tasks := by
  induction tasks with
  | nil => simp [tasksHold]
  | cons task rest ih => simp only [tasks_cons, tasksHold, ih]; rfl

theorem unmade_custody (made serial : Nat) :
    (if made = serial then 1 else 0) + (if made + 1 ≤ serial then 1 else 0) =
      if made ≤ serial then 1 else 0 := by
  by_cases heq : made = serial
  · simp [heq]
  · by_cases hle : made ≤ serial
    · rw [if_neg heq, if_pos (by omega), if_pos hle]
    · rw [if_neg heq, if_neg (by omega), if_neg hle]

theorem declines_custody (limit : Stage) (serial : Nat) :
    (custody limit serial).Declines 0 where
  least _ := Nat.zero_le _
  invoke callback _ := by
    cases limit <;> simp [custody, Event.leaves, Task.holds, Callback.heldAt, Stage.upTo]
  enterBody callback _ _ _ _ _ := by
    cases limit <;> simp [custody, Event.leaves, Task.holds, Callback.heldAt, Stage.upTo]
  abort callback := by
    cases limit <;> simp [custody, Event.leaves, Task.holds, Callback.heldAt, Stage.upTo]
  body _ _ _ _ := by simp [custody, Task.holds]
  run slot result callback made := by
    have hmade := unmade_custody made serial
    have hsentinel : (Callback.sentinel made).heldAt limit serial .offered =
      if made = serial then 1 else 0 := Callback.heldAt_offered limit serial _
    have hle := callback.heldAt_le limit serial .due
    simp only [custody, Task.holds]
    omega
  post s order optional recipe := by
    have hmade := unmade_custody s.made serial
    have hnew := (s.make optional recipe).1.heldAt_offered limit serial
    rw [(s.serial_make optional recipe).1] at hnew
    simp only [custody, Task.holds, tasksHold]
    omega
  quit _ := by simp [custody, Task.holds, tasksHold]
  joinLoop := by simp [custody, Bridge.joinTasks, Task.holds]
  dropLoop := by simp [custody, Bridge.dropTasks, Task.holds]
  waive _ callback _ := by
    cases limit <;> simp [custody, Event.leaves, Task.holds, Callback.heldAt, Stage.upTo]
  ask _ _ _ := by simp [custody, Task.holds]
  enter errand := by cases errand <;> simp [custody, Task.holds]
  accept _ callback _ _ := by
    cases limit <;>
      simp [custody, Event.leaves, Task.holds, Item.holds, Callback.heldAt, Stage.upTo]
  refuse _ callback _ _ _ := by
    cases limit <;> simp [custody, Event.leaves, Task.holds, Callback.heldAt, Stage.upTo]
  decideQuit := by simp [custody, Event.leaves, Task.holds, Item.holds]
  answer _ _ _ _ := by simp [custody, Event.leaves, Task.holds]
  take _ _ _ := by simp [custody, Task.holds, Item.holds]
  dispatch callback _ _ := by
    cases limit <;> simp [custody, Event.leaves, Task.holds, Callback.heldAt, Stage.upTo]
  delegate tasks _ := by
    rw [tasks_custody]
    simp [custody, Task.holds]
  discard := by simp [custody, Event.leaves, Task.holds]

end Weight

namespace Bridge

variable {limit : Stage} {serial : Nat}

theorem tally_takeOut_le {s : Bridge} {t : ThreadId} {slot : Nat} {tasks : Callback → List Task}
    (hle : ∀ callback, (Weight.custody limit serial).tasks (tasks callback) ≤
      callback.heldAt limit serial .offered) :
    (s.takeOut t slot tasks).tally (.custody limit serial) ≤
      s.tally (.custody limit serial) := by
  unfold takeOut
  split
  · exact tally_reply_le ..
  · next callback hs =>
    have htaken := Table.totalOf_erase_of_get? (Callback.heldAt limit serial .offered) hs
    have htasks := hle callback
    refine Nat.le_trans (tally_push_le _ _ t _) ?_
    simp only [tally, Weight.custody] at htaken htasks ⊢
    omega

theorem tally_call_le (s : Bridge) (t : ThreadId) (call : Call) :
    (s.call t call).tally (.custody limit serial) ≤ s.tally (.custody limit serial) := by
  have hpush (task : Task) (htask : task.holds limit serial = 0) :
      (s.push t [task]).tally (.custody limit serial) ≤ s.tally (.custody limit serial) := by
    have hle := s.tally_push_le (.custody limit serial) t [task]
    have hweight : (Weight.custody limit serial).task task = 0 := htask
    simpa only [Weight.tasks_cons, hweight, Weight.tasks_nil, Nat.add_zero] using hle
  have hreply (reply : Reply) := s.tally_reply_le (.custody limit serial) t reply
  cases call with
  | act action => exact hpush _ rfl
  | put slot optional recipe =>
    have hmake := s.tally_make (.custody limit serial) optional recipe
    have herase := Table.totalOf_erase_le (Callback.heldAt limit serial .offered)
      (s.make optional recipe).2.slots slot
    have hnew := (s.make optional recipe).1.heldAt_offered limit serial
    rw [(s.serial_make optional recipe).1] at hnew
    have hmade := Weight.unmade_custody s.made serial
    simp only [Bridge.call, tally, Table.put, totalOf_cons, Weight.custody]
      at hmake herase ⊢
    omega
  | change slot target flags =>
    simp only [Bridge.call]
    split
    · exact hreply _
    · next callback hs =>
      have htaken := Table.totalOf_erase_of_get? (Callback.heldAt limit serial .offered) hs
      have hsame : (Callback.mk callback.serial target flags).heldAt limit serial .offered =
        callback.heldAt limit serial .offered := rfl
      simp only [tally, Table.put, totalOf_cons, Weight.custody] at htaken ⊢
      omega
  | offer slot order => exact tally_takeOut_le fun callback => callback.heldAt_le _ _ .offered
  | invoke slot result => exact tally_takeOut_le fun callback => callback.heldAt_le _ _ .due
  | abort slot => exact tally_takeOut_le fun callback => callback.heldAt_le _ _ .decided
  | forget slot => exact tally_takeOut_le fun callback => Nat.zero_le _
  | poll receiver =>
    have hle := tally_reply_le (.custody limit serial) (s.poll receiver).2 t (s.poll receiver).1
    have hpoll : (s.poll receiver).2.tally (.custody limit serial) =
        s.tally (.custody limit serial) := by
      unfold poll
      split
      · rfl
      · split <;> rfl
    rw [hpoll] at hle
    exact hle
  | await receiver =>
    simp only [Bridge.call]
    split
    · exact hreply _
    · next channel _ =>
      have hle := tally_push_le (.custody limit serial)
        { s with receivers := s.receivers.erase receiver } t [.await channel]
      exact hle
  | dropReceiver receiver => exact Nat.le_of_eq (tally_abandon ..)
  | slotCall call =>
    exact Nat.le_trans (tally_reply_le _ _ t _) (tally_setSlot_le _ s t _)
  | clonePoster => exact hpush _ rfl
  | dropPoster => exact hpush _ rfl
  | closeLatch => exact Nat.le_refl _
  | openLatch => exact hpush _ rfl

theorem tally_move_le {s s' : Bridge} (h : Move s s') :
    s'.tally (.custody limit serial) ≤ s.tally (.custody limit serial) := by
  cases h with
  | step h => exact tally_step?_le (Weight.declines_custody limit serial) h
  | call call hfree => exact tally_call_le ..
  | enlist => exact Nat.le_of_eq (tally_enlist _ s [])

/-- A callback is in one place at most, or it has gone on from there, and that once. -/
theorem Reachable.custody {name : String} {s : Bridge} (hr : Reachable name s) (limit : Stage)
    (serial : Nat) : s.tally (.custody limit serial) ≤ 1 := by
  apply hr.induct (P := fun m => m.tally (.custody limit serial) ≤ 1)
  · exact Nat.le_refl 1
  · intro s s' _ hs hm
    exact Nat.le_trans (tally_move_le hm) hs

structure Released (s : Bridge) (limit : Stage) (serial : Nat) : Prop where
  tasks : ∀ u, ∀ x ∈ s.tasks u, x.holds limit serial = 0
  slots : ∀ entry ∈ s.slots, entry.2.heldAt limit serial .offered = 0
  queue : ∀ item ∈ s.queue, item.holds limit serial = 0

variable {name : String} {s : Bridge}

theorem Reachable.released (hr : Reachable name s) (limit : Stage) (serial : Nat) {t : ThreadId}
    {e : Event} (he : (t, e) ∈ s.trace) (hl : 0 < e.leaves limit serial) :
    s.Released limit serial := by
  have hone := hr.custody limit serial
  have hevent : e.leaves limit serial ≤
      (Weight.custody limit serial).events (s.trace.map (·.2)) :=
    le_totalOf (Event.leaves limit serial) (List.mem_map_of_mem he)
  constructor
  · intro u x hx
    have htask : x.holds limit serial ≤ (Weight.custody limit serial).tasks (s.tasks u) :=
      le_totalOf (Task.holds limit serial) hx
    have hle := s.tasks_add_events_le_tally (.custody limit serial) u
    simp only [Bridge.tasks] at htask
    omega
  · intro entry hentry
    have hslot := le_totalOf
      (fun entry : Nat × Callback => entry.2.heldAt limit serial .offered) hentry
    simp only [tally, Weight.custody] at hone hevent
    omega
  · intro item hitem
    have hqueue := le_totalOf (Item.holds limit serial) hitem
    simp only [tally, Weight.custody] at hone hevent
    omega

theorem Reachable.leaves_once (hr : Reachable name s) (limit : Stage) (serial : Nat)
    {t u : ThreadId} {e f : Event} (he : (t, e) ∈ s.trace) (hf : (u, f) ∈ s.trace)
    (hle : 0 < e.leaves limit serial) (hlf : 0 < f.leaves limit serial) : t = u ∧ e = f := by
  have htotal : totalOf (fun entry => entry.2.leaves limit serial) s.trace ≤ 1 := by
    have hone := hr.custody limit serial
    simp only [tally, Weight.custody, Weight.events, totalOf_map] at hone
    omega
  have heq := eq_of_totalOf_le_one _ htotal he hf hle hlf
  exact ⟨congrArg Prod.fst heq, congrArg Prod.snd heq⟩

theorem Reachable.nodup_serials (hr : Reachable name s) (limit : Stage) {β : Type}
    (pick : ThreadId × Event → Option β) (number : β → Nat)
    (hpick : ∀ entry b, pick entry = some b → 0 < entry.2.leaves limit (number b)) :
    ((s.trace.filterMap pick).map number).Nodup := by
  rw [List.nodup_iff_count]
  intro serial
  have hle (l : List (ThreadId × Event)) : List.count serial ((l.filterMap pick).map number) ≤
      (Weight.custody limit serial).events (l.map (·.2)) := by
    induction l with
    | nil => simp
    | cons entry l ih =>
      rw [List.map_cons, Weight.events_cons]
      cases hp : pick entry with
      | none =>
        rw [List.filterMap_cons_none hp]
        omega
      | some b =>
        have hleave : 0 < entry.2.leaves limit (number b) := hpick entry b hp
        rw [List.filterMap_cons_some hp, List.map_cons, List.count_cons]
        split
        · next hn =>
          rw [beq_iff_eq.mp hn] at hleave
          have hevent : (Weight.custody limit serial).event entry.2 =
            entry.2.leaves limit serial := rfl
          omega
        · omega
  have hone := hr.custody limit serial
  have hall := hle s.trace
  simp only [tally] at hone
  omega

end Bridge
end HostBridge
