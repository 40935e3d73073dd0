import HostBridge.MessageLoop.Decline

/-!
# Progress

Every step that a thread can take leaves less work than there was. So the threads come to
rest whatever the order of their steps is, and a bridge that has settled has no step left.
-/
namespace HostBridge

def Weight.work : Weight where
  task := Task.work
  callback := Callback.work
  item := Item.work
  event _ := 0
  unmade _ := 0
  event_plain _ _ := rfl

theorem Weight.tasks_work (tasks : List Task) : Weight.work.tasks tasks = tasksWork tasks := by
  induction tasks with
  | nil => simp [tasksWork]
  | cons task rest ih => simp only [Weight.tasks_cons, tasksWork, ih]; rfl

theorem Weight.events_work (events : List Event) : Weight.work.events events = 0 := by
  induction events with
  | nil => rfl
  | cons e rest ih => rw [Weight.events_cons, ih]; rfl

theorem Action.three_le_work (action : Action) : 3 ≤ action.work := by
  cases action <;> simp only [Action.work] <;> omega

theorem Task.work_pos (task : Task) : 0 < task.work := by
  cases task with
  | act action =>
    have h := action.three_le_work
    simp only [Task.work]
    omega
  | enter errand => simp only [Task.work]; omega
  | decide errand => cases errand <;> simp only [Task.work, Errand.work] <;> omega
  | _ => simp only [Task.work]; omega

theorem Bridge.work_make_le (s : Bridge) (optional : Bool) (recipe : Recipe) :
    (s.make optional recipe).1.work ≤ recipe.work := by
  cases recipe <;> cases optional <;>
    simp [make, assemble, Callback.work, Callback.optional, Recipe.work]

theorem Weight.declines_work : Weight.work.Declines 1 where
  least task := task.work_pos
  invoke callback _ := by simp only [work, Task.work]; omega
  enterBody serial flags result name trigger body := by
    simp only [work, Task.work, Callback.work]
    omega
  abort callback := by simp only [work, Task.work]; omega
  body serial name action rest := by
    have h := action.three_le_work
    simp only [work, Task.work, bodyWork]
    omega
  run slot result callback made := by
    simp only [work, Task.work, Action.work, Callback.sentinel, Callback.work]
    omega
  post s order optional recipe := by
    have h := s.work_make_le optional recipe
    simp only [work, Task.work, Action.work, tasksWork]
    omega
  quit _ := by simp [work, Task.work, Action.work, Errand.work, tasksWork]
  joinLoop := by decide
  dropLoop := by decide
  waive _ callback _ := by simp only [work, Task.work]; omega
  ask _ callback _ := by simp only [work, Task.work, Errand.work]; omega
  enter errand := by simp only [work, Task.work]; omega
  accept _ callback _ _ := by
    simp only [tasks_work, tasksWork]
    simp only [work, Task.work, Item.work, Errand.work]
    omega
  refuse _ callback _ _ _ := by
    simp only [tasks_work, tasksWork]
    simp only [work, Task.work, Errand.work]
    omega
  decideQuit := by decide
  answer _ _ _ _ := by simp [work, Task.work]
  take callback _ _ := by simp only [work, Task.work, Item.work]; omega
  dispatch callback _ _ := by simp only [work, Task.work]; omega
  delegate tasks _ := by
    rw [tasks_work]
    simp only [work, Task.work]
    omega
  discard := by decide

namespace Bridge

theorem tally_work (s : Bridge) : s.tally .work = s.work := by
  simp only [tally, work, Weight.tasks_work, Weight.events_work]
  rfl

theorem work_step?_lt {s next : Bridge} {t : ThreadId} (h : s.step? t = some next) :
    next.work < s.work := by
  have hle := tally_step?_le Weight.declines_work h
  rw [tally_work, tally_work] at hle
  exact hle

theorem work_next?_lt {s next : Bridge} (h : s.next? = some next) : next.work < s.work := by
  obtain ⟨_, _, t, _, step, _⟩ := List.findSome?_eq_some_iff.mp h
  exact work_step?_lt step

theorem next?_run_eq_none {steps : Nat} {s : Bridge} (h : s.work ≤ steps) :
    (run steps s).next? = none := by
  induction steps generalizing s with
  | zero =>
    cases next : s.next? with
    | none => exact next
    | some _ => have := work_next?_lt next; omega
  | succ steps ih =>
    unfold run
    cases next : s.next? with
    | none => exact next
    | some _ => have := work_next?_lt next; exact ih (by omega)

theorem next?_settle (s : Bridge) : s.settle.next? = none := next?_run_eq_none (Nat.le_refl _)

end Bridge
end HostBridge
