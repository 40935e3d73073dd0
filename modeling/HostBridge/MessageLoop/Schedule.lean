import HostBridge.MessageLoop.Step
import HostBridge.Total

/-!
# Schedules

Any order in which the threads take their steps is a schedule. One of them always takes a
step of the first thread that can, helpers before the main thread and that before the
loop, and goes on until none can. The work that is left bounds how long this takes: what
a task pushes, queues or takes from a slot is worth less than the task itself.
-/
namespace HostBridge

mutual

def Recipe.work : Recipe → Nat
  | .closure _ _ body => bodyWork body + 1
  | _ => 0

def Action.work : Action → Nat
  | .run .. => 5
  | .post _ _ recipe => recipe.work + 13
  | .quit _ => 10
  | .joinLoop | .dropLoop => 15
  | _ => 3

def bodyWork : List Action → Nat
  | [] => 0
  | action :: rest => action.work + bodyWork rest

end

def Callback.work (callback : Callback) : Nat :=
  match callback.target with
  | .closure (some ⟨_, .perform _ body⟩) => bodyWork body + 1
  | _ => 0

def Item.work : Item → Nat
  | run callback .. => callback.work + 3
  | quit => 1

def Errand.work : Errand → Nat
  | post _ callback .. => callback.work + 6
  | quit => 3

mutual

def Task.work : Task → Nat
  | .invoke callback _ => callback.work + 1
  | .abort callback => callback.work + 2
  | .body _ _ actions => bodyWork actions + 1
  | .act action => action.work - 2
  | .offer _ callback => callback.work + 8
  | .enter errand => errand.work + 1
  | .decide errand => errand.work
  | .dispatch callback .. => callback.work + 2
  | .delegate tasks => tasksWork tasks + 2
  | _ => 1

def tasksWork : List Task → Nat
  | [] => 0
  | task :: rest => task.work + tasksWork rest

end

def Thread.work (thread : Thread) : Nat := tasksWork thread.tasks

namespace Bridge

def work (s : Bridge) : Nat :=
  s.main.work + s.loopThread.work + totalOf Thread.work s.helpers +
    totalOf (·.2.work) s.slots + totalOf Item.work s.queue

def advance (s : Bridge) (t : ThreadId) : Bridge := (s.step? t).getD s

def follow (s : Bridge) (schedule : List ThreadId) : Bridge := schedule.foldl advance s

def threads (s : Bridge) : List ThreadId :=
  (List.range s.helpers.length).map .helper ++ [.main, .loop]

def next? (s : Bridge) : Option Bridge := s.threads.findSome? s.step?

def run : Nat → Bridge → Bridge
  | 0, s => s
  | steps + 1, s =>
    match s.next? with
    | some s => run steps s
    | none => s

def settle (s : Bridge) : Bridge := run s.work s

end Bridge
end HostBridge
