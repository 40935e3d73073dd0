import HostBridge.MessageLoop.Tally
import HostBridge.Proofs.MessageLoop.Reachable

/-!
# Frames

Most of what a thread does leaves the loop alone: it pushes tasks onto its own stack, notes
events, and changes slots, receivers and channels. A frame says so of an operation and
lists what was pushed and noted. Frames follow one another, so each operation has its frame
from those of its parts.
-/
namespace HostBridge

structure Core where
  queue : List Item
  quitting : Bool
  gate : Option ThreadId
  owner : Ownership

def Task.isOpening : Task → Bool
  | .act _ | .offer .. | .invoke .. | .abort _ | .enter .quit | .reply _ | .await _ | .openLatch
  | .clonePoster | .dropPoster => true
  | _ => false

def Task.isOrdinary : Task → Bool
  | .delegate tasks => tasks.all isOpening
  | .body .. | .report _ | .awaitHelper _ => true
  | task => task.isOpening

/-- The tasks that give way to such tasks, or to none. The sentinel is never run. -/
def Task.isQuiet : Task → Bool
  | .invoke callback _ | .abort callback => callback.isBlocking
  | .body .. | .act _ | .report _ | .reply _ | .awaitHelper _ | .await _ | .openLatch
  | .clonePoster | .dropPoster => true
  | _ => false

def Task.isBody : Task → Bool
  | .body .. => true
  | _ => false

theorem Task.isOrdinary_of_isOpening {task : Task} (h : task.isOpening = true) :
    task.isOrdinary = true := by
  cases task <;> first | rfl | exact h | cases h

theorem Task.isBody_of_isOpening {task : Task} (h : task.isOpening = true) :
    task.isBody = false := by
  cases task <;> first | rfl | cases h

/-- What a request answers with at once, without a run: the sentinel cannot be queued, and an
optional callback need not be. -/
def Callback.answeredAtOnce (callback : Callback) (request : Request) (result : Int32) :
    Option Code :=
  match request with
  | .post => if callback.isBlocking then some (.named .badArgument) else none
  | .complete =>
    if callback.isBlocking || callback.isOptional then some (Code.receive result).1 else none

namespace Bridge

def core (s : Bridge) : Core := ⟨s.queue, s.quitting, s.gate, s.owner⟩

def tasks (s : Bridge) (t : ThreadId) : List Task := (s.thread t).tasks

section parts
variable (s : Bridge) (t : ThreadId)

theorem core_updateThread (f : Thread → Thread) : (s.updateThread t f).core = s.core := by
  cases t <;> rfl

theorem trace_updateThread (f : Thread → Thread) : (s.updateThread t f).trace = s.trace := by
  cases t <;> rfl

theorem thread_updateThread_ne (f : Thread → Thread) {u : ThreadId} (h : u ≠ t) :
    (s.updateThread t f).thread u = s.thread u := by
  cases t with
  | main => cases u <;> first | rfl | exact absurd rfl h
  | loop => cases u <;> first | rfl | exact absurd rfl h
  | helper index =>
    cases u with
    | helper other =>
      have hne : index ≠ other := fun he => h (by rw [he])
      simp only [updateThread, thread, List.getD_eq_getElem?_getD, List.getElem?_modify_ne _ _ hne]
    | _ => rfl

theorem mem_threads : t ∈ s.threads ↔ ∀ index, t = .helper index → index < s.helpers.length := by
  cases t <;> simp [threads]

theorem thread_updateThread_self (f : Thread → Thread) (h : t ∈ s.threads) :
    (s.updateThread t f).thread t = f (s.thread t) := by
  cases t with
  | helper index =>
    have hi := (s.mem_threads _).mp h index rfl
    simp [updateThread, thread, List.getD_eq_getElem?_getD, hi]
  | _ => rfl

theorem tasks_updateThread (f : Thread → Thread) (hf : ∀ thread, (f thread).tasks = thread.tasks)
    (u : ThreadId) : (s.updateThread t f).tasks u = s.tasks u := by
  by_cases hu : u = t
  · subst hu
    cases u with
    | helper index =>
      by_cases hi : index < s.helpers.length
      · simp [tasks, updateThread, thread, List.getD_eq_getElem?_getD, hi, hf]
      · simp [tasks, updateThread, thread, List.getD_eq_getElem?_getD, hi]
    | _ => exact hf _
  · rw [tasks, tasks, thread_updateThread_ne _ _ _ hu]

theorem threads_updateThread (f : Thread → Thread) : (s.updateThread t f).threads = s.threads := by
  cases t <;> simp [updateThread, threads]

theorem mem_threads_of_tasks {task : Task} {rest : List Task} (h : s.tasks t = task :: rest) :
    t ∈ s.threads := by
  rw [mem_threads]
  intro index ht
  subst ht
  refine Nat.lt_of_not_le fun hi => ?_
  simp [tasks, thread, List.getD_eq_getElem?_getD, hi, Thread.idle] at h

theorem tasks_enlist (tasks : List Task) (u : ThreadId) :
    ({ s with helpers := s.helpers ++ [{ Thread.idle with tasks }] } : Bridge).tasks u =
      if u = .helper s.helpers.length then tasks else s.tasks u := by
  cases u with
  | helper index =>
    simp only [Bridge.tasks, thread, List.getD_eq_getElem?_getD, ThreadId.helper.injEq]
    rcases Nat.lt_trichotomy index s.helpers.length with hi | hi | hi
    · rw [List.getElem?_append_left hi, if_neg (Nat.ne_of_lt hi)]
    · subst hi
      simp
    · rw [List.getElem?_eq_none (by simp; omega), List.getElem?_eq_none (Nat.le_of_lt hi),
        if_neg (Nat.ne_of_gt hi)]
  | _ => rfl

end parts

/-- A thread has pushed tasks and noted events, and the loop is as it was. -/
structure Frame (s s' : Bridge) (t : ThreadId) (pushed : List Task) (events : List Event) :
    Prop where
  own : s'.tasks t = pushed ++ s.tasks t
  others : ∀ u, u ≠ t → s'.tasks u = s.tasks u
  trace : s'.trace = s.trace ++ events.map (t, ·)
  core : s'.core = s.core
  threads : s'.threads = s.threads

section frames
variable {s s' s'' : Bridge} {t : ThreadId}

theorem Frame.same (htasks : s'.tasks = s.tasks) (htrace : s'.trace = s.trace)
    (hcore : s'.core = s.core) (hthreads : s'.threads = s.threads) : Frame s s' t [] [] :=
  ⟨congrFun htasks t, fun u _ => congrFun htasks u, by simp [htrace], hcore, hthreads⟩

theorem Frame.refl (s : Bridge) (t : ThreadId) : Frame s s t [] [] := .same rfl rfl rfl rfl

theorem Frame.trans {first second : List Task} {earlier later : List Event}
    (h₁ : Frame s s' t first earlier) (h₂ : Frame s' s'' t second later) :
    Frame s s'' t (second ++ first) (earlier ++ later) where
  own := by rw [h₂.own, h₁.own, List.append_assoc]
  others u hu := by rw [h₂.others u hu, h₁.others u hu]
  trace := by rw [h₂.trace, h₁.trace, List.map_append, List.append_assoc]
  core := h₂.core.trans h₁.core
  threads := h₂.threads.trans h₁.threads

theorem Frame.silent {pushed : List Task} {events : List Event} (h₁ : Frame s s' t [] [])
    (h₂ : Frame s' s'' t pushed events) : Frame s s'' t pushed events := by
  simpa using h₁.trans h₂

theorem frame_push (tasks : List Task) (h : t ∈ s.threads) :
    Frame s (s.push t tasks) t tasks [] where
  own := by
    simp only [Bridge.tasks, push]
    rw [thread_updateThread_self _ _ _ h]
  others u hu := by
    simp only [Bridge.tasks, push]
    rw [thread_updateThread_ne _ _ _ hu]
  trace := by simp [push, trace_updateThread]
  core := core_updateThread ..
  threads := threads_updateThread ..

theorem frame_updateThread (f : Thread → Thread) (hf : ∀ thread, (f thread).tasks = thread.tasks) :
    Frame s (s.updateThread t f) t [] [] :=
  .same (funext fun u => tasks_updateThread s t f hf u) (trace_updateThread ..)
    (core_updateThread ..) (threads_updateThread ..)

theorem frame_reply (reply : Reply) : Frame s (s.reply t reply) t [] [] :=
  frame_updateThread _ fun _ => rfl

theorem frame_setSlot (slot : ErrorSlot) : Frame s (s.setSlot t slot) t [] [] :=
  frame_updateThread _ fun _ => rfl

theorem frame_note (events : List Event) : Frame s (s.note t events) t [] events :=
  ⟨rfl, fun _ _ => rfl, rfl, rfl, rfl⟩

theorem frame_log (records : List Log.Record) :
    Frame s (s.log t records) t [] (records.map .logged) := frame_note _

theorem frame_abandon (receiver : Nat) : Frame s (s.abandon receiver) t [] [] := by
  unfold abandon
  split
  · exact .same rfl rfl rfl rfl
  · exact .refl s t

theorem frame_make (optional : Bool) (recipe : Recipe) :
    Frame s (s.make optional recipe).2 t [] [] := by
  cases recipe with
  | channel name receiver =>
    exact (frame_abandon receiver).silent (.same rfl rfl rfl rfl)
  | _ => exact .same rfl rfl rfl rfl

theorem frame_tryTake (receiver : Nat) : Frame s (s.tryTake receiver).2 t [] [] := by
  unfold tryTake
  split
  · exact .refl s t
  · exact .same rfl rfl rfl rfl

theorem frame_poll (receiver : Nat) : Frame s (s.poll receiver).2 t [] [] := by
  unfold poll
  split
  · exact .refl s t
  · split
    · exact .same rfl rfl rfl rfl
    · exact .refl s t

end frames

section operations
variable {s s' : Bridge} {t : ThreadId}

theorem isPlain_logged {records : List Log.Record} :
    ∀ e ∈ records.map Event.logged, e.isPlain = true := by
  intro e he
  obtain ⟨record, -, rfl⟩ := List.mem_map.mp he
  rfl

theorem frame_enterClosure (ht : t ∈ s.threads) (serial : Nat) (closure : Closure)
    (result : Int32) : ∃ pushed events,
      Frame s (s.enterClosure t serial closure result) t pushed events ∧
      (pushed = [] ∨ ∃ name actions, pushed = [.body serial name actions]) ∧
      ∀ e ∈ events, e.isPlain = true := by
  obtain ⟨name, duty⟩ := closure
  let records := (Code.receive result).2 ++ [Log.enteringRecord name (Code.receive result).1]
  have hlog : Frame s (s.log t records) t [] (records.map .logged) := frame_log _
  have hbody (event : Event) (he : event.isPlain = true) (actions : List Action) :
      Frame s (((s.log t records).note t [event]).push t [.body serial name actions]) t
        [.body serial name actions] (records.map .logged ++ [event]) ∧
      ∀ e ∈ records.map .logged ++ [event], e.isPlain = true := by
    refine ⟨by simpa using (hlog.trans (frame_note _)).trans (frame_push _ ht), ?_⟩
    intro e hm
    rcases List.mem_append.mp hm with hm | hm
    · exact isPlain_logged e hm
    · rwa [List.mem_singleton.mp hm]
  cases duty with
  | send channel =>
    have hsend : Frame s ((s.log t records).sendTo channel (Code.receive result).1) t [] _ :=
      ⟨hlog.own, hlog.others, hlog.trace, hlog.core, hlog.threads⟩
    exact ⟨[], _, hsend, .inl rfl, isPlain_logged⟩
  | perform trigger actions =>
    cases trigger with
    | always =>
      obtain ⟨hf, hp⟩ := hbody (.started serial name (some (Code.receive result).1)) rfl actions
      exact ⟨_, _, hf, .inr ⟨name, actions, rfl⟩, hp⟩
    | onSuccess =>
      by_cases hok : (Code.receive result).1.isOk = true
      · obtain ⟨hf, hp⟩ := hbody (.started serial name none) rfl actions
        refine ⟨_, _, ?_, .inr ⟨name, actions, rfl⟩, hp⟩
        simpa [enterClosure, hok] using hf
      · let skipped := [Log.skippedRecord name (Code.receive result).1]
        refine ⟨[], (records ++ skipped).map .logged, ?_, .inl rfl, isPlain_logged⟩
        simpa [enterClosure, hok] using hlog.trans (frame_log skipped)

theorem frame_invoke? (ht : t ∈ s.threads) {callback : Callback} {result : Int32}
    (hb : callback.isBlocking = false) (h : s.invoke? t callback result = some s') :
    ∃ pushed events, Frame s s' t pushed (.invoked callback result :: events) ∧
      (pushed = [] ∨ ∃ name actions, pushed = [.body callback.serial name actions]) ∧
      ∀ e ∈ events, e.isPlain = true := by
  obtain ⟨serial, target, flags⟩ := callback
  generalize hc : (⟨serial, target, flags⟩ : Callback) = callback at *
  have hcalled : Frame s (s.note t [.invoked callback result]) t [] _ := frame_note _
  unfold invoke? at h
  subst hc
  cases target with
  | blocking => cases hb
  | native context =>
    cases h
    exact ⟨[], [.native serial context result], by simpa using hcalled.trans (frame_note _),
      .inl rfl, by simp [Event.isPlain]⟩
  | latch =>
    simp only at h
    split at h
    · cases h
    · cases h
      exact ⟨[], [], hcalled, .inl rfl, by simp⟩
  | closure context =>
    cases context with
    | none =>
      cases h
      exact ⟨[], _, by simpa using hcalled.trans (frame_log _), .inl rfl, isPlain_logged⟩
    | some closure =>
      cases h
      obtain ⟨pushed, events, hf, hp, he⟩ := frame_enterClosure
        (s := s.note t [.invoked ⟨serial, .closure (some closure), flags⟩ result]) ht serial
        closure result
      exact ⟨pushed, events, by simpa using hcalled.trans hf, hp, he⟩

theorem frame_route (ht : t ∈ s.threads) (via : Via) {tasks : List Task}
    (ho : ∀ x ∈ tasks, x.isOpening = true) :
    ∃ pushed, Frame s (s.route t via tasks) t pushed [] ∧
      ∀ x ∈ pushed, x.isOrdinary = true ∧ x.isBody = false := by
  have hdirect : ∀ x ∈ tasks, x.isOrdinary = true ∧ x.isBody = false := fun x hx =>
    ⟨Task.isOrdinary_of_isOpening (ho x hx), Task.isBody_of_isOpening (ho x hx)⟩
  cases via with
  | helper =>
    refine ⟨_, frame_push _ ht, ?_⟩
    intro x hx
    rw [List.mem_singleton.mp hx]
    exact ⟨List.all_eq_true.mpr ho, rfl⟩
  | _ => exact ⟨_, frame_push _ ht, hdirect⟩

theorem frame_act (ht : t ∈ s.threads) (action : Action) :
    (∃ pushed, Frame s (s.act t action) t pushed [] ∧
      ∀ x ∈ pushed, x.isOrdinary = true ∧ x.isBody = false) ∨
    s.owner = .available ∧ ∃ tasks, (tasks = joinTasks ∨ tasks = dropTasks) ∧
      s.act t action = { s with owner := .closing }.push t tasks := by
  have hreply (reply : Reply) : ∃ pushed, Frame s (s.reply t reply) t pushed [] ∧
      ∀ x ∈ pushed, x.isOrdinary = true ∧ x.isBody = false :=
    ⟨[], frame_reply _, by simp⟩
  have hshut (tasks : List Task) (hk : tasks = joinTasks ∨ tasks = dropTasks) :
      (∃ pushed, Frame s (s.shutDown t tasks) t pushed [] ∧
        ∀ x ∈ pushed, x.isOrdinary = true ∧ x.isBody = false) ∨
      s.owner = .available ∧ ∃ tasks', (tasks' = joinTasks ∨ tasks' = dropTasks) ∧
        s.shutDown t tasks = { s with owner := .closing }.push t tasks' := by
    unfold shutDown
    split
    · exact .inr ⟨by assumption, tasks, hk, rfl⟩
    · exact .inl (hreply _)
  cases action with
  | panic payload => exact .inl ⟨[], .refl s t, by simp⟩
  | setError message =>
    exact .inl ⟨[], (frame_setSlot _).silent (frame_reply _), by simp⟩
  | takeError => exact .inl ⟨[], (frame_setSlot _).silent (frame_reply _), by simp⟩
  | run slot result =>
    simp only [act]
    split
    · exact .inl (hreply _)
    · have hput (slots : Table Callback) (made : Nat) :
          Frame s { s with slots, made } t [] [] := .same rfl rfl rfl rfl
      refine .inl ⟨_, (hput _ _).silent (frame_push _ ht), ?_⟩
      intro x hx
      simp only [List.mem_cons, List.not_mem_nil, or_false] at hx
      rcases hx with rfl | rfl <;> exact ⟨rfl, rfl⟩
  | tryTake receiver => exact .inl ⟨[], (frame_tryTake _).silent (frame_reply _), by simp⟩
  | post order optional recipe =>
    simp only [act]
    split
    · have hmake : Frame s (s.make optional recipe).2 t [] [] := frame_make _ _
      have ht' : t ∈ (s.make optional recipe).2.threads := hmake.threads ▸ ht
      have ho : ∀ x ∈ [Task.offer order (s.make optional recipe).1], x.isOpening = true := by
        simp [Task.isOpening]
      obtain ⟨pushed, hf, hp⟩ := frame_route ht' order.via ho
      exact .inl ⟨pushed, hmake.silent hf, hp⟩
    · exact .inl (hreply _)
  | quit via =>
    simp only [act]
    split
    · exact .inl (frame_route ht via (by simp [Task.isOpening]))
    · exact .inl (hreply _)
  | threadName => exact .inl (hreply _)
  | isLoopThread => exact .inl (hreply _)
  | joinLoop => exact hshut joinTasks (.inl rfl)
  | dropLoop => exact hshut dropTasks (.inr rfl)

theorem frame_continueBody (ht : t ∈ s.threads) (closure : Nat) (name : String)
    (actions : List Action) :
    ∃ pushed events, Frame s (s.continueBody t closure name actions) t pushed events ∧
      (∀ x ∈ pushed, x.isOrdinary = true) ∧
      (∀ n name' actions', Task.body n name' actions' ∈ pushed → n = closure) ∧
      ∀ e ∈ events, e.isPlain = true := by
  match actions with
  | [] => exact ⟨[], _, frame_note _, by simp, by simp, by simp [Event.isPlain]⟩
  | action :: rest =>
    have hnext : ∃ pushed events, Frame s (s.push t (.act action ::
        (if action.isReported then [Task.report action.name] else []) ++
          [.body closure name rest])) t pushed events ∧
        (∀ x ∈ pushed, x.isOrdinary = true) ∧
        (∀ n name' actions', Task.body n name' actions' ∈ pushed → n = closure) ∧
        ∀ e ∈ events, e.isPlain = true := by
      refine ⟨_, [], frame_push _ ht, ?_, ?_, by simp⟩
      · intro x hx
        simp only [List.cons_append, List.mem_cons, List.mem_append, List.not_mem_nil,
          or_false] at hx
        rcases hx with rfl | hx | rfl
        · rfl
        · split at hx
          · rw [List.mem_singleton.mp hx]
            rfl
          · cases hx
        · rfl
      · intro n name' actions' hx
        cases action.isReported <;> simp at hx <;> exact hx.1
    cases action with
    | panic payload =>
      let records := [Log.panickedRecord name payload.text]
      have hpanic : Frame s ((s.log t records).setSlot t
          ((s.thread t).slot.set (panicMessage name payload.text))) t [] (records.map .logged) := by
        simpa using (frame_log records).trans (frame_setSlot _)
      exact ⟨[], _, hpanic, by simp, by simp, isPlain_logged⟩
    | _ => exact hnext

theorem offer_cases (s : Bridge) (t : ThreadId) (order : Order) (callback : Callback) :
    (∃ code records, callback.answeredAtOnce order.request order.result = some code ∧
      s.offer t order callback = ((s.log t records).note t [.waived callback]).push t
        [.answer order.request callback order.result code]) ∨
    callback.answeredAtOnce order.request order.result = none ∧ ∃ delay,
      s.offer t order callback =
        s.push t [.enter (.post order.request callback delay order.result)] := by
  obtain ⟨request, via, delay, result⟩ := order
  cases request with
  | post =>
    simp only [offer, Callback.answeredAtOnce]
    split
    · exact .inl ⟨_, _, rfl, rfl⟩
    · exact .inr ⟨rfl, delay, rfl⟩
  | complete =>
    simp only [offer, Callback.answeredAtOnce]
    split
    · exact .inl ⟨_, _, rfl, rfl⟩
    · exact .inr ⟨rfl, 0, rfl⟩

end operations

end Bridge
end HostBridge
