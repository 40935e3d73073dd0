import HostBridge.Proofs.Completion.Deed

/-!
# Motions

A move with the name of the thread that makes it. What the other threads do passes by a
thread that is busy: its tasks, its error slot and what it has noted stay as they are.
-/
namespace HostBridge

inductive Motion
  | step (thread : ThreadId)
  | call (thread : ThreadId) (call : Call)
  | enlist

def Motion.thread? : Motion → Option ThreadId
  | step t | call t _ => some t
  | enlist => none

def Call.touch : Call → ErrorSlot → ErrorSlot
  | .slotCall call, slot => (slot.answer call).2
  | _, slot => slot

inductive Moved : Bridge → Motion → Bridge → Prop
  | step {s s' : Bridge} {t : ThreadId} : s.step? t = some s' → Moved s (.step t) s'
  | call {s : Bridge} {t : ThreadId} (call : Call) :
      s.IsFree t → Moved s (.call t call) (s.call t call)
  | enlist (s : Bridge) : Moved s .enlist s.enlist

namespace Bridge

def noted (s : Bridge) (t : ThreadId) : List Event :=
  (s.trace.filter fun entry => entry.1 == t).map (·.2)

variable {s s' : Bridge} {t u : ThreadId}

def storeWithout (s : Bridge) (slot : Nat) : Store :=
  match s.slots.get? slot with
  | some _ => { s.store with slots := s.slots.erase slot }
  | none => s.store

def storeCalled (s : Bridge) : Call → Store
  | .put slot optional recipe =>
    { (s.make optional recipe).2.store with
      slots := s.slots.put slot (s.make optional recipe).1 }
  | .change slot target flags =>
    match s.slots.get? slot with
    | some callback =>
      { s.store with slots := s.slots.put slot ⟨callback.serial, target, flags⟩ }
    | none => s.store
  | .offer slot _ | .invoke slot _ | .abort slot | .forget slot => s.storeWithout slot
  | .poll receiver => (s.poll receiver).2.store
  | .await receiver =>
    match s.receivers.get? receiver with
    | some _ => { s.store with receivers := s.receivers.erase receiver }
    | none => s.store
  | .dropReceiver receiver => (s.abandon receiver).store
  | _ => s.store

def callTasks (s : Bridge) : Call → List Task
  | .act action => [.act action]
  | .offer slot order => (s.slots.get? slot).elim [] fun callback => [.offer order callback]
  | .invoke slot result => (s.slots.get? slot).elim [] fun callback => [.invoke callback result]
  | .abort slot => (s.slots.get? slot).elim [] fun callback => [.abort callback]
  | .await receiver => (s.receivers.get? receiver).elim [] fun channel => [.await channel]
  | .clonePoster => [.clonePoster]
  | .dropPoster => [.dropPoster]
  | .openLatch => [.openLatch]
  | _ => []

theorem store_takeOut (slot : Nat) (tasks : Callback → List Task) :
    (s.takeOut t slot tasks).store = s.storeWithout slot := by
  unfold takeOut storeWithout
  cases s.slots.get? slot with
  | none => exact store_reply ..
  | some callback => exact store_push ..

theorem store_call (call : Call) : (s.call t call).store = s.storeCalled call := by
  cases call with
  | put slot optional recipe => simp only [Bridge.call, storeCalled, store, slots_make]
  | change slot target flags =>
    simp only [Bridge.call, storeCalled]
    cases s.slots.get? slot with
    | none => exact store_reply ..
    | some callback => rfl
  | await receiver =>
    simp only [Bridge.call, storeCalled]
    cases s.receivers.get? receiver with
    | none => exact store_reply ..
    | some channel => exact store_push ..
  | poll receiver => exact store_reply ..
  | dropReceiver | closeLatch => rfl
  | slotCall call => simp [Bridge.call, storeCalled]
  | offer | invoke | abort | forget => exact store_takeOut ..
  | act | clonePoster | dropPoster | openLatch => exact store_push ..

theorem tasks_takeOut (ht : t ∈ s.threads) (slot : Nat) (make : Callback → List Task) :
    (s.takeOut t slot make).tasks t = (s.slots.get? slot).elim [] make ++ s.tasks t := by
  unfold takeOut
  cases s.slots.get? slot with
  | none => exact (frame_reply _).own
  | some callback =>
    exact (frame_push (s := { s with slots := s.slots.erase slot }) (make callback) ht).own

theorem tasks_call (ht : t ∈ s.threads) (call : Call) :
    (s.call t call).tasks t = s.callTasks call ++ s.tasks t := by
  cases call with
  | put slot optional recipe => exact (frame_make optional recipe).own
  | change slot target flags =>
    simp only [Bridge.call, callTasks]
    split
    · exact (frame_reply _).own
    · rfl
  | await receiver =>
    simp only [Bridge.call, callTasks]
    cases s.receivers.get? receiver with
    | none => exact (frame_reply _).own
    | some channel =>
      exact (frame_push (s := { s with receivers := s.receivers.erase receiver })
        [.await channel] ht).own
  | poll receiver => exact ((frame_poll receiver).silent (frame_reply _)).own
  | dropReceiver receiver => exact (frame_abandon receiver).own
  | closeLatch => rfl
  | slotCall call => exact ((frame_setSlot _).silent (frame_reply _)).own
  | forget slot =>
    refine (tasks_takeOut ht slot fun _ => []).trans ?_
    cases s.slots.get? slot <;> rfl
  | offer | invoke | abort => exact tasks_takeOut ht ..
  | act | clonePoster | dropPoster | openLatch => exact (frame_push _ ht).own

theorem trace_call (hfree : s.IsFree t) (call : Call) : (s.call t call).trace = s.trace := by
  obtain ⟨pushed, hframe, -⟩ := frame_call hfree.mem_threads call
  simpa using hframe.trace

theorem errorSlots_takeOut (slot : Nat) (tasks : Callback → List Task) :
    (s.takeOut t slot tasks).errorSlots = s.errorSlots := by
  unfold takeOut
  split
  · exact errorSlots_reply ..
  · exact errorSlots_push ..

theorem errorSlots_call (ht : t ∈ s.threads) (call : Call) :
    (s.call t call).errorSlots =
      Function.update s.errorSlots t (call.touch (s.errorSlots t)) := by
  have hsame (heq : (s.call t call).errorSlots = s.errorSlots) (hidle : call.touch = id) :
      (s.call t call).errorSlots =
        Function.update s.errorSlots t (call.touch (s.errorSlots t)) := by
    rw [hidle, heq]
    exact (Function.update_eq_self t s.errorSlots).symm
  cases call with
  | slotCall call =>
    simp only [Bridge.call, errorSlots_reply, errorSlots_setSlot s t _ ht]
    rfl
  | put slot optional recipe => exact hsame (errorSlots_make s optional recipe) rfl
  | change slot target flags =>
    refine hsame ?_ rfl
    simp only [Bridge.call]
    split
    · exact errorSlots_reply ..
    · rfl
  | poll receiver =>
    refine hsame ?_ rfl
    simp only [Bridge.call, errorSlots_reply, poll]
    split
    · rfl
    · split <;> rfl
  | await receiver =>
    refine hsame ?_ rfl
    simp only [Bridge.call]
    split
    · exact errorSlots_reply ..
    · exact errorSlots_push ..
  | dropReceiver receiver => exact hsame (s.errorSlots_abandon receiver) rfl
  | closeLatch => exact hsame rfl rfl
  | offer | invoke | abort | forget => exact hsame (errorSlots_takeOut ..) rfl
  | act | clonePoster | dropPoster | openLatch => exact hsame (errorSlots_push ..) rfl

theorem Turn.noted {popped pushed rest : List Task} {events : List Event}
    (h : Turn s s' t popped pushed rest events) :
    s'.noted t = s.noted t ++ events ∧ ∀ u, u ≠ t → s'.noted u = s.noted u := by
  constructor
  · simp [Bridge.noted, h.trace, List.filter_map, Function.comp_def]
  · intro u hu
    simp [Bridge.noted, h.trace, List.filter_map, Function.comp_def, Ne.symm hu]

end Bridge

open Bridge

theorem Moved.move {s s' : Bridge} {m : Motion} (h : Moved s m s') : Move s s' := by
  cases h with
  | step h => exact .step h
  | call call hfree => exact .call call hfree
  | enlist => exact .enlist s

theorem Move.moved {s s' : Bridge} (h : Move s s') : ∃ m, Moved s m s' := by
  cases h with
  | step h => exact ⟨_, .step h⟩
  | call call hfree => exact ⟨_, .call call hfree⟩
  | enlist => exact ⟨_, .enlist s⟩

theorem Moved.aside {s s' : Bridge} {m : Motion} {t : ThreadId} (h : Moved s m s')
    (hm : m.thread? ≠ some t) (hbusy : s.tasks t ≠ []) :
    s'.tasks t = s.tasks t ∧ s'.noted t = s.noted t ∧ s'.errorSlots t = s.errorSlots t := by
  cases h with
  | @step _ u h =>
    have hu : t ≠ u := fun he => hm (by rw [he]; rfl)
    obtain ⟨task, rest, hb⟩ := exists_task h
    obtain ⟨pushed, events, hturn⟩ := turn_step? hb h
    refine ⟨?_, hturn.noted.2 t hu, ?_⟩
    · rcases hturn.others t hu with hsame | ⟨hidle, -⟩
      · exact hsame
      · exact absurd hidle hbusy
    · rw [errorSlots_step? hb h, Function.update_of_ne hu]
  | @call u call hfree =>
    have hu : t ≠ u := fun he => hm (by rw [he]; rfl)
    obtain ⟨pushed, hf, -⟩ := frame_call hfree.mem_threads call
    refine ⟨hf.others t hu, ?_, ?_⟩
    · simp only [noted, trace_call hfree]
    · rw [errorSlots_call hfree.mem_threads, Function.update_of_ne hu]
  | enlist =>
    have hidle : t ≠ .helper s.helpers.length := by
      intro he
      apply hbusy
      simp [he, tasks, thread, Thread.idle]
    refine ⟨?_, rfl, congrFun (errorSlots_enlist s []) t⟩
    exact (tasks_enlist s [] t).trans (if_neg hidle)

theorem Moved.trace {s s' : Bridge} {m : Motion} (h : Moved s m s') :
    s'.trace = s.trace ∨ ∃ t task rest pushed events, s.tasks t = task :: rest ∧
      s.step? t = some s' ∧ Deed s s' t rest task pushed events ∧
        s'.trace = s.trace ++ events.map (t, ·) := by
  cases h with
  | @step _ t h =>
    obtain ⟨task, rest, hb⟩ := exists_task h
    obtain ⟨pushed, events, hturn, hdeed⟩ := deed_step? hb h
    exact .inr ⟨t, task, rest, pushed, events, hb, h, hdeed, hturn.trace⟩
  | call call hfree => exact .inl (trace_call hfree call)
  | enlist => exact .inl rfl

end HostBridge
