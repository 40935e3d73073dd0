import HostBridge.Proofs.Completion.Footprint

/-!
# Deeds

What each task gives way to and what is noted of it, exactly. A callback that is called opens
its body or has had its say; a body goes on with its next action; an action leads to what the
thread has to do for it.
-/
namespace HostBridge

def Trigger.admits : Trigger → Code → Bool
  | always, _ => true
  | onSuccess, code => code.isOk

def Trigger.told : Trigger → Code → Option Code
  | always, code => some code
  | onSuccess, _ => none

namespace Closure

def opens (closure : Closure) (serial : Nat) (code : Code) : List Task :=
  match closure.duty with
  | .send _ => []
  | .perform trigger body => if trigger.admits code then [.body serial closure.name body] else []

def notes (closure : Closure) (serial : Nat) (code : Code) : List Event :=
  match closure.duty with
  | .send _ => []
  | .perform trigger _ =>
    if trigger.admits code then [.started serial closure.name (trigger.told code)]
    else [.logged (Log.skippedRecord closure.name code)]

end Closure

namespace Callback

def opens (callback : Callback) (result : Int32) : List Task :=
  match callback.target with
  | .closure (some closure) => closure.opens callback.serial (Code.receive result).1
  | _ => []

def notes (callback : Callback) (result : Int32) : List Event :=
  match callback.target with
  | .blocking => []
  | .native context => [.invoked callback result, .native callback.serial context result]
  | .latch => [.invoked callback result]
  | .closure none => [.invoked callback result, .logged Log.nullContextRecord]
  | .closure (some closure) =>
    .invoked callback result ::
      (((Code.receive result).2 ++
          [Log.enteringRecord closure.name (Code.receive result).1]).map .logged ++
        closure.notes callback.serial (Code.receive result).1)

end Callback

def Action.tasks (action : Action) : List Task :=
  .act action :: if action.isReported then [.report action.name] else []

/-- What is left of a body when its next action has been begun: nothing after a panic. -/
def bodyTasks (serial : Nat) (name : String) : List Action → List Task
  | [] | .panic _ :: _ => []
  | action :: rest => action.tasks ++ [.body serial name rest]

def bodyNotes (serial : Nat) (name : String) : List Action → List Event
  | [] => [.finished serial]
  | .panic payload :: _ => [.logged (Log.panickedRecord name payload.text)]
  | _ :: _ => []

def Action.isPanic : Action → Bool
  | .panic _ => true
  | _ => false

theorem bodyTasks_cons {serial : Nat} {name : String} {action : Action} {rest : List Action}
    (h : action.isPanic = false) :
    bodyTasks serial name (action :: rest) = action.tasks ++ [.body serial name rest] := by
  cases action <;> first | rfl | cases h

theorem bodyNotes_cons {serial : Nat} {name : String} {action : Action} {rest : List Action}
    (h : action.isPanic = false) : bodyNotes serial name (action :: rest) = [] := by
  cases action <;> first | rfl | cases h

theorem Task.touch_body_cons {serial : Nat} {name : String} {action : Action}
    {rest : List Action} (h : action.isPanic = false) :
    (Task.body serial name (action :: rest)).touch = id := by
  cases action <;> first | rfl | cases h

def Via.tasks (via : Via) (tasks : List Task) : List Task :=
  match via with
  | .poster | .loop => tasks
  | .helper => [.delegate tasks]

def Task.isSilent : Task → Bool
  | .abort callback => callback.isBlocking
  | .reply _ | .awaitHelper _ | .await _ | .openLatch | .clonePoster | .dropPoster => true
  | _ => false

def Task.isRequest : Task → Bool
  | .invoke .. | .offer .. => true
  | _ => false

namespace Bridge

def actTasks (s : Bridge) : Action → List Task
  | .run slot result =>
    match s.slots.get? slot with
    | some callback => [.invoke callback result, .reply .nothing]
    | none => []
  | .post order optional recipe =>
    if s.isReachable order.via then order.via.tasks [.offer order (s.make optional recipe).1]
    else []
  | .quit via =>
    if s.isReachable via then via.tasks [.enter .quit, .reply .nothing] else []
  | .joinLoop => if s.owner = .available then joinTasks else []
  | .dropLoop => if s.owner = .available then dropTasks else []
  | _ => []

inductive Deed (s s' : Bridge) (t : ThreadId) (rest : List Task) :
    Task → List Task → List Event → Prop
  | invoke (callback : Callback) (result : Int32) :
      Deed s s' t rest (.invoke callback result) (callback.opens result) (callback.notes result)
  | body (serial : Nat) (name : String) (actions : List Action) :
      Deed s s' t rest (.body serial name actions) (bodyTasks serial name actions)
        (bodyNotes serial name actions)
  | act (action : Action) : Deed s s' t rest (.act action) (s.actTasks action) []
  | report (name : String) :
      Deed s s' t rest (.report name) [] [.acted name (s.thread t).reply]
  | silent {task : Task} : task.isSilent = true → Deed s s' t rest task [] []
  | waive {order : Order} {callback : Callback} {code : Code} (records : List Log.Record) :
      callback.answeredAtOnce order.request order.result = some code →
      Deed s s' t rest (.offer order callback)
        [.answer order.request callback order.result code]
        (records.map .logged ++ [.waived callback])
  | ask {order : Order} {callback : Callback} (delay : Nat) :
      callback.answeredAtOnce order.request order.result = none →
      Deed s s' t rest (.offer order callback)
        [.enter (.post order.request callback delay order.result)] []
  | other {task : Task} {pushed : List Task} {events : List Event} : task.isQuiet = false →
      task.isRequest = false → Effect s t rest s' [task] pushed events →
      Deed s s' t rest task pushed events

variable {s s' : Bridge} {t : ThreadId} {rest : List Task}

theorem frame_entered (ht : t ∈ s.threads) (serial : Nat) (closure : Closure) (result : Int32) :
    Frame s (s.enterClosure t serial closure result) t
      (closure.opens serial (Code.receive result).1)
      (((Code.receive result).2 ++
          [Log.enteringRecord closure.name (Code.receive result).1]).map .logged ++
        closure.notes serial (Code.receive result).1) := by
  obtain ⟨name, duty⟩ := closure
  let records := (Code.receive result).2 ++ [Log.enteringRecord name (Code.receive result).1]
  have hlog : Frame s (s.log t records) t [] (records.map .logged) := frame_log _
  have hbody (event : Event) (actions : List Action) :
      Frame s (((s.log t records).note t [event]).push t [.body serial name actions]) t
        [.body serial name actions] (records.map .logged ++ [event]) := by
    simpa using (hlog.trans (frame_note _)).trans (frame_push _ ht)
  cases duty with
  | send channel =>
    simp only [Closure.opens, Closure.notes, List.append_nil]
    exact ⟨hlog.own, hlog.others, hlog.trace, hlog.core, hlog.threads⟩
  | perform trigger actions =>
    cases trigger with
    | always => exact hbody _ actions
    | onSuccess =>
      by_cases hok : (Code.receive result).1.isOk = true
      · simpa [records, enterClosure, Closure.opens, Closure.notes, Trigger.admits, Trigger.told,
          hok] using hbody (.started serial name none) actions
      · simpa [records, enterClosure, Closure.opens, Closure.notes, Trigger.admits, hok] using
          hlog.trans (frame_log [Log.skippedRecord name (Code.receive result).1])

theorem frame_invoked (ht : t ∈ s.threads) {callback : Callback} {result : Int32}
    (h : s.invoke? t callback result = some s') :
    Frame s s' t (callback.opens result) (callback.notes result) := by
  have hcalled : Frame s (s.note t [.invoked callback result]) t [] _ := frame_note _
  unfold invoke? at h
  dsimp only at h
  split at h
  · next htarget =>
    cases h
    simpa [Callback.opens, Callback.notes, htarget] using Frame.refl s t
  · next context htarget =>
    cases h
    simpa [Callback.opens, Callback.notes, htarget] using
      hcalled.trans (frame_note [.native callback.serial context result])
  · next htarget =>
    split at h <;> cases h
    simpa [Callback.opens, Callback.notes, htarget] using hcalled
  · next htarget =>
    cases h
    simpa [Callback.opens, Callback.notes, htarget] using
      hcalled.trans (frame_log [Log.nullContextRecord])
  · next closure htarget =>
    cases h
    have hentered := frame_entered (s := s.note t [.invoked callback result]) ht callback.serial
      closure result
    simpa [Callback.opens, Callback.notes, htarget] using hcalled.trans hentered

theorem frame_body (ht : t ∈ s.threads) (serial : Nat) (name : String) (actions : List Action) :
    Frame s (s.continueBody t serial name actions) t (bodyTasks serial name actions)
      (bodyNotes serial name actions) := by
  match actions with
  | [] => exact frame_note _
  | action :: rest =>
    cases action with
    | panic payload =>
      simpa [continueBody, bodyTasks, bodyNotes] using
        (frame_log [Log.panickedRecord name payload.text]).trans (frame_setSlot _)
    | _ => exact frame_push _ ht

theorem frame_acted (ht : t ∈ s.threads) (action : Action) :
    (s.act t action).tasks t = s.actTasks action ++ s.tasks t ∧
      (s.act t action).trace = s.trace := by
  have hframe {pushed : List Task} (h : Frame s (s.act t action) t pushed []) :
      (s.act t action).tasks t = pushed ++ s.tasks t ∧ (s.act t action).trace = s.trace :=
    ⟨h.own, by simpa using h.trace⟩
  have hroute {m : Bridge} (hm : t ∈ m.threads) (via : Via) (tasks : List Task) :
      Frame m (m.route t via tasks) t (via.tasks tasks) [] := by
    cases via <;> exact frame_push _ hm
  have hshut (tasks : List Task) :
      (s.shutDown t tasks).tasks t =
          (if s.owner = .available then tasks else []) ++ s.tasks t ∧
        (s.shutDown t tasks).trace = s.trace := by
    unfold shutDown
    split
    · have hf := frame_push (s := { s with owner := .closing }) (t := t) tasks ht
      exact ⟨hf.own, by simpa using hf.trace⟩
    · have hf : Frame s (s.reply t (.missing .loop)) t [] [] := frame_reply _
      exact ⟨hf.own, by simpa using hf.trace⟩
  cases action with
  | panic payload => exact hframe (.refl s t)
  | setError message => exact hframe ((frame_setSlot _).silent (frame_reply _))
  | takeError => exact hframe ((frame_setSlot _).silent (frame_reply _))
  | run slot result =>
    cases hslot : s.slots.get? slot with
    | none =>
      apply hframe
      simpa [act, actTasks, hslot] using frame_reply (s := s) (t := t) (.missing .slot)
    | some callback =>
      apply hframe
      have hput : Frame s { s with
          slots := s.slots.put slot (.sentinel s.made), made := s.made + 1 } t [] [] :=
        .same rfl rfl rfl rfl
      simpa [act, actTasks, hslot] using hput.silent (frame_push _ ht)
  | tryTake receiver => exact hframe ((frame_tryTake _).silent (frame_reply _))
  | post order optional recipe =>
    apply hframe
    simp only [act, actTasks]
    split
    · have hmake : Frame s (s.make optional recipe).2 t [] [] := frame_make _ _
      exact hmake.silent (hroute (hmake.threads ▸ ht) _ _)
    · exact frame_reply _
  | quit via =>
    apply hframe
    simp only [act, actTasks]
    split
    · exact hroute ht _ _
    · exact frame_reply _
  | joinLoop => exact hshut joinTasks
  | dropLoop => exact hshut dropTasks
  | threadName => exact hframe (frame_reply _)
  | isLoopThread => exact hframe (frame_reply _)

theorem Turn.unique {popped pushed pushed' : List Task} {events events' : List Event}
    (h : Turn s s' t popped pushed rest events) (hown : s'.tasks t = pushed' ++ rest)
    (htrace : s'.trace = s.trace ++ events'.map (t, ·)) : pushed = pushed' ∧ events = events' := by
  refine ⟨List.append_cancel_right (h.after.symm.trans hown), ?_⟩
  have hmap := List.append_cancel_left (h.trace.symm.trans htrace)
  exact (List.map_inj_right fun _ _ he => congrArg Prod.snd he).mp hmap

theorem actTasks_setTasks (action : Action) :
    (s.setTasks t rest).actTasks action = s.actTasks action := by
  have hreach (via : Via) : (s.setTasks t rest).isReachable via = s.isReachable via := by
    cases t <;> cases via <;> rfl
  cases action with
  | post order optional recipe =>
    have hmake : ((s.setTasks t rest).make optional recipe).1 = (s.make optional recipe).1 := by
      cases recipe with
      | channel name receiver =>
        simp only [make, assemble, abandon, receivers_setTasks]
        cases s.receivers.get? receiver <;> simp only [channels_setTasks, made_setTasks]
      | _ => simp only [make, assemble, made_setTasks]
    simp only [actTasks, hreach, hmake]
  | quit via => simp only [actTasks, hreach]
  | _ => cases t <;> rfl

theorem deed_step? {task : Task} (hb : s.tasks t = task :: rest) (h : s.step? t = some s') :
    ∃ pushed events, Turn s s' t [task] pushed rest events ∧
      Deed s s' t rest task pushed events := by
  obtain ⟨pushed, events, hturn⟩ := turn_step? hb h
  refine ⟨pushed, events, hturn, ?_⟩
  have ht : t ∈ (s.setTasks t rest).threads := mem_threads_setTasks hb
  have hp : (s.setTasks t rest).perform? t task = some s' := step?_eq hb ▸ h
  -- A frame over what is left of the stack determines the turn.
  have hexact {pushed' : List Task} {events' : List Event}
      (hf : Frame (s.setTasks t rest) s' t pushed' events') :
      pushed = pushed' ∧ events = events' :=
    hturn.unique (by rw [hf.own, tasks_setTasks_of_cons hb]) (by rw [hf.trace, trace_setTasks])
  have hsilent (hs : task.isSilent = true) (hf : Frame (s.setTasks t rest) s' t [] []) :
      Deed s s' t rest task pushed events := by
    obtain ⟨rfl, rfl⟩ := hexact hf
    exact .silent hs
  have hother (hq : task.isQuiet = false) (hr : task.isRequest = false) :
      Deed s s' t rest task pushed events := .other hq hr hturn.effect
  cases task with
  | invoke callback result =>
    obtain ⟨rfl, rfl⟩ := hexact (frame_invoked ht hp)
    exact .invoke callback result
  | body serial name actions =>
    cases hp
    obtain ⟨rfl, rfl⟩ := hexact (frame_body ht serial name actions)
    exact .body serial name actions
  | act action =>
    cases hp
    obtain ⟨hown, htrace⟩ := frame_acted ht action
    rw [tasks_setTasks_of_cons hb, actTasks_setTasks] at hown
    rw [trace_setTasks] at htrace
    have hquiet : ((s.setTasks t rest).act t action).trace =
        s.trace ++ ([] : List Event).map (t, ·) := by simpa using htrace
    obtain ⟨rfl, rfl⟩ := hturn.unique hown hquiet
    exact .act action
  | report name =>
    cases hp
    obtain ⟨rfl, rfl⟩ := hexact (frame_note _)
    have hset : (s.setTasks t rest).thread t = { s.thread t with tasks := rest } :=
      thread_updateThread_self s t _ (mem_threads_of_tasks s t hb)
    rw [hset]
    exact .report name
  | abort callback =>
    by_cases hb : callback.isBlocking = true
    · simp only [perform?, hb, if_true, Option.some.injEq] at hp
      subst hp
      exact hsilent hb (.refl _ t)
    · exact hother (by simpa [Task.isQuiet] using hb) rfl
  | awaitHelper index =>
    simp only [perform?] at hp
    split at hp
    · cases hp
      exact hsilent rfl (frame_reply _)
    · cases hp
  | reply reply => cases hp; exact hsilent rfl (frame_reply _)
  | await channel => exact hsilent rfl (frame_await? hp)
  | openLatch | clonePoster | dropPoster => cases hp; exact hsilent rfl (.same rfl rfl rfl rfl)
  | offer order callback =>
    cases hp
    rcases offer_cases (s.setTasks t rest) t order callback with
      ⟨code, records, hnow, hoffer⟩ | ⟨hlater, delay, hoffer⟩
    · have hnoted := (frame_log (s := s.setTasks t rest) (t := t) records).trans
        (frame_note [.waived callback])
      have hf := hnoted.trans
        (frame_push [.answer order.request callback order.result code] ht)
      rw [← hoffer] at hf
      obtain ⟨rfl, rfl⟩ := hexact hf
      simpa using Deed.waive records hnow
    · have hf := frame_push [.enter (.post order.request callback delay order.result)] ht
      rw [← hoffer] at hf
      obtain ⟨rfl, rfl⟩ := hexact hf
      exact .ask delay hlater
  | enter | decide | leave | log | answer | receive | dispatch | delegate | awaitLoop
  | discardLoop => exact hother rfl rfl

end Bridge
end HostBridge
