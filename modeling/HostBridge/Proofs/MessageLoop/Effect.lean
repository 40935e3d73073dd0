import HostBridge.Proofs.MessageLoop.Frame

/-!
# What a move can do

A move changes the tasks of one thread, adds events of that thread to the trace, and may
change what the threads share of the loop. `Move.turn` says once which tasks give way to
which, what is noted and what becomes of the loop; all invariants are drawn from it.
-/
namespace HostBridge
namespace Bridge

/-- What a thread does with a task that gives way to others, and what becomes of the loop.
The tasks that are left on the thread are `rest`. -/
inductive Effect (s : Bridge) (t : ThreadId) (rest : List Task) (s' : Bridge) :
    List Task → List Task → List Event → Prop
  | call {pushed} : (∀ x ∈ pushed, x.isOpening = true) →
      (pushed = [] ∨ rest = [] ∧ t ≠ .loop ∨
        ∃ n name actions more, rest = .body n name actions :: more) →
      s'.core = s.core →
      Effect s t rest s' [] pushed []
  | ordinary {task pushed events} : task.isQuiet = true → (∀ x ∈ pushed, x.isOrdinary = true) →
      (∀ n name actions, Task.body n name actions ∈ pushed →
        ∃ name actions, task = .body n name actions) →
      (∀ e ∈ events, e.isPlain = true) → s'.core = s.core →
      Effect s t rest s' [task] pushed events
  | delegate {tasks index} : s'.core = s.core →
      Effect s t rest s' [.delegate tasks] [.awaitHelper index] []
  | shutDown {action tasks} : tasks = joinTasks ∨ tasks = dropTasks → s.owner = .available →
      s'.core = { s.core with owner := .closing } → Effect s t rest s' [.act action] tasks []
  | invoke {callback result pushed events} : callback.isBlocking = false →
      (pushed = [] ∨ ∃ name actions, pushed = [.body callback.serial name actions]) →
      (∀ e ∈ events, e.isPlain = true) → s'.core = s.core →
      Effect s t rest s' [.invoke callback result] pushed (.invoked callback result :: events)
  | abort {callback record} : callback.isBlocking = false → s'.core = s.core →
      Effect s t rest s' [.abort callback] [.invoke callback NamedCode.aborted.number]
        [.aborted callback, .logged record]
  | waive {order callback code events} :
      callback.answeredAtOnce order.request order.result = some code →
      (∀ e ∈ events, e.isPlain = true) → s'.core = s.core →
      Effect s t rest s' [.offer order callback]
        [.answer order.request callback order.result code] (events ++ [.waived callback])
  | ask {order callback delay} :
      callback.answeredAtOnce order.request order.result = none → s'.core = s.core →
      Effect s t rest s' [.offer order callback]
        [.enter (.post order.request callback delay order.result)] []
  | enter {errand} : s.gate = none → s'.core = { s.core with gate := some t } →
      Effect s t rest s' [.enter errand] [.decide errand] []
  | accept {request callback delay result} : s.quitting = false →
      (s.setTasks t rest).hasStopped = false →
      s'.core = { s.core with queue := s.queue ++ [.run callback delay result] } →
      Effect s t rest s' [.decide (.post request callback delay result)]
        [.leave, .answer request callback result (acceptance request)] [.accepted callback result]
  | refuse {request callback delay result record} :
      s.quitting = true ∨ (s.setTasks t rest).hasStopped = true → s'.core = s.core →
      Effect s t rest s' [.decide (.post request callback delay result)]
        [.log record, .leave, .abort callback, .answer request callback result (.named .failed)]
        [.refused callback]
  | quit : s.quitting = false → (s.setTasks t rest).hasStopped = false →
      s'.core = { s.core with quitting := true, queue := s.queue ++ [.quit] } →
      Effect s t rest s' [.decide .quit] [.leave] [.quitQueued]
  | quitLost : s.quitting = false → (s.setTasks t rest).hasStopped = true →
      s'.core = { s.core with quitting := true } → Effect s t rest s' [.decide .quit] [.leave] []
  | quitAgain : s.quitting = true → s'.core = s.core →
      Effect s t rest s' [.decide .quit] [.leave] []
  | log {record} : s'.core = s.core → Effect s t rest s' [.log record] [] [.logged record]
  | leave : s'.core = { s.core with gate := none } → Effect s t rest s' [.leave] [] []
  | answer {request callback result code} : s'.core = s.core →
      Effect s t rest s' [.answer request callback result code] []
        [.answered request callback result code]
  | take {callback delay result queue} : s.queue = .run callback delay result :: queue →
      s'.core = { s.core with queue } →
      Effect s t rest s' [.receive] [.dispatch callback delay result, .receive] []
  | stop {queue} : s.queue = .quit :: queue → s'.core = { s.core with queue } →
      Effect s t rest s' [.receive] [] []
  | disconnect : s.queue = [] → s.isDisconnected = true → s'.core = s.core →
      Effect s t rest s' [.receive] [] []
  | dispatch {callback delay result} : s'.core = s.core →
      Effect s t rest s' [.dispatch callback delay result] [.invoke callback result]
        [.dispatched callback result]
  | awaitLoop : t = .loop ∨ (s.setTasks t rest).hasStopped = true → s'.core = s.core →
      Effect s t rest s' [.awaitLoop] [] []
  | discard : s'.core = { s.core with owner := .gone } →
      Effect s t rest s' [.discardLoop] [] [.discarded]

/-- One turn of a thread: some tasks of it give way to others, and the other threads keep
theirs, but for a new one that is handed some. -/
structure Turn (s s' : Bridge) (t : ThreadId) (popped pushed rest : List Task)
    (events : List Event) : Prop where
  before : s.tasks t = popped ++ rest
  after : s'.tasks t = pushed ++ rest
  others : ∀ u, u ≠ t → s'.tasks u = s.tasks u ∨
    s.tasks u = [] ∧ u ≠ .loop ∧ popped = [.delegate (s'.tasks u)]
  trace : s'.trace = s.trace ++ events.map (t, ·)
  effect : Effect s t rest s' popped pushed events

section turns
variable {s s' : Bridge} {t : ThreadId} {rest : List Task}

theorem tasks_setTasks_self (ht : t ∈ s.threads) : (s.setTasks t rest).tasks t = rest := by
  simp only [tasks, setTasks]
  rw [thread_updateThread_self _ _ _ ht]

theorem tasks_setTasks_ne {u : ThreadId} (hu : u ≠ t) :
    (s.setTasks t rest).tasks u = s.tasks u := by
  simp only [tasks, setTasks]
  rw [thread_updateThread_ne _ _ _ hu]

theorem Turn.ofFrame {m : Bridge} {popped pushed : List Task} {events : List Event}
    (hb : s.tasks t = popped ++ rest) (hp : popped ≠ [])
    (hm : m.tasks = (s.setTasks t rest).tasks) (htrace : m.trace = s.trace)
    (hf : Frame m s' t pushed events) (he : Effect s t rest s' popped pushed events) :
    Turn s s' t popped pushed rest events where
  before := hb
  after := by
    have ht : t ∈ s.threads := by
      cases popped with
      | nil => exact absurd rfl hp
      | cons task more => exact mem_threads_of_tasks _ _ (by rw [hb]; rfl)
    rw [hf.own, hm, tasks_setTasks_self ht]
  others u hu := by
    rw [hf.others u hu, hm, tasks_setTasks_ne hu]
    exact .inl rfl
  trace := by rw [hf.trace, htrace]
  effect := he

@[simp]
theorem core_setTasks : (s.setTasks t rest).core = s.core := core_updateThread ..

@[simp]
theorem trace_setTasks : (s.setTasks t rest).trace = s.trace := trace_updateThread ..

@[simp]
theorem queue_setTasks : (s.setTasks t rest).queue = s.queue := congrArg Core.queue core_setTasks

@[simp]
theorem quitting_setTasks : (s.setTasks t rest).quitting = s.quitting :=
  congrArg Core.quitting core_setTasks

@[simp]
theorem gate_setTasks : (s.setTasks t rest).gate = s.gate := congrArg Core.gate core_setTasks

@[simp]
theorem owner_setTasks : (s.setTasks t rest).owner = s.owner := congrArg Core.owner core_setTasks

@[simp]
theorem isDisconnected_setTasks : (s.setTasks t rest).isDisconnected = s.isDisconnected := by
  cases t <;> rfl

@[simp]
theorem threads_setTasks : (s.setTasks t rest).threads = s.threads := threads_updateThread ..

theorem mem_threads_setTasks {task : Task} (hb : s.tasks t = task :: rest) :
    t ∈ (s.setTasks t rest).threads := by
  rw [threads_setTasks]
  exact mem_threads_of_tasks _ _ hb

theorem tasks_setTasks_of_cons {task : Task} (hb : s.tasks t = task :: rest) :
    (s.setTasks t rest).tasks t = rest :=
  tasks_setTasks_self (mem_threads_of_tasks _ _ hb)

theorem Turn.ordinary {task : Task} {pushed : List Task} {events : List Event}
    (hb : s.tasks t = task :: rest) (ho : task.isQuiet = true)
    (hf : Frame (s.setTasks t rest) s' t pushed events)
    (hp : ∀ x ∈ pushed, x.isOrdinary = true ∧ x.isBody = false)
    (he : ∀ e ∈ events, e.isPlain = true) : Turn s s' t [task] pushed rest events := by
  refine .ofFrame hb (by simp) rfl trace_setTasks hf
    (.ordinary ho (fun x hx => (hp x hx).1) ?_ he (hf.core.trans core_setTasks))
  intro n name actions hx
  cases (hp _ hx).2

theorem turn_offer {order : Order} {callback : Callback}
    (hb : s.tasks t = .offer order callback :: rest) (ht : t ∈ (s.setTasks t rest).threads) :
    ∃ pushed events, Turn s ((s.setTasks t rest).offer t order callback) t
      [.offer order callback] pushed rest events := by
  rcases offer_cases (s.setTasks t rest) t order callback with
    ⟨code, records, hc, heq⟩ | ⟨hc, delay, heq⟩
  · rw [heq]
    have hnote := (frame_log (s := s.setTasks t rest) (t := t) records).trans
      (frame_note [.waived callback])
    have hf := hnote.trans (frame_push [.answer order.request callback order.result code] ht)
    simp only [List.append_nil] at hf
    exact ⟨_, _, .ofFrame hb (by simp) rfl trace_setTasks hf
      (.waive hc isPlain_logged (hf.core.trans core_setTasks))⟩
  · rw [heq]
    have hf := frame_push [.enter (.post order.request callback delay order.result)] ht
    exact ⟨_, _, .ofFrame hb (by simp) rfl trace_setTasks hf
      (.ask hc (hf.core.trans core_setTasks))⟩

theorem turn_decide {errand : Errand} (hb : s.tasks t = .decide errand :: rest)
    (ht : t ∈ (s.setTasks t rest).threads) :
    ∃ pushed events, Turn s ((s.setTasks t rest).decide t errand) t [.decide errand] pushed rest
      events := by
  have hcore : (s.setTasks t rest).core = s.core := core_setTasks
  cases errand with
  | post request callback delay result =>
    have hrefuse (record : Log.Record)
        (hr : s.quitting = true ∨ (s.setTasks t rest).hasStopped = true) :
        ∃ pushed events, Turn s ((s.setTasks t rest).refuse t request callback result record) t
          [.decide (.post request callback delay result)] pushed rest events := by
      have hf := (frame_note (s := s.setTasks t rest) (t := t) [.refused callback]).trans
        (frame_push [.log record, .leave, .abort callback,
          .answer request callback result (.named .failed)] ht)
      simp only [List.append_nil] at hf
      exact ⟨_, _, .ofFrame hb (by simp) rfl trace_setTasks hf
        (.refuse hr (hf.core.trans hcore))⟩
    simp only [Bridge.decide, quitting_setTasks]
    split
    · next hq => exact hrefuse _ (.inl hq)
    · next hq =>
      split
      · next hg => exact hrefuse _ (.inr hg)
      · next hg =>
        have hq : s.quitting = false := by simpa using hq
        have hg : (s.setTasks t rest).hasStopped = false := by simpa using hg
        let m := (s.setTasks t rest).enqueue (.run callback delay result)
        have hf := (frame_note (s := m) (t := t) [.accepted callback result]).trans
          (frame_push [.leave, .answer request callback result (acceptance request)] ht)
        simp only [List.append_nil] at hf
        refine ⟨_, _, .ofFrame (m := m) hb (by simp) rfl trace_setTasks hf (.accept hq hg ?_)⟩
        rw [hf.core, ← hcore]
        simp [m, enqueue, core]
  | quit =>
    simp only [Bridge.decide, quitting_setTasks]
    split
    · next hq =>
      have hf := frame_push (s := s.setTasks t rest) (t := t) [.leave] ht
      exact ⟨_, _, .ofFrame hb (by simp) rfl trace_setTasks hf
        (.quitAgain hq (hf.core.trans hcore))⟩
    · next hq =>
      have hq : s.quitting = false := by simpa using hq
      split
      · next hg =>
        let m := { s.setTasks t rest with quitting := true }
        have hf := frame_push (s := m) (t := t) [.leave] ht
        refine ⟨_, _, .ofFrame (m := m) hb (by simp) rfl trace_setTasks hf
          (.quitLost hq hg ?_)⟩
        rw [hf.core, ← hcore]
        rfl
      · next hg =>
        have hg : (s.setTasks t rest).hasStopped = false := by simpa using hg
        let m := { (s.setTasks t rest).enqueue .quit with quitting := true }
        let n := { ((s.setTasks t rest).enqueue .quit).note t [.quitQueued] with quitting := true }
        have hnote : Frame m n t [] [.quitQueued] := frame_note _
        have hf := hnote.trans (frame_push [.leave] ht)
        simp only [List.append_nil] at hf
        refine ⟨_, _, .ofFrame (m := m) hb (by simp) rfl trace_setTasks hf (.quit hq hg ?_)⟩
        refine hf.core.trans ?_
        rw [← hcore]
        simp [m, enqueue, core]

theorem turn_receive? (hb : s.tasks t = .receive :: rest)
    (ht : t ∈ (s.setTasks t rest).threads) (h : (s.setTasks t rest).receive? t = some s') :
    ∃ pushed events, Turn s s' t [.receive] pushed rest events := by
  have hcore : (s.setTasks t rest).core = s.core := core_setTasks
  have hqueue : s.queue = (s.setTasks t rest).queue := queue_setTasks.symm
  unfold receive? at h
  split at h
  · next hq =>
    split at h
    · next hd =>
      cases h
      exact ⟨[], [], .ofFrame hb (by simp) rfl trace_setTasks (.refl _ t)
        (.disconnect (by simpa using hq) (by simpa using hd) hcore)⟩
    · cases h
  · next queue hq =>
    cases h
    let m := { s.setTasks t rest with queue }
    refine ⟨[], [], .ofFrame (m := m) hb (by simp) rfl trace_setTasks (.refl _ t)
      (.stop (hqueue.trans hq) ?_)⟩
    rw [← hcore]
    rfl
  · next callback delay result queue hq =>
    cases h
    let m := { s.setTasks t rest with queue }
    have hf := frame_push (s := m) (t := t) [.dispatch callback delay result, .receive] ht
    refine ⟨_, [], .ofFrame (m := m) hb (by simp) rfl trace_setTasks hf
      (.take (hqueue.trans hq) ?_)⟩
    rw [hf.core, ← hcore]
    rfl

theorem frame_await? {channel : Nat} (h : s.await? t channel = some s') :
    Frame s s' t [] [] := by
  unfold await? at h
  split at h
  · cases h
  · next receipt resolved _ _ =>
    cases h
    have hset : Frame s { s with channels := s.channels.set channel resolved } t [] [] :=
      .same rfl rfl rfl rfl
    exact hset.silent (frame_reply _)
  · cases h
    exact frame_reply _

theorem turn_act {action : Action} (hb : s.tasks t = .act action :: rest)
    (ht : t ∈ (s.setTasks t rest).threads) :
    ∃ pushed events, Turn s ((s.setTasks t rest).act t action) t [.act action] pushed rest
      events := by
  rcases frame_act ht action with ⟨pushed, hf, hp⟩ | ⟨howner, tasks, hk, heq⟩
  · exact ⟨pushed, [], .ordinary hb rfl hf hp (by simp)⟩
  · rw [heq]
    let m := { s.setTasks t rest with owner := .closing }
    have hf := frame_push (s := m) (t := t) tasks ht
    refine ⟨tasks, [], .ofFrame (m := m) hb (by simp) rfl trace_setTasks hf
      (.shutDown hk (by simpa using howner) ?_)⟩
    have hcore : (s.setTasks t rest).core = s.core := core_setTasks
    rw [hf.core, ← hcore]
    rfl

theorem turn_delegate {tasks : List Task} (hb : s.tasks t = .delegate tasks :: rest)
    (ht : t ∈ (s.setTasks t rest).threads) {m : Bridge} {index : Nat}
    (hm : m = (s.setTasks t rest).push t [.awaitHelper index]) :
    Turn s { m with helpers := m.helpers ++ [{ Thread.idle with tasks }] } t
      [.delegate tasks] [.awaitHelper index] rest [] := by
  have hf : Frame (s.setTasks t rest) m t [.awaitHelper index] [] := hm ▸ frame_push _ ht
  -- The number of the new thread was free before.
  have hfree : s.tasks (.helper m.helpers.length) = [] := by
    have hlen : m.helpers.length = s.helpers.length := by
      have h := congrArg List.length (hf.threads.trans threads_setTasks)
      simp only [threads, List.length_append, List.length_map, List.length_range,
        List.length_cons, List.length_nil] at h
      omega
    simp [Bridge.tasks, thread, hlen, Thread.idle]
  have hne : t ≠ .helper m.helpers.length := by
    intro he
    rw [← he, hb] at hfree
    cases hfree
  refine ⟨hb, ?_, ?_, ?_, .delegate ?_⟩
  · rw [tasks_enlist, if_neg hne, hf.own, tasks_setTasks_of_cons hb]
  · intro u hu
    rw [tasks_enlist]
    split
    · next he => exact .inr ⟨he ▸ hfree, by simp [he], rfl⟩
    · rw [hf.others u hu, tasks_setTasks_ne hu]
      exact .inl rfl
  · exact hf.trace.trans (by simp)
  · exact hf.core.trans core_setTasks

theorem turn_perform? {task : Task} (hb : s.tasks t = task :: rest)
    (h : (s.setTasks t rest).perform? t task = some s') :
    ∃ pushed events, Turn s s' t [task] pushed rest events := by
  have ht : t ∈ (s.setTasks t rest).threads := mem_threads_setTasks hb
  have hcore : (s.setTasks t rest).core = s.core := core_setTasks
  have hquiet (hs : Frame (s.setTasks t rest) s' t [] []) (ho : task.isQuiet = true) :
      ∃ pushed events, Turn s s' t [task] pushed rest events :=
    ⟨[], [], .ordinary hb ho hs (by simp) (by simp)⟩
  cases task with
  | invoke callback result =>
    cases hc : callback.isBlocking with
    | true =>
      have hs : (s.setTasks t rest).invoke? t callback result = some (s.setTasks t rest) := by
        obtain ⟨serial, target, flags⟩ := callback
        cases target <;> first | rfl | cases hc
      cases hs.symm.trans h
      exact hquiet (.refl _ t) hc
    | false =>
      obtain ⟨pushed, events, hf, hp, he⟩ := frame_invoke? ht hc h
      exact ⟨pushed, _, .ofFrame hb (by simp) rfl trace_setTasks hf
        (.invoke hc hp he (hf.core.trans hcore))⟩
  | abort callback =>
    simp only [perform?] at h
    cases hc : callback.isBlocking with
    | true =>
      simp only [hc, if_true] at h
      cases h
      exact hquiet (.refl _ t) hc
    | false =>
      simp only [hc] at h
      cases h
      have hnote := (frame_note (s := s.setTasks t rest) (t := t) [.aborted callback]).trans
        (frame_log [Log.abortingRecord])
      have hf := hnote.trans (frame_push [.invoke callback NamedCode.aborted.number] ht)
      simp only [List.append_nil] at hf
      exact ⟨_, _, .ofFrame hb (by simp) rfl trace_setTasks hf (.abort hc (hf.core.trans hcore))⟩
  | body closure name actions =>
    cases h
    obtain ⟨pushed, events, hf, hp, hn, he⟩ := frame_continueBody ht closure name actions
    refine ⟨pushed, events, .ofFrame hb (by simp) rfl trace_setTasks hf
      (.ordinary rfl hp ?_ he (hf.core.trans hcore))⟩
    intro n name' actions' hx
    exact ⟨name, actions, by rw [hn _ _ _ hx]⟩
  | act action => cases h; exact turn_act hb ht
  | report name =>
    cases h
    exact ⟨[], _, .ordinary hb rfl (frame_note _) (by simp) (by simp [Event.isPlain])⟩
  | offer order callback => cases h; exact turn_offer hb ht
  | enter errand =>
    simp only [perform?, gate_setTasks] at h
    split at h
    · cases h
    · next hg =>
      cases h
      let m := { s.setTasks t rest with gate := some t }
      have hf := frame_push (s := m) (t := t) [.decide errand] ht
      refine ⟨_, [], .ofFrame (m := m) hb (by simp) rfl trace_setTasks hf
        (.enter (by simpa using hg) ?_)⟩
      rw [hf.core, ← hcore]
      rfl
  | decide errand => cases h; exact turn_decide hb ht
  | leave =>
    cases h
    let m := { s.setTasks t rest with gate := none }
    refine ⟨[], [], .ofFrame (m := m) hb (by simp) rfl trace_setTasks (.refl _ t) (.leave ?_)⟩
    rw [← hcore]
    rfl
  | log record =>
    cases h
    have hf : Frame (s.setTasks t rest) ((s.setTasks t rest).log t [record]) t []
      [.logged record] := frame_log [record]
    exact ⟨[], _, .ofFrame hb (by simp) rfl trace_setTasks hf (.log (hf.core.trans hcore))⟩
  | answer request callback result code =>
    cases h
    have hf : Frame (s.setTasks t rest) _ t [] _ :=
      (frame_note [.answered request callback result code]).trans (frame_reply (.code code))
    exact ⟨[], _, .ofFrame hb (by simp) rfl trace_setTasks hf (.answer (hf.core.trans hcore))⟩
  | reply reply => cases h; exact hquiet (frame_reply _) rfl
  | receive => exact turn_receive? hb ht h
  | dispatch callback delay result =>
    cases h
    have hf := (frame_note (s := s.setTasks t rest) (t := t) [.dispatched callback result]).trans
      (frame_push [.invoke callback result] ht)
    simp only [List.append_nil] at hf
    exact ⟨_, _, .ofFrame hb (by simp) rfl trace_setTasks hf (.dispatch (hf.core.trans hcore))⟩
  | delegate tasks => cases h; exact ⟨_, _, turn_delegate hb ht rfl⟩
  | awaitHelper index =>
    simp only [perform?] at h
    split at h
    · cases h; exact hquiet (frame_reply _) rfl
    · cases h
  | await channel => exact hquiet (frame_await? h) rfl
  | openLatch => cases h; exact hquiet (.same rfl rfl rfl rfl) rfl
  | awaitLoop =>
    simp only [perform?] at h
    split at h
    · next hw =>
      cases h
      exact ⟨[], [], .ofFrame hb (by simp) rfl trace_setTasks (.refl _ t)
        (.awaitLoop (by simpa using hw) hcore)⟩
    · cases h
  | discardLoop =>
    cases h
    let m := { s.setTasks t rest with owner := .gone }
    have hf : Frame m ({ (s.setTasks t rest).note t [.discarded] with owner := .gone } : Bridge) t
        [] [.discarded] := frame_note _
    refine ⟨[], _, .ofFrame (m := m) hb (by simp) rfl trace_setTasks hf (.discard ?_)⟩
    rw [← hcore]
    rfl
  | clonePoster => cases h; exact hquiet (.same rfl rfl rfl rfl) rfl
  | dropPoster => cases h; exact hquiet (.same rfl rfl rfl rfl) rfl

theorem step?_eq {task : Task} (hb : s.tasks t = task :: rest) :
    s.step? t = (s.setTasks t rest).perform? t task := by
  unfold step?
  rw [show (s.thread t).tasks = task :: rest from hb]

theorem exists_task (h : s.step? t = some s') : ∃ task rest, s.tasks t = task :: rest := by
  cases hb : s.tasks t with
  | nil =>
    unfold step? at h
    rw [show (s.thread t).tasks = [] from hb] at h
    cases h
  | cons task rest => exact ⟨task, rest, rfl⟩

theorem turn_step? {task : Task} (hb : s.tasks t = task :: rest) (h : s.step? t = some s') :
    ∃ pushed events, Turn s s' t [task] pushed rest events :=
  turn_perform? hb (step?_eq hb ▸ h)

theorem frame_takeOut (ht : t ∈ s.threads) (slot : Nat) {tasks : Callback → List Task}
    (ho : ∀ callback, ∀ x ∈ tasks callback, x.isOpening = true) :
    ∃ pushed, Frame s (s.takeOut t slot tasks) t pushed [] ∧ ∀ x ∈ pushed, x.isOpening = true := by
  unfold takeOut
  split
  · exact ⟨[], frame_reply _, by simp⟩
  · next callback _ =>
    have herase : Frame s { s with slots := s.slots.erase slot } t [] [] := .same rfl rfl rfl rfl
    exact ⟨_, herase.silent (frame_push _ ht), ho callback⟩

theorem frame_call (ht : t ∈ s.threads) (call : Call) :
    ∃ pushed, Frame s (s.call t call) t pushed [] ∧ ∀ x ∈ pushed, x.isOpening = true := by
  cases call with
  | act action => exact ⟨_, frame_push _ ht, by simp [Task.isOpening]⟩
  | put slot optional recipe =>
    exact ⟨[], (frame_make optional recipe).silent (.same rfl rfl rfl rfl), by simp⟩
  | change slot target flags =>
    simp only [Bridge.call]
    split
    · exact ⟨[], frame_reply _, by simp⟩
    · exact ⟨[], .same rfl rfl rfl rfl, by simp⟩
  | offer slot order => exact frame_takeOut ht slot (by simp [Task.isOpening])
  | invoke slot result => exact frame_takeOut ht slot (by simp [Task.isOpening])
  | abort slot => exact frame_takeOut ht slot (by simp [Task.isOpening])
  | forget slot => exact frame_takeOut ht slot (by simp)
  | poll receiver => exact ⟨[], (frame_poll receiver).silent (frame_reply _), by simp⟩
  | await receiver =>
    simp only [Bridge.call]
    split
    · exact ⟨[], frame_reply _, by simp⟩
    · have herase : Frame s { s with receivers := s.receivers.erase receiver } t [] [] :=
        .same rfl rfl rfl rfl
      exact ⟨_, herase.silent (frame_push _ ht), by simp [Task.isOpening]⟩
  | dropReceiver receiver => exact ⟨[], frame_abandon receiver, by simp⟩
  | slotCall call => exact ⟨[], (frame_setSlot _).silent (frame_reply _), by simp⟩
  | clonePoster => exact ⟨_, frame_push _ ht, by simp [Task.isOpening]⟩
  | dropPoster => exact ⟨_, frame_push _ ht, by simp [Task.isOpening]⟩
  | closeLatch => exact ⟨[], .same rfl rfl rfl rfl, by simp⟩
  | openLatch => exact ⟨_, frame_push _ ht, by simp [Task.isOpening]⟩

theorem IsFree.mem_threads (h : s.IsFree t) : t ∈ s.threads := by
  unfold IsFree at h
  split at h
  · exact h.1
  · next heq => exact mem_threads_of_tasks _ _ heq
  · exact h.elim

theorem IsFree.idle_or_body (h : s.IsFree t) :
    s.tasks t = [] ∧ t ≠ .loop ∨
      ∃ n name actions more, s.tasks t = .body n name actions :: more := by
  unfold IsFree at h
  split at h
  · next heq => exact .inl ⟨heq, h.2⟩
  · next heq => exact .inr ⟨_, _, _, _, heq⟩
  · exact h.elim

theorem turn_call (hfree : s.IsFree t) (call : Call) : ∃ pushed,
    Turn s (s.call t call) t [] pushed (s.tasks t) [] ∧ ∀ x ∈ pushed, x.isOpening = true := by
  obtain ⟨pushed, hf, hp⟩ := frame_call hfree.mem_threads call
  refine ⟨pushed, ⟨rfl, hf.own, ?_, hf.trace, .call hp (.inr hfree.idle_or_body) hf.core⟩, hp⟩
  exact fun u hu => .inl (hf.others u hu)

theorem tasks_enlist_idle (s : Bridge) (u : ThreadId) : s.enlist.tasks u = s.tasks u := by
  refine (tasks_enlist s [] u).trans ?_
  split
  · next he => simp [he, tasks, thread, Thread.idle]
  · rfl

theorem turn_enlist (s : Bridge) (t : ThreadId) : Turn s s.enlist t [] [] (s.tasks t) [] := by
  refine ⟨rfl, tasks_enlist_idle s t, ?_, by simp [Bridge.enlist], .call (by simp) (.inl rfl) rfl⟩
  exact fun u _ => .inl (tasks_enlist_idle s u)

end turns
end Bridge

open Bridge

theorem Move.turn {s s' : Bridge} (h : Move s s') :
    ∃ t popped pushed rest events, Turn s s' t popped pushed rest events := by
  cases h with
  | @step _ t h =>
    obtain ⟨task, rest, hb⟩ := exists_task h
    obtain ⟨pushed, events, hturn⟩ := turn_step? hb h
    exact ⟨t, [task], pushed, rest, events, hturn⟩
  | @call t call hfree =>
    obtain ⟨pushed, hturn, -⟩ := turn_call hfree call
    exact ⟨t, _, pushed, _, _, hturn⟩
  | enlist => exact ⟨.main, _, _, _, _, turn_enlist s .main⟩

end HostBridge
