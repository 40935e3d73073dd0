import HostBridge.MessageLoop.Schedule
import HostBridge.MessageLoop.Tally

/-!
# Declining tallies

What a task pushes, queues and notes may weigh no more than the task. A weight declines when
that holds of every task, with something to spare; then every step lowers the tally by as
much, on whatever thread it is taken.
-/
namespace HostBridge

/-- What a task gives way to weighs less than the task, by the loss. -/
structure Weight.Declines (w : Weight) (loss : Nat) : Prop where
  least : ∀ task, loss ≤ w.task task
  invoke : ∀ callback result,
    w.event (.invoked callback result) + loss ≤ w.task (.invoke callback result)
  enterBody : ∀ serial flags result name trigger body,
    w.event (.invoked ⟨serial, .closure (some ⟨name, .perform trigger body⟩), flags⟩ result) +
      w.task (.body serial name body) + loss ≤
        w.task (.invoke ⟨serial, .closure (some ⟨name, .perform trigger body⟩), flags⟩ result)
  abort : ∀ callback,
    w.event (.aborted callback) + w.task (.invoke callback NamedCode.aborted.number) + loss ≤
      w.task (.abort callback)
  body : ∀ serial name action rest,
    w.task (.act action) + w.task (.report action.name) + w.task (.body serial name rest) + loss ≤
      w.task (.body serial name (action :: rest))
  run : ∀ slot result callback made,
    w.callback (.sentinel made) + w.unmade (made + 1) + w.task (.invoke callback result) +
      w.task (.reply .nothing) + loss ≤
        w.task (.act (.run slot result)) + w.callback callback + w.unmade made
  post : ∀ (s : Bridge) order optional recipe,
    w.task (.delegate [.offer order (s.make optional recipe).1]) + w.unmade (s.made + 1) + loss ≤
      w.task (.act (.post order optional recipe)) + w.unmade s.made
  quit : ∀ via,
    w.task (.delegate [.enter .quit, .reply .nothing]) + loss ≤ w.task (.act (.quit via))
  joinLoop : w.tasks Bridge.joinTasks + loss ≤ w.task (.act .joinLoop)
  dropLoop : w.tasks Bridge.dropTasks + loss ≤ w.task (.act .dropLoop)
  waive : ∀ order callback code,
    w.event (.waived callback) + w.task (.answer order.request callback order.result code) +
      loss ≤ w.task (.offer order callback)
  ask : ∀ order callback delay,
    w.task (.enter (.post order.request callback delay order.result)) + loss ≤
      w.task (.offer order callback)
  enter : ∀ errand, w.task (.decide errand) + loss ≤ w.task (.enter errand)
  accept : ∀ request callback delay result,
    w.item (.run callback delay result) + w.event (.accepted callback result) +
      w.tasks [.leave, .answer request callback result (Bridge.acceptance request)] + loss ≤
        w.task (.decide (.post request callback delay result))
  refuse : ∀ request callback delay result record,
    w.event (.refused callback) +
      w.tasks [.log record, .leave, .abort callback, .answer request callback result .failed] +
      loss ≤ w.task (.decide (.post request callback delay result))
  decideQuit : w.item .quit + w.event .quitQueued + w.task .leave + loss ≤ w.task (.decide .quit)
  answer : ∀ request callback result code,
    w.event (.answered request callback result code) + loss ≤
      w.task (.answer request callback result code)
  take : ∀ callback delay result,
    w.task (.dispatch callback delay result) + loss ≤ w.item (.run callback delay result)
  dispatch : ∀ callback delay result,
    w.event (.dispatched callback result) + w.task (.invoke callback result) + loss ≤
      w.task (.dispatch callback delay result)
  delegate : ∀ tasks index,
    w.tasks tasks + w.task (.awaitHelper index) + loss ≤ w.task (.delegate tasks)
  discard : w.event .discarded + loss ≤ w.task .discardLoop

namespace Bridge

variable {w : Weight} {loss : Nat}

theorem tally_invoke?_le (hw : w.Declines loss) {s s' : Bridge} {t : ThreadId}
    {callback : Callback} {result : Int32} (h : s.invoke? t callback result = some s') :
    s'.tally w + loss ≤ s.tally w + w.task (.invoke callback result) := by
  obtain ⟨serial, target, flags⟩ := callback
  generalize hc : (⟨serial, target, flags⟩ : Callback) = callback at *
  have hleast := hw.least (.invoke callback result)
  have hinvoke := hw.invoke callback result
  have hcalled : (s.note t [.invoked callback result]).tally w =
      s.tally w + w.event (.invoked callback result) := by simp
  unfold invoke? at h
  subst hc
  cases target with
  | blocking => cases h; omega
  | native context =>
    cases h
    have hnative := w.event_plain (.native serial context result) rfl
    rw [tally_note, hcalled, Weight.events_cons, hnative, Weight.events_nil]
    omega
  | latch =>
    dsimp only at h
    split at h
    · cases h
    · cases h
      rw [hcalled]
      omega
  | closure context =>
    cases context with
    | none =>
      cases h
      rw [tally_log, hcalled]
      omega
    | some closure =>
      cases h
      obtain ⟨name, duty⟩ := closure
      cases duty with
      | send channel =>
        unfold enterClosure
        dsimp only
        rw [tally_sendTo, tally_log, hcalled]
        omega
      | perform trigger body =>
        have henter := hw.enterBody serial flags result name trigger body
        have hpush (m : Bridge) (e : Event) (he : e.isPlain = true)
            (hm : m.tally w = s.tally w + w.event (.invoked
              ⟨serial, .closure (some ⟨name, .perform trigger body⟩), flags⟩ result)) :
            ((m.note t [e]).push t [.body serial name body]).tally w + loss ≤ s.tally w +
              w.task (.invoke ⟨serial, .closure (some ⟨name, .perform trigger body⟩), flags⟩
                result) := by
          have hle := (m.note t [e]).tally_push_le w t [.body serial name body]
          rw [tally_note, hm, Weight.events_cons, w.event_plain e he, Weight.events_nil] at hle
          simp only [Weight.tasks_cons, Weight.tasks_nil] at hle
          omega
        cases trigger with
        | always => exact hpush _ _ rfl ((tally_log ..).trans hcalled)
        | onSuccess =>
          unfold enterClosure
          dsimp only
          split
          · exact hpush _ _ rfl ((tally_log ..).trans hcalled)
          · rw [tally_log, tally_log, hcalled]
            omega

theorem tally_route_le (hw : w.Declines loss) (s : Bridge) (t : ThreadId) (via : Via)
    (tasks : List Task) : (s.route t via tasks).tally w ≤ s.tally w + w.task (.delegate tasks) := by
  have hdelegate := hw.delegate tasks 0
  cases via with
  | helper =>
    have hpush := s.tally_push_le w t [.delegate tasks]
    simpa only [route, Weight.tasks_cons, Weight.tasks_nil, Nat.add_zero] using hpush
  | _ => exact Nat.le_trans (s.tally_push_le w t tasks) (by omega)

theorem tally_shutDown_le (s : Bridge) (t : ThreadId) (tasks : List Task) :
    (s.shutDown t tasks).tally w ≤ s.tally w + w.tasks tasks := by
  unfold shutDown
  split
  · exact tally_push_le w { s with owner := .closing } t tasks
  · exact Nat.le_trans (s.tally_reply_le w t _) (Nat.le_add_right _ _)

theorem tally_act_le (hw : w.Declines loss) (s : Bridge) (t : ThreadId) (action : Action) :
    (s.act t action).tally w + loss ≤ s.tally w + w.task (.act action) := by
  have hleast := hw.least (.act action)
  have hreply (reply : Reply) := s.tally_reply_le w t reply
  cases action with
  | panic payload => exact Nat.add_le_add_left hleast _
  | setError message =>
    have hset := s.tally_setSlot_le w t ((s.thread t).slot.set message)
    have hle := tally_reply_le w (s.setSlot t ((s.thread t).slot.set message)) t .nothing
    simp only [act]
    omega
  | takeError =>
    have hset := s.tally_setSlot_le w t (s.thread t).slot.take.2
    have hle := tally_reply_le w (s.setSlot t (s.thread t).slot.take.2) t
      (.ofText? (s.thread t).slot.take.1)
    simp only [act]
    omega
  | run slot result =>
    simp only [act]
    cases hs : s.slots.get? slot with
    | none => exact Nat.add_le_add (hreply _) hleast
    | some callback =>
      have htaken := Table.totalOf_erase_of_get? w.callback hs
      have hrun := hw.run slot result callback s.made
      refine Nat.le_trans (Nat.add_le_add_right (tally_push_le w _ t _) loss) ?_
      simp only [tally, Table.put, totalOf_cons, Weight.tasks_cons,
        Weight.tasks_nil] at htaken ⊢
      omega
  | tryTake receiver =>
    have hle := tally_reply_le w (s.tryTake receiver).2 t (s.tryTake receiver).1
    rw [tally_tryTake] at hle
    exact Nat.add_le_add hle hleast
  | post order optional recipe =>
    simp only [act]
    split
    · have hpost := hw.post s order optional recipe
      have hmake := s.tally_make w optional recipe
      have hroute := tally_route_le hw (s.make optional recipe).2 t order.via
        [.offer order (s.make optional recipe).1]
      omega
    · exact Nat.add_le_add (hreply _) hleast
  | quit via =>
    simp only [act]
    split
    · have hquit := hw.quit via
      have hroute := tally_route_le hw s t via [.enter .quit, .reply .nothing]
      omega
    · exact Nat.add_le_add (hreply _) hleast
  | threadName => exact Nat.add_le_add (hreply _) hleast
  | isLoopThread => exact Nat.add_le_add (hreply _) hleast
  | joinLoop =>
    have hjoin := hw.joinLoop
    have hshut := s.tally_shutDown_le (w := w) t joinTasks
    simp only [act]
    omega
  | dropLoop =>
    have hdrop := hw.dropLoop
    have hshut := s.tally_shutDown_le (w := w) t dropTasks
    simp only [act]
    omega

theorem tally_continueBody_le (hw : w.Declines loss) (s : Bridge) (t : ThreadId) (closure : Nat)
    (name : String) (actions : List Action) :
    (s.continueBody t closure name actions).tally w + loss ≤
      s.tally w + w.task (.body closure name actions) := by
  have hleast := hw.least (.body closure name actions)
  match actions with
  | [] =>
    have hfinished := w.event_plain (.finished closure) rfl
    simp only [continueBody, tally_note, Weight.events_cons, Weight.events_nil]
    omega
  | action :: rest =>
    have hnext : (s.push t (.act action ::
        (if action.isReported then [Task.report action.name] else []) ++
          [.body closure name rest])).tally w + loss ≤
        s.tally w + w.task (.body closure name (action :: rest)) := by
      have hbody := hw.body closure name action rest
      refine Nat.le_trans (Nat.add_le_add_right (s.tally_push_le w t _) loss) ?_
      cases action.isReported <;>
        simp only [if_true, if_false, Bool.false_eq_true, List.cons_append, List.nil_append,
          Weight.tasks_cons, Weight.tasks_nil] <;> omega
    cases action with
    | panic payload =>
      have hset := tally_setSlot_le w (s.log t [Log.panickedRecord name payload.text]) t
        ((s.thread t).slot.set (panicMessage name payload.text))
      rw [tally_log] at hset
      exact Nat.add_le_add hset hleast
    | _ => exact hnext

theorem tally_offer_le (hw : w.Declines loss) (s : Bridge) (t : ThreadId) (order : Order)
    (callback : Callback) :
    (s.offer t order callback).tally w + loss ≤ s.tally w + w.task (.offer order callback) := by
  have hwaive (m : Bridge) (code : Code) (hm : m.tally w = s.tally w) :
      ((m.note t [.waived callback]).push t
        [.answer order.request callback order.result code]).tally w + loss ≤
          s.tally w + w.task (.offer order callback) := by
    have hwaived := hw.waive order callback code
    have hle := (m.note t [.waived callback]).tally_push_le w t
      [.answer order.request callback order.result code]
    rw [tally_note, hm] at hle
    simp only [Weight.tasks_cons, Weight.tasks_nil, Weight.events_cons, Weight.events_nil] at hle
    omega
  have hask (delay : Nat) :
      (s.push t [.enter (.post order.request callback delay order.result)]).tally w + loss ≤
        s.tally w + w.task (.offer order callback) := by
    have hasked := hw.ask order callback delay
    have hle := s.tally_push_le w t [.enter (.post order.request callback delay order.result)]
    simp only [Weight.tasks_cons, Weight.tasks_nil] at hle
    omega
  obtain ⟨request, via, delay, result⟩ := order
  cases request with
  | post =>
    simp only [offer]
    split
    · exact hwaive _ _ (tally_log ..)
    · exact hask _
  | complete =>
    simp only [offer]
    split
    · exact hwaive _ _ (tally_log ..)
    · exact hask _

theorem tally_refuse_le (hw : w.Declines loss) (s : Bridge) (t : ThreadId) (request : Request)
    (callback : Callback) (delay : Nat) (result : Int32) (record : Log.Record) :
    (s.refuse t request callback result record).tally w + loss ≤
      s.tally w + w.task (.decide (.post request callback delay result)) := by
  have hrefuse := hw.refuse request callback delay result record
  have hle := (s.note t [.refused callback]).tally_push_le w t
    [.log record, .leave, .abort callback, .answer request callback result .failed]
  rw [tally_note, Weight.events_cons, Weight.events_nil] at hle
  simp only [refuse]
  omega

theorem tally_decide_le (hw : w.Declines loss) (s : Bridge) (t : ThreadId) (errand : Errand) :
    (s.decide t errand).tally w + loss ≤ s.tally w + w.task (.decide errand) := by
  cases errand with
  | post request callback delay result =>
    simp only [Bridge.decide]
    split
    · exact tally_refuse_le hw ..
    · split
      · exact tally_refuse_le hw ..
      · have haccept := hw.accept request callback delay result
        have hle := ((s.enqueue (.run callback delay result)).note t
          [.accepted callback result]).tally_push_le w t
            [.leave, .answer request callback result (acceptance request)]
        rw [tally_note, tally_enqueue, Weight.events_cons, Weight.events_nil] at hle
        omega
  | quit =>
    have hquit := hw.decideQuit
    have hleave (m : Bridge) : ({ m with quitting := true }.push t [.leave]).tally w ≤
        m.tally w + w.task .leave := by
      have hle := tally_push_le w { m with quitting := true } t [.leave]
      simp only [Weight.tasks_cons, Weight.tasks_nil] at hle
      exact hle
    simp only [Bridge.decide]
    split
    · have hle := s.tally_push_le w t [.leave]
      simp only [Weight.tasks_cons, Weight.tasks_nil] at hle
      omega
    · split
      · have hle := hleave s
        omega
      · have hle := hleave ((s.enqueue .quit).note t [.quitQueued])
        rw [tally_note, tally_enqueue, Weight.events_cons, Weight.events_nil] at hle
        omega

theorem tally_receive?_le (hw : w.Declines loss) {s s' : Bridge} {t : ThreadId}
    (h : s.receive? t = some s') : s'.tally w + loss ≤ s.tally w + w.task .receive := by
  have hleast := hw.least .receive
  unfold receive? at h
  split at h
  · split at h
    · cases h; exact Nat.add_le_add_left hleast _
    · cases h
  · next queue hq =>
    cases h
    simp only [tally, hq, totalOf_cons]
    omega
  · next callback delay result queue hq =>
    cases h
    have htake := hw.take callback delay result
    refine Nat.le_trans (Nat.add_le_add_right (tally_push_le w _ t _) loss) ?_
    simp only [tally, hq, totalOf_cons, Weight.tasks_cons, Weight.tasks_nil]
    omega

theorem tally_await?_le {s s' : Bridge} {t : ThreadId} {channel : Nat}
    (h : s.await? t channel = some s') : s'.tally w ≤ s.tally w := by
  unfold await? at h
  split at h
  · cases h
  · cases h; exact tally_reply_le w _ t _
  · cases h; exact tally_reply_le w _ t _

theorem tally_delegate_le (hw : w.Declines loss) (s : Bridge) (t : ThreadId) (tasks : List Task)
    (index : Nat) :
    { s.push t [.awaitHelper index] with
      helpers := (s.push t [.awaitHelper index]).helpers ++
        [{ Thread.idle with tasks }] }.tally w + loss ≤
      s.tally w + w.task (.delegate tasks) := by
  have hdelegate := hw.delegate tasks index
  have hle := s.tally_push_le w t [.awaitHelper index]
  rw [tally_enlist]
  simp only [Weight.tasks_cons, Weight.tasks_nil] at hle
  omega

theorem tally_perform?_le (hw : w.Declines loss) {s s' : Bridge} {t : ThreadId} {task : Task}
    (h : s.perform? t task = some s') : s'.tally w + loss ≤ s.tally w + w.task task := by
  have hleast := hw.least task
  have hreply (reply : Reply) := s.tally_reply_le w t reply
  cases task with
  | invoke callback result => exact tally_invoke?_le hw h
  | abort callback =>
    simp only [perform?] at h
    split at h
    · cases h; exact Nat.add_le_add_left hleast _
    · cases h
      have habort := hw.abort callback
      have hle := tally_push_le w ((s.note t [.aborted callback]).log t [Log.abortingRecord]) t
        [.invoke callback NamedCode.aborted.number]
      rw [tally_log, tally_note] at hle
      simp only [Weight.tasks_cons, Weight.tasks_nil, Weight.events_cons, Weight.events_nil] at hle
      omega
  | body closure name actions => cases h; exact tally_continueBody_le hw ..
  | act action => cases h; exact tally_act_le hw ..
  | report name =>
    cases h
    have hacted := w.event_plain (.acted name (s.thread t).reply) rfl
    rw [tally_note, Weight.events_cons, hacted, Weight.events_nil]
    omega
  | offer order callback => cases h; exact tally_offer_le hw ..
  | enter errand =>
    simp only [perform?] at h
    split at h
    · cases h
    · cases h
      have henter := hw.enter errand
      have hle := tally_push_le w { s with gate := some t } t [.decide errand]
      have hgate : { s with gate := some t }.tally w = s.tally w := rfl
      simp only [Weight.tasks_cons, Weight.tasks_nil] at hle
      omega
  | decide errand => cases h; exact tally_decide_le hw ..
  | log record =>
    cases h
    rw [tally_log]
    exact Nat.add_le_add_left hleast _
  | answer request callback result code =>
    cases h
    have hanswer := hw.answer request callback result code
    have hle := tally_reply_le w (s.note t [.answered request callback result code]) t (.code code)
    rw [tally_note, Weight.events_cons, Weight.events_nil] at hle
    omega
  | reply reply => cases h; exact Nat.add_le_add (hreply _) hleast
  | receive => exact tally_receive?_le hw h
  | dispatch callback delay result =>
    cases h
    have hdispatch := hw.dispatch callback delay result
    have hle := (s.note t [.dispatched callback result]).tally_push_le w t
      [.invoke callback result]
    rw [tally_note] at hle
    simp only [Weight.tasks_cons, Weight.tasks_nil, Weight.events_cons, Weight.events_nil] at hle
    omega
  | delegate tasks => cases h; exact tally_delegate_le hw ..
  | awaitHelper index =>
    simp only [perform?] at h
    split at h
    · cases h; exact Nat.add_le_add (hreply _) hleast
    · cases h
  | await channel => exact Nat.add_le_add (tally_await?_le h) hleast
  | awaitLoop =>
    simp only [perform?] at h
    split at h
    · cases h; exact Nat.add_le_add_left hleast _
    · cases h
  | discardLoop =>
    cases h
    have hdiscard := hw.discard
    have howner : { s.note t [.discarded] with owner := .gone }.tally w =
        (s.note t [.discarded]).tally w := rfl
    rw [howner, tally_note, Weight.events_cons, Weight.events_nil]
    omega
  | leave | openLatch | clonePoster | dropPoster => cases h; exact Nat.add_le_add_left hleast _

theorem tally_step?_le (hw : w.Declines loss) {s s' : Bridge} {t : ThreadId}
    (h : s.step? t = some s') : s'.tally w + loss ≤ s.tally w := by
  unfold step? at h
  split at h
  · cases h
  · next task rest htasks =>
    have hperform := tally_perform?_le hw h
    have hset := tally_setTasks w htasks
    omega

end Bridge
end HostBridge
