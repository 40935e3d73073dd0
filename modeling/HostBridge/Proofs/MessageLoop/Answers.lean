import HostBridge.Proofs.MessageLoop.Delivery
import HostBridge.Proofs.MessageLoop.Gate
import HostBridge.Proofs.MessageLoop.GateOrder

/-!
# Answers

The answer to a request tells what has become of the callback, and once it has been given
nobody but the loop has anything to do with the callback any more.
-/
namespace HostBridge

def Event.touches (serial : Nat) : Event → Bool
  | .accepted callback _ | .refused callback | .dispatched callback _ | .aborted callback
  | .invoked callback _ => callback.serial == serial
  | _ => false

theorem Event.leaves_of_touches {e : Event} {serial : Nat} (h : e.touches serial = true) :
    ∃ limit, 0 < e.leaves limit serial := by
  cases e with
  | accepted | refused => exact ⟨.offered, by simp_all [touches, leaves]⟩
  | dispatched | aborted => exact ⟨.decided, by simp_all [touches, leaves]⟩
  | invoked => exact ⟨.due, by simp_all [touches, leaves]⟩
  | _ => cases h

namespace Bridge

variable {name : String} {s s' : Bridge} {t : ThreadId} {popped pushed rest : List Task}
  {events : List Event}

theorem Reachable.untouched (hr : Reachable name s) {x : Task} {serial : Nat}
    (hx : x ∈ s.tasks t) (hholds : ∀ limit, x.holds limit serial ≠ 0) :
    ∀ entry ∈ s.trace, entry.2.touches serial = false := by
  intro ⟨u, e⟩ hm
  rw [Bool.eq_false_iff]
  intro htouch
  obtain ⟨limit, hl⟩ := Event.leaves_of_touches htouch
  exact hholds limit ((hr.released limit serial hm hl).tasks t x hx)

theorem holds_decide (request : Request) (callback : Callback) (delay : Nat) (result : Int32)
    (limit : Stage) :
    (Task.decide (.post request callback delay result)).holds limit callback.serial ≠ 0 := by
  cases limit <;> simp [Task.holds, Callback.heldAt, Stage.upTo]

theorem holds_offer (order : Order) (callback : Callback) (limit : Stage) :
    (Task.offer order callback).holds limit callback.serial ≠ 0 := by
  cases limit <;> simp [Task.holds, Callback.heldAt, Stage.upTo]

def UntouchedGuard (before : List (ThreadId × Event)) (entry : ThreadId × Event) : Prop :=
  ∀ callback, ((∃ result, entry.2 = .accepted callback result) ∨ entry.2 = .refused callback) →
    ∀ x ∈ before, x.2.touches callback.serial = false

theorem Reachable.untouched_before (hr : Reachable name s) : Guarded UntouchedGuard s.trace := by
  apply hr.guarded_gate (P := UntouchedGuard)
  · intro m u request callback delay result hm hmem callback' hdecided
    have hsame : callback' = callback := by
      cases hq : m.quitting <;> simp [hq] at hdecided <;> exact hdecided.symm
    rw [hsame]
    exact hm.untouched hmem (holds_decide request callback delay result)
  · intro before u e ha hf callback hdecided
    rcases hdecided with ⟨result, he⟩ | he
    · exact absurd he (ha callback result)
    · exact absurd he (hf callback)

def BodyGuard (before : List Task) (x : Task) : Prop :=
  ∀ serial name actions, x = .body serial name actions →
    ∀ request callback result code, .answer request callback result code ∈ before →
      callback.serial ≠ serial

theorem Reachable.answer_pushed (hr : Reachable name s)
    (h : Turn s s' t popped pushed rest events) {request : Request} {callback : Callback}
    {result : Int32} {code : Code} (hm : .answer request callback result code ∈ pushed) :
    ∀ entry ∈ s.trace, entry.2.touches callback.serial = false := by
  cases h.effect with
  | call ho => cases ho _ hm
  | ordinary _ ho => cases ho _ hm
  | shutDown ht => rcases ht with rfl | rfl <;> simp [joinTasks, dropTasks] at hm
  | invoke _ hpush => rcases hpush with rfl | ⟨_, _, rfl⟩ <;> simp at hm
  | waive =>
    cases List.mem_singleton.mp hm
    exact hr.untouched (h.mem_popped (List.mem_singleton.mpr rfl)) (holds_offer _ _)
  | accept =>
    simp only [List.mem_cons, reduceCtorEq, List.not_mem_nil, or_false, false_or] at hm
    cases hm
    exact hr.untouched (h.mem_popped (List.mem_singleton.mpr rfl)) (holds_decide _ _ _ _)
  | refuse =>
    simp only [List.mem_cons, reduceCtorEq, List.not_mem_nil, or_false, false_or] at hm
    cases hm
    exact hr.untouched (h.mem_popped (List.mem_singleton.mpr rfl)) (holds_decide _ _ _ _)
  | _ => simp at hm

theorem Effect.pushed_body (h : Effect s t rest s' popped pushed events) {serial : Nat}
    {name : String} {actions : List Action} (hm : .body serial name actions ∈ pushed) :
    ∀ request callback result code, .answer request callback result code ∉ pushed := by
  intro request callback result code ha
  cases h with
  | call ho => cases ho _ hm
  | ordinary _ ho => cases ho _ ha
  | shutDown ht => rcases ht with rfl | rfl <;> simp [joinTasks, dropTasks] at hm
  | invoke _ hpush => rcases hpush with rfl | ⟨_, _, rfl⟩ <;> simp at ha
  | _ => simp at hm

theorem Reachable.bodies (hr : Reachable name s) : ∀ u, Guarded BodyGuard (s.tasks u) := by
  apply hr.induct (P := fun m => ∀ u, Guarded BodyGuard (m.tasks u))
  · intro u
    apply Guarded.of_forall
    intro before x hx serial name actions hbody
    cases hbody.symm.trans (mem_tasks_start hx).2
  · intro s s' hprior hs hm
    obtain ⟨t, popped, pushed, rest, events, h⟩ := hm.turn
    apply h.guarded (P := fun _ => BodyGuard) (Q := fun _ => BodyGuard) hprior.shaped hs
    · intro before x after hpush serial name actions hx request callback result code ha
      subst hx
      have hbody : .body serial name actions ∈ pushed := by simp [hpush]
      have hanswer : .answer request callback result code ∈ pushed := by simp [hpush, ha]
      exact absurd hanswer (h.effect.pushed_body hbody request callback result code)
    · intro before x hx hold serial name actions hbody request callback result code ha
      subst hbody
      rcases List.mem_append.mp ha with ha | ha
      · have hfree := hprior.answer_pushed h ha
        have hbody : .body serial name actions ∈ s.tasks t := h.mem_rest hx
        obtain ⟨callback', result', hinvoked, hserial⟩ := hprior.provenance.tasks t _ hbody
        have htouch := hfree _ hinvoked
        intro heq
        simp [Event.touches, hserial, heq] at htouch
      · exact hold serial name actions rfl request callback result code
          (List.mem_append_right _ ha)
    · exact fun u before x _ hold => hold
    · intro u before x hopen serial name actions hbody
      rw [hbody] at hopen
      cases hopen

theorem Turn.mem_body (h : Turn s s' t popped pushed rest events) (hshape : Shaped s)
    {u : ThreadId} {serial : Nat} {name : String} {actions : List Action}
    (hm : .body serial name actions ∈ s'.tasks u) :
    (∃ name actions, .body serial name actions ∈ s.tasks u) ∨
      u = t ∧ ∃ callback result, popped = [.invoke callback result] ∧ callback.serial = serial := by
  by_cases hu : u = t
  · subst hu
    rw [h.after] at hm
    rcases List.mem_append.mp hm with hm | hm
    · cases h.effect with
      | call ho => cases ho _ hm
      | ordinary _ _ hbody =>
        obtain ⟨name', actions', rfl⟩ := hbody serial name actions hm
        exact .inl ⟨name', actions', h.mem_popped (List.mem_singleton.mpr rfl)⟩
      | shutDown ht => rcases ht with rfl | rfl <;> simp [joinTasks, dropTasks] at hm
      | @invoke callback result _ _ _ hpush =>
        rcases hpush with rfl | ⟨name', actions', rfl⟩
        · cases hm
        · cases List.mem_singleton.mp hm
          exact .inr ⟨rfl, callback, result, rfl, rfl⟩
      | _ => simp at hm
    · exact .inl ⟨name, actions, h.mem_rest hm⟩
  · rcases h.others u hu with hsame | ⟨-, -, hpopped⟩
    · rw [hsame] at hm
      exact .inl ⟨name, actions, hm⟩
    · rw [hpopped] at h
      cases hshape.handed h _ hm

theorem Reachable.finished (hr : Reachable name s) :
    ∀ t request callback result code, (t, .answered request callback result code) ∈ s.trace →
      (callback, result) ∉ s.accepted →
        ∀ u name actions, .body callback.serial name actions ∉ s.tasks u := by
  apply hr.induct (P := fun m => ∀ t request callback result code,
    (t, .answered request callback result code) ∈ m.trace → (callback, result) ∉ m.accepted →
      ∀ u name actions, .body callback.serial name actions ∉ m.tasks u)
  · intro t request callback result code hm
    cases hm
  · intro s s' hprior hs hmove v request callback result code hm hno u name actions hbody
    have hafter : Reachable _ s' := hprior.move hmove
    obtain ⟨t, popped, pushed, rest, events, h⟩ := hmove.turn
    have hnow : (callback, result) ∉ s.accepted := fun ha => hno (by
      rw [h.accepted]
      exact List.mem_append_left _ ha)
    rcases h.mem_trace_iff.mp hm with hold | ⟨rfl, hnew⟩
    · have hnone := hs v request callback result code hold hnow
      rcases h.mem_body hprior.shaped hbody with ⟨name', actions', hbefore⟩ |
        ⟨rfl, callback', result', rfl, hserial⟩
      · exact hnone u name' actions' hbefore
      -- The callback was called or let go before, so it cannot be called now.
      · have hgone : (Task.invoke callback' result').holds .due callback.serial = 0 := by
          have hmem := h.mem_popped (List.mem_singleton.mpr rfl)
          cases hprior.settled hold with
          | waived _ hw =>
            exact (hprior.released .due _ hw (by simp [Event.leaves])).tasks _ _ hmem
          | queued _ ha => exact absurd (mem_accepted.mpr ⟨v, ha⟩) hnow
          | rejected _ _ _ hrun =>
            exact (hprior.released .due _ hrun (by simp [Event.leaves])).tasks _ _ hmem
        simp [Task.holds, Callback.heldAt, Stage.upTo, hserial] at hgone
    · -- Whoever goes through the body has called the callback, and only this thread has.
      obtain ⟨callback', result', hinvoked, hserial⟩ := hafter.provenance.tasks u _ hbody
      have hcaller {e : Event} (he : (v, e) ∈ s'.trace)
          (hl : 0 < e.leaves .due callback.serial) : v = u ∧ e = .invoked callback' result' :=
        hafter.leaves_once .due callback.serial he hinvoked hl (by simp [Event.leaves, hserial])
      cases hafter.settled hm with
      | waived _ hw => cases (hcaller hw (by simp [Event.leaves])).2
      | queued _ ha => exact hno (mem_accepted.mpr ⟨v, ha⟩)
      | rejected _ _ _ hrun =>
        obtain ⟨rfl, -⟩ := hcaller hrun (by simp [Event.leaves])
        have hpopped : popped = [.answer request callback result .failed] := h.effect.noted hnew
        subst hpopped
        have hrest : .body callback.serial name actions ∈ rest := by
          rw [h.after] at hbody
          cases h.effect with
          | ordinary hq => cases hq
          | answer => exact hbody
        obtain ⟨before, after, hsplit⟩ := List.append_of_mem hrest
        have hguard := hprior.bodies v (.answer request callback result .failed :: before)
          (.body callback.serial name actions) after (by rw [h.before, hsplit]; rfl)
        exact hguard _ _ _ rfl request callback result .failed (by simp) rfl

/-- Nobody has a callback any more, and nobody is running it. -/
structure Gone (s : Bridge) (serial : Nat) : Prop where
  released : s.Released .due serial
  finished : ∀ u name actions, .body serial name actions ∉ s.tasks u

/-- What becomes of a callback whose request is answered with a code, where `before` is what has
been noted up to the answer. It was let go without ever coming to the gate; or it was queued while
the flag was down, and is never aborted; or it was refused while the flag was up, and this thread
has run it as aborted since. -/
inductive Fate (s : Bridge) (before : List (ThreadId × Event)) (t : ThreadId)
    (request : Request) (callback : Callback) (result : Int32) : Code → Prop
  | waived {code : Code} : callback.answeredAtOnce request result = some code →
      (∀ entry ∈ s.trace, entry.2.touches callback.serial = false) → s.Gone callback.serial →
      Fate s before t request callback result code
  | queued (first second : List (ThreadId × Event)) :
      callback.answeredAtOnce request result = none →
      before = first ++ (t, .accepted callback result) :: second →
      (∀ u, (u, .quitQueued) ∉ first) →
      (callback, result) ∈ s.dispatched ++ s.taken ++ s.waiting →
      s.Released .offered callback.serial →
      (∀ u other, other.serial = callback.serial →
        (u, .refused other) ∉ s.trace ∧ (u, .aborted other) ∉ s.trace) →
      Fate s before t request callback result (acceptance request)
  | rejected (first second : List (ThreadId × Event)) :
      callback.answeredAtOnce request result = none →
      before = first ++ (t, .refused callback) :: second →
      (∃ u, (u, .quitQueued) ∈ first) →
      (t, .aborted callback) ∈ second →
      (t, .invoked callback NamedCode.aborted.number) ∈ second →
      (∀ u other number, other.serial = callback.serial →
        (u, .accepted other number) ∉ s.trace ∧ (u, .dispatched other number) ∉ s.trace ∧
          ((u, .invoked other number) ∈ s.trace →
            u = t ∧ other = callback ∧ number = NamedCode.aborted.number)) →
      s.Gone callback.serial → Fate s before t request callback result (.named .failed)

/-- How the loop answers for a callback. What is answered at once leaves the loop and all error
slots as they are; all else comes to the gate, whatever its flags are, and under the gate the quit
flag decides. Whoever runs or aborts a callback has left the gate, and by the time of the answer the
fate of the callback is settled. -/
structure AnswerLaw (s : Bridge) : Prop where
  waive : ∀ t order callback rest code, s.tasks t = .offer order callback :: rest →
    callback.answeredAtOnce order.request order.result = some code →
      ∃ s' s'', s.step? t = some s' ∧ s'.step? t = some s'' ∧ s''.tasks t = rest ∧
        (s''.thread t).reply = .code code ∧ s''.core = s.core ∧
        ∀ u, (s''.thread u).slot = (s.thread u).slot
  ask : ∀ t order callback rest, s.tasks t = .offer order callback :: rest →
    callback.answeredAtOnce order.request order.result = none →
      ∃ s' delay, s.step? t = some s' ∧
        s'.tasks t = .enter (.post order.request callback delay order.result) :: rest
  gate : ∀ t request callback delay result rest,
    s.tasks t = .decide (.post request callback delay result) :: rest →
      ∃ s', s.step? t = some s' ∧
        if s.quitting = true then
          s'.queue = s.queue ∧ ∃ record, s'.tasks t = .log record :: .leave :: .abort callback ::
            .answer request callback result .failed :: rest
        else
          s'.queue = s.queue ++ [.run callback delay result] ∧
            s'.tasks t = .leave :: .answer request callback result (acceptance request) :: rest
  outside : ∀ t x rest, s.tasks t = x :: rest →
    ((∃ callback, x = .abort callback) ∨ ∃ callback result, x = .invoke callback result) →
      s.gate ≠ some t
  answered : ∀ before t request callback result code after,
    s.trace = before ++ (t, .answered request callback result code) :: after →
      s.Fate before t request callback result code
  apart : ∀ t u callback other result, (t, .dispatched callback result) ∈ s.trace →
    (u, .aborted other) ∈ s.trace → callback.serial ≠ other.serial

theorem slot_updateThread (f : Thread → Thread) (hf : ∀ thread, (f thread).slot = thread.slot)
    (u : ThreadId) : ((s.updateThread t f).thread u).slot = (s.thread u).slot := by
  by_cases hu : u = t
  · subst hu
    cases u with
    | helper index =>
      by_cases hi : index < s.helpers.length
      · simp [updateThread, thread, List.getD_eq_getElem?_getD, hi, hf]
      · simp [updateThread, thread, List.getD_eq_getElem?_getD, hi]
    | _ => exact hf _
  · rw [thread_updateThread_ne _ _ _ hu]

theorem slot_setTasks (u : ThreadId) : ((s.setTasks t rest).thread u).slot = (s.thread u).slot :=
  slot_updateThread (fun thread => { thread with tasks := rest }) (fun _ => rfl) u

theorem slot_push (u : ThreadId) : ((s.push t pushed).thread u).slot = (s.thread u).slot :=
  slot_updateThread (fun thread => { thread with tasks := pushed ++ thread.tasks })
    (fun _ => rfl) u

theorem slot_reply (reply : Reply) (u : ThreadId) :
    ((s.reply t reply).thread u).slot = (s.thread u).slot :=
  slot_updateThread (fun thread => { thread with reply }) (fun _ => rfl) u

theorem turn_offer_of_answeredAtOnce {order : Order} {callback : Callback} {code : Code}
    (hb : s.tasks t = .offer order callback :: rest)
    (hnow : callback.answeredAtOnce order.request order.result = some code) :
    ∃ s' s'', s.step? t = some s' ∧ s'.step? t = some s'' ∧ s''.tasks t = rest ∧
      (s''.thread t).reply = .code code ∧ s''.core = s.core ∧
      ∀ u, (s''.thread u).slot = (s.thread u).slot := by
  have ht : t ∈ (s.setTasks t rest).threads := mem_threads_setTasks hb
  rcases offer_cases (s.setTasks t rest) t order callback with
    ⟨code', records, hcode, hoffer⟩ | ⟨hlater, -⟩
  · cases hnow.symm.trans hcode
    let m := ((s.setTasks t rest).log t records).note t [.waived callback]
    let s' := m.push t [.answer order.request callback order.result code]
    let n := (s'.setTasks t rest).note t [.answered order.request callback order.result code]
    have hpush : Frame m s' t [.answer order.request callback order.result code] [] :=
      frame_push _ ht
    have hb' : s'.tasks t = .answer order.request callback order.result code :: rest := by
      rw [hpush.own]
      exact congrArg _ (tasks_setTasks_of_cons hb)
    have ht' : t ∈ s'.threads := by
      rw [hpush.threads]
      exact ht
    refine ⟨s', n.reply t (.code code), (step?_eq hb).trans (congrArg some hoffer), step?_eq hb',
      ?_, ?_, ?_, ?_⟩
    · rw [(frame_reply (s := n) (.code code)).own]
      exact tasks_setTasks_self ht'
    · have hself := n.thread_updateThread_self t (fun thread => { thread with reply := .code code })
        ((threads_setTasks (s := s')).symm ▸ ht')
      exact congrArg Thread.reply hself
    · rw [(frame_reply (s := n) (t := t) (.code code)).core]
      exact core_setTasks.trans (hpush.core.trans core_setTasks)
    · intro u
      have hset : (n.thread u).slot = (s'.thread u).slot := slot_setTasks u
      have hfirst : (m.thread u).slot = (s.thread u).slot := slot_setTasks u
      rw [slot_reply, hset, slot_push, hfirst]
  · cases hnow.symm.trans hlater

theorem turn_offer_of_asked {order : Order} {callback : Callback}
    (hb : s.tasks t = .offer order callback :: rest)
    (hlater : callback.answeredAtOnce order.request order.result = none) :
    ∃ s' delay, s.step? t = some s' ∧
      s'.tasks t = .enter (.post order.request callback delay order.result) :: rest := by
  have hstep : s.step? t = some ((s.setTasks t rest).offer t order callback) := step?_eq hb
  obtain ⟨pushed, events, h⟩ := turn_step? hb hstep
  cases he : h.effect with
  | ordinary hq => cases hq
  | waive hnow => cases hnow.symm.trans hlater
  | ask => exact ⟨_, _, hstep, h.after⟩

theorem Reachable.gone (hr : Reachable name s) {request : Request} {callback : Callback}
    {result : Int32} {code : Code}
    (hm : (t, .answered request callback result code) ∈ s.trace) {e : Event}
    (he : (t, e) ∈ s.trace) (hl : 0 < e.leaves .due callback.serial)
    (hno : (callback, result) ∉ s.accepted) : s.Gone callback.serial where
  released := hr.released .due _ he hl
  finished := hr.finished t request callback result code hm hno

theorem Reachable.accepted_ne_aborted (hr : Reachable name s) {u : ThreadId}
    {callback other : Callback} {result : Int32} (ha : (callback, result) ∈ s.accepted)
    (hm : (u, .aborted other) ∈ s.trace) : other.serial ≠ callback.serial := by
  intro hserial
  have hl : 0 < (Event.aborted other).leaves .decided callback.serial := by
    simp [Event.leaves, hserial]
  have hfree := hr.released .decided callback.serial hm hl
  rw [hr.delivered, List.append_assoc] at ha
  rcases List.mem_append.mp ha with ha | ha
  · obtain ⟨v, hv⟩ := mem_dispatched.mp ha
    have honce := hr.leaves_once .decided callback.serial hv hm (by simp [Event.leaves]) hl
    cases honce.2
  · rcases List.mem_append.mp ha with ha | ha
    · obtain ⟨x, hx, hpick⟩ := List.mem_filterMap.mp ha
      cases x <;> simp [Task.taken?] at hpick
      obtain ⟨rfl, rfl⟩ := hpick
      have hzero := hfree.tasks _ _ hx
      simp [Task.holds, Callback.heldAt, Stage.upTo] at hzero
    · obtain ⟨item, hitem, hpick⟩ := List.mem_filterMap.mp ha
      cases item <;> simp [Item.waiting?] at hpick
      obtain ⟨rfl, rfl⟩ := hpick
      have hzero := hfree.queue _ hitem
      simp [Item.holds, Callback.heldAt, Stage.upTo] at hzero

theorem Reachable.untouched_of_waived (hr : Reachable name s) {callback : Callback}
    (hw : (t, .waived callback) ∈ s.trace) :
    ∀ entry ∈ s.trace, entry.2.touches callback.serial = false := by
  intro ⟨u, e⟩ he
  rw [Bool.eq_false_iff]
  intro htouch
  obtain ⟨limit, hl⟩ := Event.leaves_of_touches htouch
  have honce := hr.leaves_once limit callback.serial hw he (by simp [Event.leaves]) hl
  rw [← honce.2] at htouch
  cases htouch

theorem Reachable.gate_section (hr : Reachable name s) {before after : List (ThreadId × Event)}
    (htrace : s.trace = before ++ after) {entry : ThreadId × Event} (he : entry ∈ before) :
    ∃ first second, before = first ++ entry :: second ∧ GateGuard first entry ∧
      UntouchedGuard first entry := by
  obtain ⟨first, second, hsplit⟩ := List.append_of_mem he
  have hwhole : s.trace = first ++ entry :: (second ++ after) := by
    rw [htrace, hsplit, List.append_assoc]
    rfl
  exact ⟨first, second, hsplit, hr.gate_order _ _ _ hwhole, hr.untouched_before _ _ _ hwhole⟩

theorem Reachable.fate (hr : Reachable name s) {before after : List (ThreadId × Event)}
    {request : Request} {callback : Callback} {result : Int32} {code : Code}
    (htrace : s.trace = before ++ (t, .answered request callback result code) :: after) :
    s.Fate before t request callback result code := by
  have hsub {entry : ThreadId × Event} (he : entry ∈ before) : entry ∈ s.trace := by
    rw [htrace]
    exact List.mem_append_left _ he
  have hm : (t, .answered request callback result code) ∈ s.trace := by simp [htrace]
  cases hr.settled_before _ _ _ htrace request callback result code rfl with
  | waived hnow hw =>
    have hnever := hr.untouched_of_waived (hsub hw)
    refine .waived hnow hnever (hr.gone hm (hsub hw) (by simp [Event.leaves]) fun ha => ?_)
    obtain ⟨u, hu⟩ := mem_accepted.mp ha
    have htouch := hnever _ hu
    simp [Event.touches] at htouch
  | queued hlater ha =>
    obtain ⟨first, second, hsplit, ⟨hmark, -⟩, -⟩ := hr.gate_section htrace ha
    have haccepted : (callback, result) ∈ s.accepted := mem_accepted.mpr ⟨t, hsub ha⟩
    refine .queued first second hlater hsplit (fun u hu => ?_) (hr.delivered ▸ haccepted)
      (hr.released .offered _ (hsub ha) (by simp [Event.leaves])) fun u other hserial =>
        ⟨fun hf => ?_, fun hf => ?_⟩
    · cases hmark callback result rfl _ hu
    · exact hr.accepted_ne_refused (hsub ha) hf hserial.symm
    · exact hr.accepted_ne_aborted haccepted hf hserial
  | rejected hlater hf hab hrun =>
    obtain ⟨first, second, hsplit, ⟨-, hmark⟩, hfree⟩ := hr.gate_section htrace hf
    have hbehind {e : Event} (he : (t, e) ∈ before) (hne : e ≠ .refused callback)
        (htouch : e.touches callback.serial = true) : (t, e) ∈ second := by
      rw [hsplit] at he
      rcases List.mem_append.mp he with he | he
      · rw [hfree callback (.inr rfl) _ he] at htouch
        cases htouch
      · rcases List.mem_cons.mp he with he | he
        · cases he
          exact absurd rfl hne
        · exact he
    have hno (u : ThreadId) (other : Callback) (number : Int32)
        (hserial : other.serial = callback.serial) : (u, .accepted other number) ∉ s.trace :=
      fun ha => hr.accepted_ne_refused ha (hsub hf) hserial
    refine .rejected first second hlater hsplit (hmark callback rfl)
      (hbehind hab (by simp) (by simp [Event.touches]))
      (hbehind hrun (by simp) (by simp [Event.touches])) ?_
      (hr.gone hm (hsub hrun) (by simp [Event.leaves]) fun ha => ?_)
    · intro u other number hserial
      refine ⟨hno u other number hserial, fun hd => ?_,
        fun hi => hr.invoked_once hi (hsub hrun) hserial⟩
      obtain ⟨v, hv⟩ := mem_accepted.mp (hr.dispatched_accepted (mem_dispatched.mpr ⟨u, hd⟩))
      exact hno v other number hserial hv
    · obtain ⟨v, hv⟩ := mem_accepted.mp ha
      exact hno v callback result rfl hv

theorem answers_tell_fate (hr : Reachable name s) : AnswerLaw s where
  waive _ _ _ _ _ hb hnow := turn_offer_of_answeredAtOnce hb hnow
  ask _ _ _ _ hb hlater := turn_offer_of_asked hb hlater
  gate := by
    intro t request callback delay result rest hb
    obtain ⟨s', pushed, events, hstep, h⟩ := step?_decide hb
    refine ⟨s', hstep, ?_⟩
    have hevents := turn_post hr h
    have hafter := h.after
    cases h.effect with
    | ordinary hq => cases hq
    | accept hquit _ hcore =>
      rw [if_neg (by simp [hquit])]
      exact ⟨congrArg Core.queue hcore, hafter⟩
    | @refuse _ _ _ _ record _ hcore =>
      cases hquit : s.quitting with
      | true => exact ⟨congrArg Core.queue hcore, record, hafter⟩
      | false =>
        rw [hquit] at hevents
        cases hevents
  outside := by
    intro t x rest hb hx
    rcases hx with ⟨callback, rfl⟩ | ⟨callback, result, rfl⟩
    · exact hr.gate_ne hb rfl (by simp)
    · exact hr.gate_ne hb rfl (by simp)
  answered _ _ _ _ _ _ _ htrace := hr.fate htrace
  apart := by
    intro t u callback other result hd ha hserial
    have honce := hr.leaves_once .decided callback.serial hd ha (by simp [Event.leaves])
      (by simp [Event.leaves, hserial])
    cases honce.2

theorem answers_tell_fate_after_quit : ∃ s, Reachable "loop" s ∧ s.quitting = true ∧
    s.trace.countP (fun entry => entry.2.touches 0) = 3 ∧ AnswerLaw s := by
  have hquit := (Reachable.start "loop").act .main (.quit .poster) (List.replicate 5 .main)
    (by decide) (by decide) (by decide)
  have hpost := hquit.act .main (.post ⟨.post, .poster, 0, 7⟩ false (.native 9))
    (List.replicate 9 .main) (by decide +kernel) (by decide) (by decide +kernel)
  exact ⟨_, hpost, by decide +kernel, by decide +kernel, answers_tell_fate hpost⟩

end Bridge
end HostBridge
