import HostBridge.Proofs.Code.RoundTrip
import HostBridge.Proofs.Completion.Panics
import HostBridge.Proofs.MessageLoop.ForeignCode

/-!
# The lines of a call

Whoever calls a callback logs that it is entered before anything of it is done, and that its body
panicked after all of it has been done. What is logged in between belongs to the body: it is of
something else, or it is the whole of another call that the body has led to. So the lines of calls
are nested as the calls are, on every thread, and no other line is like them.
-/
namespace HostBridge

/-- Neither that a callback is called, nor what is logged of that. -/
def Event.isAside : Event → Bool
  | .logged record => record.target != Log.completionTarget
  | .started .. | .finished _ | .native .. | .aborted _ | .invoked .. => false
  | _ => true

inductive Stretch
  | call (callback : Callback) (result : Int32)
  | abort (callback : Callback)
  | body (serial : Nat) (name : String) (actions : List Action)
  | aside

namespace Stretch

/-- Events are all that a thread notes of a stretch, from its beginning to its end. -/
inductive Spans : Stretch → List Event → Prop
  | closed {callback : Callback} {result : Int32} : callback.opens result = [] →
      Spans (call callback result) (callback.notes result)
  | opened {callback : Callback} {result : Int32} {name : String} {actions : List Action}
      {inner : List Event} : callback.opens result = [.body callback.serial name actions] →
      Spans (body callback.serial name actions) inner →
      Spans (call callback result) (callback.notes result ++ inner)
  | aborted {callback : Callback} {inner : List Event} : callback.isBlocking = false →
      Spans (call callback NamedCode.aborted.number) inner →
      Spans (abort callback) (.aborted callback :: .logged Log.abortingRecord :: inner)
  | finished (serial : Nat) (name : String) : Spans (body serial name []) [.finished serial]
  | panicked (serial : Nat) (name : String) (payload : PanicPayload) (rest : List Action) :
      Spans (body serial name (.panic payload :: rest))
        [.logged (Log.panickedRecord name payload.text)]
  | acted {serial : Nat} {name : String} {action : Action} {rest : List Action}
      {inner later : List Event} (reply : Reply) : action.isPanic = false → Spans aside inner →
      Spans (body serial name rest) later →
      Spans (body serial name (action :: rest))
        (inner ++ (if action.isReported then [.acted action.name reply] else []) ++ later)
  | asked {serial : Nat} {name : String} {actions : List Action} {inner later : List Event} :
      Spans aside inner → Spans (body serial name actions) later →
      Spans (body serial name actions) (inner ++ later)
  | nothing : Spans aside []
  | other {event : Event} {later : List Event} : event.isAside = true → Spans aside later →
      Spans aside (event :: later)
  | called {callback : Callback} {result : Int32} {inner later : List Event} :
      Spans (call callback result) inner → Spans aside later → Spans aside (inner ++ later)
  | released {callback : Callback} {inner later : List Event} :
      Spans (abort callback) inner → Spans aside later → Spans aside (inner ++ later)

variable {first second events : List Event}

theorem Spans.append (h : aside.Spans first) (hsecond : aside.Spans second) :
    aside.Spans (first ++ second) := by
  generalize hstretch : aside = stretch at h
  induction h with
  | nothing => exact hsecond
  | other he _ ih => exact .other he (ih hstretch)
  | called hcall _ _ ih =>
    rw [List.append_assoc]
    exact .called hcall (ih hstretch)
  | released habort _ _ ih =>
    rw [List.append_assoc]
    exact .released habort (ih hstretch)
  | _ => cases hstretch

theorem spans_of_isAside (h : ∀ e ∈ events, e.isAside = true) : aside.Spans events := by
  induction events with
  | nil => exact .nothing
  | cons e events ih =>
    exact .other (h e (by simp)) (ih fun x hx => h x (List.mem_cons_of_mem _ hx))

end Stretch

def Task.Spans : Task → List Event → Prop
  | .invoke callback result, events => (Stretch.call callback result).Spans events
  | .abort callback, events =>
    if callback.isBlocking then events = [] else (Stretch.abort callback).Spans events
  | .body serial name actions, events => (Stretch.body serial name actions).Spans events
  | .report name, events => ∃ reply, events = [.acted name reply]
  | .reply _, events => events = []
  | _, events => Stretch.aside.Spans events

def Task.isAside : Task → Bool
  | .body .. | .report _ => false
  | _ => true

theorem Task.isAside_of_isOpening {task : Task} (h : task.isOpening = true) :
    task.isAside = true := by
  cases task <;> first | rfl | cases h

theorem Task.Spans.aside {task : Task} {events : List Event} (h : task.Spans events)
    (ht : task.isAside = true) : Stretch.aside.Spans events := by
  cases task with
  | invoke callback result => simpa using Stretch.Spans.called h .nothing
  | abort callback =>
    simp only [Task.Spans] at h
    split at h
    · rw [h]
      exact .nothing
    · simpa using Stretch.Spans.released h .nothing
  | reply =>
    cases h
    exact .nothing
  | body | report => cases ht
  | _ => exact h

namespace Bridge

inductive TasksSpan : List Task → List Event → Prop
  | nil : TasksSpan [] []
  | cons {task : Task} {tasks : List Task} {first later : List Event} :
      task.Spans first → TasksSpan tasks later → TasksSpan (task :: tasks) (first ++ later)

variable {s s' : Bridge} {t : ThreadId} {rest pushed tasks first second : List Task} {task : Task}
  {events inner noted : List Event}

theorem TasksSpan.split (h : TasksSpan (first ++ second) events) :
    ∃ earlier later, TasksSpan first earlier ∧ TasksSpan second later ∧
      events = earlier ++ later := by
  induction first generalizing events with
  | nil => exact ⟨[], events, .nil, h, rfl⟩
  | cons task first ih =>
    cases h with
    | cons htask hrest =>
      obtain ⟨earlier, later, h₁, h₂, rfl⟩ := ih hrest
      exact ⟨_, later, .cons htask h₁, h₂, by simp⟩

theorem tasksSpan_singleton (h : TasksSpan [task] events) : task.Spans events := by
  cases h with
  | cons htask hrest =>
    cases hrest
    rwa [List.append_nil]

theorem TasksSpan.aside (h : TasksSpan tasks events) (ht : ∀ x ∈ tasks, x.isAside = true) :
    Stretch.aside.Spans events := by
  induction h with
  | nil => exact .nothing
  | cons htask _ ih =>
    exact (htask.aside (ht _ (by simp))).append (ih fun x hx => ht x (List.mem_cons_of_mem _ hx))

theorem isAside_actTasks (action : Action) : ∀ x ∈ s.actTasks action, x.isAside = true := by
  intro x hx
  cases action with
  | run slot result =>
    simp only [actTasks] at hx
    split at hx
    · simp only [List.mem_cons, List.not_mem_nil, or_false] at hx
      rcases hx with rfl | rfl <;> rfl
    · cases hx
  | post order optional recipe =>
    simp only [actTasks] at hx
    split at hx
    · cases hvia : order.via <;> rw [hvia] at hx <;> rw [List.mem_singleton.mp hx] <;> rfl
    · cases hx
  | quit via =>
    simp only [actTasks] at hx
    split at hx
    · cases via <;> simp only [Via.tasks, List.mem_cons, List.not_mem_nil, or_false] at hx <;>
        rcases hx with rfl | rfl <;> rfl
    · cases hx
  | joinLoop =>
    simp only [actTasks] at hx
    split at hx
    · revert x
      decide
    · cases hx
  | dropLoop =>
    simp only [actTasks] at hx
    split at hx
    · revert x
      decide
    · cases hx
  | _ => cases hx

theorem TasksSpan.after (h : TasksSpan pushed inner) (hp : ∀ x ∈ pushed, x.isAside = true)
    (hn : ∀ e ∈ noted, e.isAside = true) : Stretch.aside.Spans (noted ++ inner) :=
  (Stretch.spans_of_isAside hn).append (h.aside hp)

theorem spans_of_opens {callback : Callback} {result : Int32}
    (h : TasksSpan (callback.opens result) inner) :
    (Stretch.call callback result).Spans (callback.notes result ++ inner) := by
  rcases opens_cases callback result with hnone | ⟨name, body, hbody⟩
  · rw [hnone] at h
    cases h
    rw [List.append_nil]
    exact .closed hnone
  · rw [hbody] at h
    exact .opened hbody (tasksSpan_singleton h)

theorem spans_of_bodyTasks {serial : Nat} {name : String} {actions : List Action}
    (h : TasksSpan (bodyTasks serial name actions) inner) :
    (Stretch.body serial name actions).Spans (bodyNotes serial name actions ++ inner) := by
  cases actions with
  | nil =>
    cases h
    exact .finished serial name
  | cons action more =>
    cases hp : action.isPanic with
    | true =>
      cases action with
      | panic payload =>
        cases h
        exact .panicked serial name payload more
      | _ => cases hp
    | false =>
      rw [bodyTasks_cons hp] at h
      rw [bodyNotes_cons hp]
      obtain ⟨earlier, later, htasks, hbody, rfl⟩ := h.split
      cases htasks with
      | cons hact hreport =>
        have hnext (reply : Reply) :=
          Stretch.Spans.acted reply hp hact (tasksSpan_singleton hbody)
        by_cases hreported : action.isReported = true
        · rw [if_pos hreported] at hreport
          obtain ⟨reply, rfl⟩ := tasksSpan_singleton hreport
          simpa [hreported] using hnext reply
        · rw [if_neg hreported] at hreport
          cases hreport
          simpa [hreported] using hnext .nothing

theorem trace_offer (order : Order) (callback : Callback) : ∃ events : List Event,
    (s.offer t order callback).trace = s.trace ++ events.map (t, ·) ∧
      ∀ e ∈ events, e.isAside = true := by
  have hwaived (records : List Log.Record) (pushed : List Task)
      (hr : ∀ record ∈ records, record.target ≠ Log.completionTarget) : ∃ events : List Event,
      (((s.log t records).note t [.waived callback]).push t pushed).trace =
          s.trace ++ events.map (t, ·) ∧ ∀ e ∈ events, e.isAside = true := by
    refine ⟨records.map .logged ++ [.waived callback], ?_, ?_⟩
    · rw [push, trace_updateThread]
      simp [note, log]
    · intro e he
      rcases List.mem_append.mp he with he | he
      · obtain ⟨record, hrecord, rfl⟩ := List.mem_map.mp he
        simpa [Event.isAside] using hr record hrecord
      · rw [List.mem_singleton.mp he]
        rfl
  have hasked (pushed : List Task) : ∃ events : List Event,
      (s.push t pushed).trace = s.trace ++ events.map (t, ·) ∧ ∀ e ∈ events, e.isAside = true :=
    ⟨[], by simp [push, trace_updateThread], by simp⟩
  unfold offer
  split
  · split
    · exact hwaived _ _ (by simp [Log.loopRecord, Log.loopTarget, Log.completionTarget])
    · exact hasked _
  · split
    · refine hwaived _ _ fun record hrecord => ?_
      cases hcode : Code.ofNumber order.result <;>
        simp [Code.warnings, hcode] at hrecord
      simp [hrecord, Log.completionTarget]
    · exact hasked _

theorem Turn.isAside_offer {order : Order} {callback : Callback}
    (h : Turn s s' t [.offer order callback] pushed rest noted) (hstep : s.step? t = some s') :
    ∀ e ∈ noted, e.isAside = true := by
  have hb : s.tasks t = .offer order callback :: rest := h.before
  obtain ⟨events, htrace, haside⟩ := trace_offer (s := s.setTasks t rest) (t := t) order callback
  have hs' : (s.setTasks t rest).offer t order callback = s' :=
    Option.some.inj ((step?_eq hb).symm.trans hstep)
  rw [hs', trace_setTasks] at htrace
  rw [(h.unique h.after htrace).2]
  exact haside

theorem step?_abort {callback : Callback} (hb : s.tasks t = .abort callback :: rest)
    (hblocking : callback.isBlocking = false) :
    s.step? t = some ((((s.setTasks t rest).note t [.aborted callback]).log t
      [Log.abortingRecord]).push t [.invoke callback NamedCode.aborted.number]) := by
  simp [step?_eq hb, perform?, hblocking]

theorem Turn.abort_eq {callback : Callback} (h : Turn s s' t [.abort callback] pushed rest noted)
    (hstep : s.step? t = some s') (hblocking : callback.isBlocking = false) :
    pushed = [.invoke callback NamedCode.aborted.number] ∧
      noted = [.aborted callback, .logged Log.abortingRecord] := by
  have hb : s.tasks t = .abort callback :: rest := h.before
  obtain rfl := Option.some.inj ((step?_abort hb hblocking).symm.trans hstep)
  have hf := ((frame_note (s := s.setTasks t rest) (t := t) [.aborted callback]).trans
    (frame_log [Log.abortingRecord])).trans
      (frame_push [.invoke callback NamedCode.aborted.number] (mem_threads_setTasks hb))
  exact h.unique (by simpa [tasks_setTasks_of_cons hb] using hf.own) (by simpa using hf.trace)

theorem Deed.spans (h : Deed s s' t rest task pushed noted)
    (hturn : Turn s s' t [task] pushed rest noted) (hstep : s.step? t = some s')
    (hlogs : task.LogsRefusal) (hinner : TasksSpan pushed inner) :
    task.Spans (noted ++ inner) := by
  cases h with
  | invoke callback result => exact spans_of_opens hinner
  | body serial name actions => exact spans_of_bodyTasks hinner
  | act action => exact hinner.after (isAside_actTasks action) (by simp)
  | report name =>
    cases hinner
    exact ⟨_, rfl⟩
  | silent hs =>
    cases hinner
    cases task with
    | abort callback =>
      have hblocking : callback.isBlocking = true := hs
      simp [Task.Spans, hblocking]
    | reply => rfl
    | awaitHelper | await | openLatch | clonePoster | dropPoster => exact .nothing
    | _ => cases hs
  | waive => exact hinner.after (by simp [Task.isAside]) (hturn.isAside_offer hstep)
  | ask => exact hinner.after (by simp [Task.isAside]) (by simp)
  | other hquiet hrequest he =>
    cases he with
    | ordinary hordinary => cases hordinary.symm.trans hquiet
    | invoke | waive | ask => cases hrequest
    | abort hblocking =>
      obtain ⟨-, hnoted⟩ := hturn.abort_eq hstep hblocking
      rw [hnoted, Task.Spans, if_neg (by simp [hblocking])]
      exact .aborted hblocking (tasksSpan_singleton hinner)
    | shutDown htasks =>
      refine hinner.after (fun x hx => ?_) (by simp)
      rcases htasks with rfl | rfl <;> revert x <;> decide
    | @log record =>
      refine hinner.after (by simp) fun e he => ?_
      obtain ⟨name, hrecord⟩ := hlogs record rfl
      rw [List.mem_singleton.mp he]
      rcases hrecord with rfl | rfl <;>
        simp [Event.isAside, Log.loopRecord, Log.loopTarget, Log.completionTarget]
    | _ => exact hinner.after (by simp [Task.isAside]) (by simp [Event.isAside])

/-- Until a thread is back at the rest of its tasks, everybody moves as they like. The thread
itself takes its steps, and the bodies that it goes through ask for what they like. -/
inductive Visit (t : ThreadId) (rest : List Task) : Bridge → Bridge → Prop
  | back {s : Bridge} : s.tasks t = rest → Visit t rest s s
  | next {s s' s'' : Bridge} {m : Motion} : s.tasks t ≠ rest → Moved s m s' →
      Visit t rest s' s'' → Visit t rest s s''

theorem body_of_isFree (hfree : s.IsFree t) (hs : s.tasks t = task :: tasks) :
    ∃ serial name actions, task = .body serial name actions := by
  rcases hfree.idle_or_body with ⟨hidle, -⟩ | ⟨serial, name, actions, _, hbody⟩
  · cases hs.symm.trans hidle
  · exact ⟨serial, name, actions, (List.cons.inj (hs.symm.trans hbody)).1⟩

theorem Visit.spans (h : Visit t rest s s') (hs : s.tasks t = tasks ++ rest)
    (hlogs : ∀ x ∈ tasks, x.LogsRefusal) : s'.tasks t = rest ∧ ∃ events, TasksSpan tasks events ∧
      s'.noted t = s.noted t ++ events := by
  -- By induction on the moves, for any tasks: each move of the thread puts others above the rest.
  induction h generalizing tasks with
  | @back s hback =>
    have hempty : tasks = [] := by simpa using hs.symm.trans hback
    subst hempty
    exact ⟨hback, [], .nil, by simp⟩
  | @next s m s'' motion hne hm _ ih =>
    obtain ⟨task, more, rfl⟩ : ∃ task more, tasks = task :: more := by
      cases tasks with
      | nil => exact absurd hs hne
      | cons task more => exact ⟨task, more, rfl⟩
    have hmore : ∀ x ∈ more, x.LogsRefusal := fun x hx => hlogs x (by simp [hx])
    by_cases hown : motion.thread? = some t
    · cases hm with
      | @step _ u hstep =>
        cases hown
        obtain ⟨pushed, noted, hturn, hdeed⟩ := deed_step? hs hstep
        obtain ⟨hback, events, hspans, hnoted⟩ :=
          ih (show m.tasks t = pushed ++ more ++ rest by simpa using hturn.after) fun x hx =>
            (List.mem_append.mp hx).elim (hturn.logs hstep x) (hmore x)
        obtain ⟨inner, later, hpushed, hlater, rfl⟩ := hspans.split
        refine ⟨hback, _, .cons (hdeed.spans hturn hstep (hlogs task (by simp)) hpushed) hlater, ?_⟩
        rw [hnoted, hturn.noted.1, List.append_assoc, List.append_assoc]
      | @call u call hfree =>
        cases hown
        obtain ⟨serial, name, actions, rfl⟩ := body_of_isFree hfree hs
        obtain ⟨asked, hturn, hopening⟩ := turn_call hfree call
        have hafter : (s.call t call).tasks t =
            asked ++ .body serial name actions :: more ++ rest := by
          simpa [hs] using hturn.after
        obtain ⟨hback, events, hspans, hnoted⟩ := ih hafter fun x hx =>
          (List.mem_append.mp hx).elim (fun hx => Task.logsRefusal_of_isOpening (hopening x hx))
            (hlogs x)
        obtain ⟨inner, later, hasked, hlater, rfl⟩ := hspans.split
        cases hlater with
        | @cons _ _ first later hbody hlater =>
          have haside := hasked.aside fun x hx => Task.isAside_of_isOpening (hopening x hx)
          refine ⟨hback, _, .cons (.asked haside hbody) hlater, ?_⟩
          rw [hnoted, hturn.noted.1]
          simp
      | enlist => cases hown
    · -- What another thread does is not seen by this one.
      obtain ⟨htasks, hnoted, -⟩ := hm.aside hown (by rw [hs]; simp)
      obtain ⟨hback, events, hspans, hnoted'⟩ := ih (htasks.trans hs) hlogs
      exact ⟨hback, events, hspans, by rw [hnoted', hnoted]⟩

end Bridge

def endingPanic? : List Action → Option PanicPayload
  | [] => none
  | .panic payload :: _ => some payload
  | _ :: rest => endingPanic? rest

theorem endingPanic?_cons {action : Action} {rest : List Action} (h : action.isPanic = false) :
    endingPanic? (action :: rest) = endingPanic? rest := by
  cases action <;> first | rfl | cases h

def Closure.lines (closure : Closure) (result : Int32) (inner : List Log.Record) :
    List Log.Record :=
  (Code.receive result).2 ++ Log.enteringRecord closure.name (Code.receive result).1 ::
    match closure.duty with
    | .send _ => []
    | .perform trigger body =>
      if trigger.admits (Code.receive result).1 then
        inner ++ (endingPanic? body).toList.map fun payload =>
          Log.panickedRecord closure.name payload.text
      else [Log.skippedRecord closure.name (Code.receive result).1]

namespace Stretch

variable {events : List Event} {callback : Callback} {result : Int32}

theorem Spans.body_end {serial : Nat} {name : String} {actions : List Action}
    (h : (body serial name actions).Spans events) :
    ∃ inner, aside.Spans inner ∧ events.filterMap Event.record? = inner.filterMap Event.record? ++
      (endingPanic? actions).toList.map fun payload => Log.panickedRecord name payload.text := by
  generalize hstretch : body serial name actions = stretch at h
  induction h generalizing actions with
  | finished =>
    cases hstretch
    exact ⟨[], .nothing, rfl⟩
  | panicked =>
    cases hstretch
    exact ⟨[], .nothing, rfl⟩
  | @acted _ _ action _ acted _ reply hp hacted _ _ ih =>
    cases hstretch
    obtain ⟨inner, hinner, hlines⟩ := ih rfl
    refine ⟨acted ++ inner, hacted.append hinner, ?_⟩
    have hreport : (if action.isReported then [.acted action.name reply] else []).filterMap
        Event.record? = [] := by split <;> rfl
    simp [endingPanic?_cons hp, hreport, hlines]
  | @asked _ _ _ asked _ hasked _ _ ih =>
    cases hstretch
    obtain ⟨inner, hinner, hlines⟩ := ih rfl
    exact ⟨asked ++ inner, hasked.append hinner, by simp [hlines]⟩
  | _ => cases hstretch

theorem records_logged (records : List Log.Record) :
    (records.map Event.logged).filterMap Event.record? = records := by
  rw [List.filterMap_map]
  exact List.filterMap_some

theorem records_notes {closure : Closure} (hc : callback.target = .closure (some closure)) :
    (callback.notes result).filterMap Event.record? =
      (Code.receive result).2 ++ Log.enteringRecord closure.name (Code.receive result).1 ::
        (closure.notes callback.serial (Code.receive result).1).filterMap Event.record? := by
  rw [Callback.notes, hc]
  simp only
  rw [List.filterMap_cons_none rfl, List.filterMap_append, records_logged]
  simp

theorem Spans.lines {closure : Closure} (h : (call callback result).Spans events)
    (hc : callback.target = .closure (some closure)) : ∃ inner, aside.Spans inner ∧
      events.filterMap Event.record? = closure.lines result (inner.filterMap Event.record?) := by
  obtain ⟨name, duty⟩ := closure
  cases h with
  | closed hopens =>
    refine ⟨[], .nothing, ?_⟩
    rw [records_notes hc]
    cases duty with
    | send channel => rfl
    | perform trigger body =>
      cases hadmits : trigger.admits (Code.receive result).1 with
      | true => simp [Callback.opens, hc, Closure.opens, hadmits] at hopens
      | false => simp [Closure.notes, Closure.lines, hadmits, Event.record?]
  | @opened _ _ _ actions inner hopens hbody =>
    obtain ⟨told, htold, hlines⟩ := hbody.body_end
    refine ⟨told, htold, ?_⟩
    rw [List.filterMap_append, records_notes hc, hlines]
    cases duty with
    | send channel => simp [Callback.opens, hc, Closure.opens] at hopens
    | perform trigger body =>
      cases hadmits : trigger.admits (Code.receive result).1 with
      | true =>
        simp [Callback.opens, hc, Closure.opens, hadmits] at hopens
        obtain ⟨rfl, rfl⟩ := hopens
        simp [Closure.notes, Closure.lines, hadmits, Event.record?]
      | false => simp [Callback.opens, hc, Closure.opens, hadmits] at hopens

end Stretch

namespace Bridge

variable {s s' : Bridge} {t : ThreadId} {rest : List Task}

theorem Visit.task {task : Task} (h : Visit t rest s s') (hb : s.tasks t = task :: rest)
    (hlogs : task.LogsRefusal) : s'.tasks t = rest ∧ ∃ events, task.Spans events ∧
      s'.noted t = s.noted t ++ events := by
  obtain ⟨hback, events, hspans, hnoted⟩ :=
    h.spans (show s.tasks t = [task] ++ rest from hb) (by simpa using hlogs)
  exact ⟨hback, events, tasksSpan_singleton hspans, hnoted⟩

theorem Visit.run {slot : Nat} {callback : Callback} {result : Int32} {m : Bridge}
    (h : Visit t rest m s') (hb : s.tasks t = .act (.run slot result) :: rest)
    (hslot : s.slots.get? slot = some callback) (hstep : s.step? t = some m) :
    s'.tasks t = rest ∧ ∃ events,
      (Stretch.call callback result).Spans events ∧ s'.noted t = s.noted t ++ events := by
  obtain ⟨pushed, noted, hturn, hdeed⟩ := deed_step? hb hstep
  obtain ⟨rfl, rfl⟩ := hdeed.act_eq
  have hafter : m.tasks t = [.invoke callback result, .reply .nothing] ++ rest := by
    simpa [actTasks, hslot] using hturn.after
  obtain ⟨hback, events, hspans, hnoted⟩ :=
    h.spans hafter (by simp [Task.LogsRefusal])
  obtain ⟨earlier, later, hcall, hreply, rfl⟩ :=
    (show TasksSpan ([.invoke callback result] ++ [.reply .nothing]) events from hspans).split
  obtain rfl : later = [] := tasksSpan_singleton hreply
  refine ⟨hback, earlier, tasksSpan_singleton hcall, ?_⟩
  rw [hnoted, hturn.noted.1, List.append_nil, List.append_nil]

end Bridge
end HostBridge
