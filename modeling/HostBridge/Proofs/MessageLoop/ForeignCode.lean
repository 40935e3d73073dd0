import HostBridge.Proofs.MessageLoop.Sink

/-!
# Foreign code and the gate

Whoever is inside the gate calls no callback. It does log: that a callback is turned away is told
before the gate is left. With a listener that does not call back on that, no foreign code runs
inside the gate, and nobody waits for a gate that they hold themselves. With one that does, the
thread that has been turned away waits for ever.
-/
namespace HostBridge

def Event.IsAtGate : Event → Prop
  | .accepted .. | .refused _ | .quitQueued => True
  | .logged record => record.IsRefusal
  | _ => False

def Task.LogsRefusal (x : Task) : Prop := ∀ record, x = .log record → record.IsRefusal

theorem Task.logsRefusal_of_isOpening {x : Task} (h : x.isOpening = true) : x.LogsRefusal := by
  rintro record rfl
  cases h

namespace Bridge

variable {s s' : Bridge} {t : ThreadId} {popped pushed rest : List Task} {events : List Event}

theorem Shaped.push (hs : Shaped s) {tasks : List Task} (ho : ∀ x ∈ tasks, x.isOpening = true)
    (hloop : t = .loop → tasks = [] ∨
      ∃ more, s.tasks .loop = more ++ [.receive] ∧ ∀ y ∈ more, y.isWork = true) :
    Shaped (s.push t tasks) where
  loop := by
    by_cases ht : t = .loop
    · subst ht
      rcases tasks_push s .loop tasks with hpush | hpush
      · rw [hpush]
        rcases hloop rfl with rfl | hmore
        · exact hs.loop
        · exact LoopStack.push (fun x hx => Task.isWork_of_isOpening (ho x hx)) hs.loop hmore
      · rw [hpush]
        exact hs.loop
    · rw [tasks_push_ne s (Ne.symm ht)]
      exact hs.loop
  others := by
    intro u hu x hx
    by_cases hut : u = t
    · subst hut
      rcases tasks_push s u tasks with hpush | hpush
      · rw [hpush] at hx
        rcases List.mem_append.mp hx with hx | hx
        · exact Task.isWork_of_isOpening (ho x hx)
        · exact hs.others u hu x hx
      · rw [hpush] at hx
        exact hs.others u hu x hx
    · rw [tasks_push_ne s hut] at hx
      exact hs.others u hu x hx

theorem gateStack_push {held : Bool} {tasks : List Task} (hs : GateStack held (s.tasks t))
    (ho : ∀ x ∈ tasks, x.isOpening = true) (hheld : held = true → tasks = []) :
    GateStack held ((s.push t tasks).tasks t) := by
  rcases tasks_push s t tasks with hpush | hpush
  · rw [hpush]
    generalize s.tasks t = stack at hs
    cases hs with
    | outside hout => exact GateStack.push (fun x hx => Task.isGated_of_isOpening (ho x hx)) hout
    | inside hi hout =>
      rw [hheld rfl, List.nil_append]
      exact GateStack.inside hi hout
  · rw [hpush]
    exact hs

theorem holds_push (u : ThreadId) (tasks : List Task) : (s.push t tasks).holds u = s.holds u :=
  holds_congr (congrArg Core.gate (core_push s t tasks)) u

structure Overheard (s : Bridge) : Prop where
  shaped : Shaped s
  gated : Gated s
  logs : ∀ u, ∀ x ∈ s.tasks u, x.LogsRefusal

theorem Overheard.at_gate (hs : Overheard s) {x : Task} (h : Turn s s' t [x] pushed rest events)
    (hg : s.gate = some t) : ∀ e ∈ events, e.IsAtGate := by
  have hstack := hs.gated t
  rw [holds_iff.mpr hg, h.before] at hstack
  have hlogs : x.LogsRefusal := hs.logs t x (h.mem_popped (by simp))
  intro e he
  rcases hstack.cons_cases with ⟨hno, -⟩ | ⟨-, hgated, -⟩ | ⟨-, record, _, rfl, -⟩
  · cases hno
  · cases x with
    | decide errand =>
      cases h.effect with
      | ordinary hq => cases hq
      | accept | refuse | quit =>
        rw [List.mem_singleton.mp he]
        trivial
      | quitLost | quitAgain => cases he
    | leave =>
      cases h.effect with
      | ordinary hq => cases hq
      | leave => cases he
    | _ => cases hgated
  · cases h.effect with
    | ordinary hq => cases hq
    | log =>
      rw [List.mem_singleton.mp he]
      exact hlogs record rfl

theorem Turn.gate_before {x : Task} (h : Turn s s' t [x] pushed rest events)
    (hg : s'.gate = some t) : s.gate = some t ∨ events = [] := by
  cases h.effect with
  | enter => exact .inr rfl
  | leave hcore =>
    have hgate : s'.gate = none := congrArg Core.gate hcore
    rw [hgate] at hg
    cases hg
  | _ =>
    have hcore := ‹s'.core = _›
    have hgate : s'.gate = s.gate := congrArg Core.gate hcore
    exact .inl (hgate ▸ hg)

theorem Turn.loop_works {x : Task} (h : Turn s s' .loop [x] pushed rest events) (hs : Shaped s)
    {record : Log.Record} (he : .logged record ∈ events) :
    ∃ more, s'.tasks .loop = more ++ [.receive] ∧ ∀ y ∈ more, y.isWork = true := by
  have hloop := hs.loop
  rw [h.before] at hloop
  rcases LoopStack.cons_cases hloop with ⟨hx, work, rfl, hw⟩ | ⟨c, d, r, rfl, rfl⟩ | ⟨rfl, rfl⟩
  · refine ⟨pushed ++ work, by simp [h.after], fun y hy => ?_⟩
    rcases List.mem_append.mp hy with hy | hy
    · exact h.effect.isWork (by simpa using hx) y hy
    · exact hw y hy
  · cases h.effect with
    | ordinary hq => cases hq
    | dispatch => simp at he
  · cases h.effect with
    | ordinary hq => cases hq
    | take | stop | disconnect => cases he

theorem tasks_refuse (ht : t ∈ s.threads) (request : Request) (callback : Callback)
    (result : Int32) (record : Log.Record) :
    (s.refuse t request callback result record).tasks t =
      .log record :: .leave :: .abort callback ::
        .answer request callback result (.named .failed) :: s.tasks t :=
  ((frame_note [.refused callback]).trans (frame_push (s := s.note t [.refused callback]) _ ht)).own

theorem refuse_of_decide {request : Request} {callback : Callback} {delay : Nat} {result : Int32}
    (h : s.quitting = true ∨ s.hasStopped = true) :
    ∃ record : Log.Record, record.IsRefusal ∧
      s.decide t (.post request callback delay result) =
        s.refuse t request callback result record := by
  simp only [decide]
  split
  · exact ⟨_, ⟨s.loopName, .inl rfl⟩, rfl⟩
  · next hquit =>
    rw [if_pos (h.resolve_left hquit)]
    exact ⟨_, ⟨s.loopName, .inr rfl⟩, rfl⟩

theorem Turn.logs {x : Task} (h : Turn s s' t [x] pushed rest events)
    (hstep : s.step? t = some s') : ∀ y ∈ pushed, y.LogsRefusal := by
  have hnot (hno : ∀ y ∈ pushed, ∀ record, y ≠ .log record) : ∀ y ∈ pushed, y.LogsRefusal :=
    fun y hy record hlog => absurd hlog (hno y hy record)
  cases h.effect with
  | ordinary _ ho =>
    refine hnot fun y hy record hlog => ?_
    have hordinary := ho y hy
    rw [hlog] at hordinary
    cases hordinary
  | shutDown ht => rcases ht with rfl | rfl <;> exact hnot (by simp [joinTasks, dropTasks])
  | invoke _ hpush => rcases hpush with rfl | ⟨_, _, rfl⟩ <;> exact hnot (by simp)
  | @refuse request callback delay result record hwhy =>
    have hwhy' : (s.setTasks t rest).quitting = true ∨ (s.setTasks t rest).hasStopped = true := by
      rwa [quitting_setTasks]
    obtain ⟨told, htold, hdecide⟩ := refuse_of_decide hwhy'
    have hb : s.tasks t = .decide (.post request callback delay result) :: rest := h.before
    have hs' : (s.setTasks t rest).refuse t request callback result told = s' :=
      Option.some.inj ((congrArg some hdecide).symm.trans ((step?_eq hb).symm.trans hstep))
    have hafter := h.after
    rw [← hs', tasks_refuse (mem_threads_setTasks hb), tasks_setTasks_of_cons hb] at hafter
    obtain rfl : told = record := by simpa using (List.cons.inj hafter).1
    intro y hy other hlog
    subst hlog
    simp only [List.mem_cons, Task.log.injEq, reduceCtorEq, List.not_mem_nil, or_false] at hy
    rw [hy]
    exact htold
  | _ => exact hnot (by simp)

variable {l : Listener}

theorem Overheard.turn (hs : Overheard s) (h : Turn s s' t popped pushed rest events)
    (hlogs : ∀ y ∈ pushed, y.LogsRefusal) : Overheard s' where
  shaped := hs.shaped.turn h
  gated := hs.gated.turn hs.shaped h
  logs := h.forall_tasks hs.shaped (P := fun _ y => y.LogsRefusal) hs.logs hlogs (fun _ _ => id)
    (fun _ _ => Task.logsRefusal_of_isOpening)

theorem Overheard.push (hs : Overheard s) {tasks : List Task} (ho : ∀ x ∈ tasks, x.isOpening = true)
    (hheld : s.holds t = true → tasks = [])
    (hloop : t = .loop → tasks = [] ∨
      ∃ more, s.tasks .loop = more ++ [.receive] ∧ ∀ y ∈ more, y.isWork = true) :
    Overheard (s.push t tasks) where
  shaped := hs.shaped.push ho hloop
  gated := by
    intro u
    rw [holds_push]
    by_cases hu : u = t
    · subst hu
      exact gateStack_push (hs.gated u) ho hheld
    · rw [tasks_push_ne s hu]
      exact hs.gated u
  logs := by
    intro u x hx
    by_cases hu : u = t
    · subst hu
      rcases tasks_push s u tasks with hpush | hpush <;> rw [hpush] at hx
      · rcases List.mem_append.mp hx with hx | hx
        · exact Task.logsRefusal_of_isOpening (ho x hx)
        · exact hs.logs u x hx
      · exact hs.logs u x hx
    · rw [tasks_push_ne s hu] at hx
      exact hs.logs u x hx

theorem mem_records {record : Log.Record} :
    record ∈ events.filterMap Event.record? ↔ .logged record ∈ events := by
  rw [List.mem_filterMap]
  constructor
  · rintro ⟨e, he, hrecord⟩
    cases e <;> cases hrecord
    exact he
  · exact fun he => ⟨_, he, rfl⟩

theorem Turn.listened {x : Task} (h : Turn s s' .loop [x] pushed rest events) (hs : Shaped s) :
    l.tasks (events.filterMap Event.record?) = [] ∨
      ∃ more, s'.tasks .loop = more ++ [.receive] ∧ ∀ y ∈ more, y.isWork = true := by
  by_cases hquiet : events.filterMap Event.record? = []
  · rw [hquiet]
    exact .inl rfl
  · obtain ⟨record, hrecord⟩ := List.exists_mem_of_ne_nil _ hquiet
    exact .inr (h.loop_works hs (mem_records.mp hrecord))

theorem Overheard.step (hs : Overheard s) (hl : l.IsQuiet) {m : Bridge} (h : l.step? s t = some m) :
    Overheard m := by
  obtain ⟨s', hstep, rfl⟩ := Option.map_eq_some_iff.mp h
  obtain ⟨x, rest, hb⟩ := exists_task hstep
  obtain ⟨pushed, events, hturn⟩ := turn_step? hb hstep
  rw [recordsSince_eq hturn.trace]
  refine (hs.turn hturn (hturn.logs hstep)).push (fun y => Listener.isOpening_tasks) ?_ ?_
  · intro hheld
    apply hl.tasks_eq_nil
    intro record hrecord
    have hnoted := mem_records.mp hrecord
    rcases hturn.gate_before (holds_iff.mp hheld) with hg | hnone
    · exact hs.at_gate hturn hg _ hnoted
    · rw [hnone] at hnoted
      cases hnoted
  · rintro rfl
    exact hturn.listened hs.shaped

theorem Listener.Reachable.overheard {name : String} (hl : l.IsQuiet) (hr : l.Reachable name s) :
    Overheard s := by
  unfold Listener.Reachable Listener.Leads at hr
  induction hr with
  | refl =>
    have hstart := Reachable.start name
    refine ⟨hstart.shaped, hstart.gated, fun u x hx => ?_⟩
    rw [(mem_tasks_start hx).2]
    rintro record hlog
    cases hlog
  | @tail s _ _ m ih =>
    cases m with
    | step h => exact ih.step hl h
    | call call hfree =>
      obtain ⟨pushed, hturn, ho⟩ := turn_call hfree call
      exact ih.turn hturn fun y hy => Task.logsRefusal_of_isOpening (ho y hy)
    | enlist => exact ih.turn (turn_enlist s .main) (by simp)

/-- A thread has the gate and waits for it. -/
structure Stuck (s : Bridge) (t : ThreadId) : Prop where
  shaped : Shaped s
  gate : s.gate = some t
  waits : ∃ errand rest, s.tasks t = .enter errand :: rest
  others : ∀ u, u ≠ t → GateStack false (s.tasks u)

theorem Stuck.step?_eq_none (hs : Stuck s t) : s.step? t = none := by
  obtain ⟨errand, rest, hb⟩ := hs.waits
  rw [step?_eq hb]
  simp [perform?, hs.gate]

theorem Stuck.turn (hs : Stuck s t) {u : ThreadId} (hu : u ≠ t)
    (h : Turn s s' u popped pushed rest events) : Stuck s' t := by
  have hholds {v : ThreadId} (hv : v ≠ t) : s.holds v = false := by
    simp [holds, hs.gate, Ne.symm hv]
  have hstack : GateStack (s.holds u) (s.tasks u) := hholds hu ▸ hs.others u hu
  have hgate : s'.gate = some t := by
    rw [← holds_iff, h.holds_ne hstack (Ne.symm hu), holds_iff]
    exact hs.gate
  have hholds' {v : ThreadId} (hv : v ≠ t) : s'.holds v = false := by
    simp [holds, hgate, Ne.symm hv]
  refine ⟨hs.shaped.turn h, hgate, ?_, fun v hv => ?_⟩
  · obtain ⟨errand, more, hb⟩ := hs.waits
    rcases h.others t (Ne.symm hu) with hsame | ⟨hidle, -⟩
    · exact ⟨errand, more, hsame.trans hb⟩
    · rw [hb] at hidle
      cases hidle
  · by_cases hvu : v = u
    · subst hvu
      rw [← hholds' hv]
      exact h.gateStack hstack
    · rcases h.others v hvu with hsame | ⟨-, -, hpopped⟩
      · rw [hsame]
        exact hs.others v hv
      · rw [hpopped] at h
        exact .outside fun x hx => Task.isGated_of_isOpening (hs.shaped.handed h x hx)

theorem Stuck.push (hs : Stuck s t) {u : ThreadId} (hu : u ≠ t) {tasks : List Task}
    (ho : ∀ x ∈ tasks, x.isOpening = true)
    (hloop : u = .loop → tasks = [] ∨
      ∃ more, s.tasks .loop = more ++ [.receive] ∧ ∀ y ∈ more, y.isWork = true) :
    Stuck (s.push u tasks) t where
  shaped := hs.shaped.push ho hloop
  gate := (congrArg Core.gate (core_push s u tasks)).trans hs.gate
  waits := by
    rw [tasks_push_ne s (Ne.symm hu)]
    exact hs.waits
  others := by
    intro v hv
    by_cases hvu : v = u
    · subst hvu
      exact gateStack_push (hs.others v hv) ho (by simp)
    · rw [tasks_push_ne s hvu]
      exact hs.others v hv

theorem Stuck.move (hs : Stuck s t) (h : l.Move s s') : Stuck s' t := by
  cases h with
  | @step _ u h =>
    obtain ⟨m, hstep, rfl⟩ := Option.map_eq_some_iff.mp h
    have hu : u ≠ t := by
      rintro rfl
      rw [hs.step?_eq_none] at hstep
      cases hstep
    obtain ⟨x, rest, hb⟩ := exists_task hstep
    obtain ⟨pushed, events, hturn⟩ := turn_step? hb hstep
    refine (hs.turn hu hturn).push hu (fun y => Listener.isOpening_tasks) ?_
    rintro rfl
    rw [recordsSince_eq hturn.trace]
    exact hturn.listened hs.shaped
  | @call u call hfree =>
    have hu : u ≠ t := by
      rintro rfl
      obtain ⟨errand, rest, hb⟩ := hs.waits
      rcases hfree.idle_or_body with ⟨hidle, -⟩ | ⟨_, _, _, _, hbody⟩
      · rw [hb] at hidle
        cases hidle
      · rw [hb] at hbody
        cases hbody
    obtain ⟨pushed, hturn, -⟩ := turn_call hfree call
    exact hs.turn hu hturn
  | enlist =>
    refine ⟨hs.shaped.turn (turn_enlist s t), hs.gate, ?_, fun u hu => ?_⟩
    · rw [tasks_enlist_idle]
      exact hs.waits
    · rw [tasks_enlist_idle]
      exact hs.others u hu

theorem Stuck.forever (hs : Stuck s t) (h : l.Leads s s') :
    s'.gate = some t ∧ l.step? s' t = none := by
  have hlater : Stuck s' t := by
    unfold Listener.Leads at h
    induction h with
    | refl => exact hs
    | tail _ m ih => exact ih.move m
  refine ⟨hlater.gate, ?_⟩
  rw [Listener.step?, hlater.step?_eq_none]
  rfl

/-- Where a thread is with the gate when it runs code of the host: outside. Whoever is inside can go
on, calls nothing, and enters the sink with nothing that makes it call back. So to wait for the gate
is to wait for another thread, which can go on. -/
structure ForeignCodeLaw (l : Listener) (s : Bridge) : Prop where
  callback : ∀ t callback result rest, s.tasks t = .invoke callback result :: rest →
    s.gate ≠ some t
  action : ∀ t action rest, s.tasks t = .act action :: rest → s.gate ≠ some t
  inside : ∀ t, s.gate = some t → ∃ (s' : Bridge) (events : List Event), s.step? t = some s' ∧
    s'.trace = s.trace ++ events.map (t, ·) ∧ (∀ e ∈ events, e.IsAtGate) ∧
      l.tasks (s'.recordsSince s) = []
  waiting : ∀ t errand rest, s.tasks t = .enter errand :: rest → l.step? s t = none →
    ∃ u, u ≠ t ∧ s.gate = some u ∧ (l.step? s u).isSome = true

theorem Overheard.inside (hs : Overheard s) (hl : l.IsQuiet) (hg : s.gate = some t) :
    ∃ (s' : Bridge) (events : List Event), s.step? t = some s' ∧
      s'.trace = s.trace ++ events.map (t, ·) ∧ (∀ e ∈ events, e.IsAtGate) ∧
        l.tasks (s'.recordsSince s) = [] := by
  obtain ⟨s', hstep⟩ := Option.isSome_iff_exists.mp (hs.gated.holder_steps hg)
  obtain ⟨x, rest, hb⟩ := exists_task hstep
  obtain ⟨pushed, events, hturn⟩ := turn_step? hb hstep
  have hevents := hs.at_gate hturn hg
  refine ⟨s', events, hstep, hturn.trace, hevents, ?_⟩
  rw [recordsSince_eq hturn.trace]
  exact hl.tasks_eq_nil fun record hrecord => hevents _ (mem_records.mp hrecord)

theorem foreign_code_outside_gate {name : String} (hl : l.IsQuiet) (hr : l.Reachable name s) :
    ForeignCodeLaw l s := by
  have hs := Listener.Reachable.overheard hl hr
  constructor
  · exact fun t callback result rest hb => hs.gated.gate_ne hb rfl (by simp)
  · exact fun t action rest hb => hs.gated.gate_ne hb rfl (by simp)
  · exact fun t hg => hs.inside hl hg
  · intro t errand rest hb hnone
    have hne := hs.gated.gate_ne hb rfl (by simp)
    cases hg : s.gate with
    | none =>
      rw [Listener.step?, step?_eq hb] at hnone
      simp [perform?, hg] at hnone
    | some u =>
      obtain ⟨s', events, hstep, -⟩ := hs.inside hl hg
      refine ⟨u, fun hu => hne (hu ▸ hg), rfl, ?_⟩
      rw [Listener.step?, hstep]
      rfl

/-- A sink that quits the loop when a callback is entered: it does so before the body of the
callback, waits for the gate like anyone else, and has got it here. -/
theorem foreign_code_outside_gate_of_quitting_sink : ∃ (l : Listener) (s : Bridge),
    l.IsQuiet ∧ l.Reachable "loop" s ∧ s.gate = some .main ∧ ForeignCodeLaw l s := by
  let l : Listener := ⟨⟨[⟨none, none, none, .level .debug⟩], []⟩, fun level _ =>
    match level with
    | .log => [.quit .poster]
    | _ => []⟩
  have hl : l.IsQuiet := by
    rintro record ⟨name, rfl | rfl⟩ <;> rw [Listener.tasks, Listener.hears_eq] <;> rfl
  have hstart : l.Reachable "loop" (fresh.startLoop "loop") := .refl
  have hput := hstart.call .main (.put 1 false (.closure .always "done" [])) [] (by decide)
    (by decide) (by decide)
  have hrun := hput.call .main (.invoke 1 0) (List.replicate 3 .main) (by decide +kernel)
    (by decide) (by decide +kernel)
  exact ⟨l, _, hl, hrun, by decide +kernel, foreign_code_outside_gate hl hrun⟩

def blocksItself (s : Bridge) : Bool :=
  s.gate == some .main && s.helpers.isEmpty &&
    match s.tasks .main, s.tasks .loop with
    | .enter _ :: more, [.receive] => more.all Task.isWork
    | _, _ => false

theorem stuck_of_blocksItself (h : s.blocksItself = true) : Stuck s .main := by
  simp only [blocksItself, Bool.and_eq_true, beq_iff_eq, List.isEmpty_iff] at h
  obtain ⟨⟨hgate, hhelpers⟩, h⟩ := h
  split at h
  case h_2 => cases h
  next errand more hmain hloop =>
  have hmore : ∀ x ∈ more, x.isWork = true := List.all_eq_true.mp h
  have hothers (u : ThreadId) (hu : u ≠ .main) : s.tasks u = [.receive] ∧ u = .loop ∨
      s.tasks u = [] := by
    cases u with
    | main => exact absurd rfl hu
    | loop => exact .inl ⟨hloop, rfl⟩
    | helper index => exact .inr (by simp [Bridge.tasks, thread, hhelpers, Thread.idle])
  refine ⟨⟨?_, fun u hu x hx => ?_⟩, hgate, ⟨errand, more, hmain⟩, fun u hu => ?_⟩
  · have hidle : ∀ x ∈ ([] : List Task), x.isWork = true := by simp
    rw [hloop]
    exact LoopStack.busy hidle
  · by_cases hm : u = .main
    · rw [hm, hmain] at hx
      rcases List.mem_cons.mp hx with rfl | hx
      · rfl
      · exact hmore x hx
    · rcases hothers u hm with ⟨-, hl⟩ | hnil
      · exact absurd hl hu
      · rw [hnil] at hx
        cases hx
  · apply GateStack.outside
    intro x hx
    rcases hothers u hu with ⟨htasks, -⟩ | htasks <;> rw [htasks] at hx
    · rw [List.mem_singleton.mp hx]
      rfl
    · cases hx

/-- A sink that quits the loop whenever it is entered. The loop has been quit and a callback is
turned away: the sink is entered inside the gate, and waits for it. -/
theorem sink_waits_for_gate_of_its_thread : ∃ (l : Listener) (s : Bridge),
    l.Reachable "loop" s ∧ s.gate = some .main ∧
      (s.step? .main).map (fun s' => l.hears (s'.recordsSince s)) = some [(.warning,
        " WARN plugbridge_runtime::message_loop: post after quit rejected message_loop=loop")] ∧
      ∀ later, l.Leads (l.follow s [.main, .main]) later →
        later.gate = some .main ∧ l.step? later .main = none := by
  let l : Listener := ⟨⟨[⟨none, none, none, .level .warn⟩], []⟩, fun _ _ => [.quit .poster]⟩
  have hstart : l.Reachable "loop" (fresh.startLoop "loop") := .refl
  have hquit := hstart.call .main (.act (.quit .poster)) (List.replicate 5 .main) (by decide)
    (by decide) (by decide)
  have hpost := hquit.call .main (.act (.post ⟨.post, .poster, 0, 0⟩ false (.native 7)))
    (List.replicate 4 .main) (by decide +kernel) (by decide) (by decide +kernel)
  refine ⟨l, _, hpost, by decide +kernel, by decide +kernel, fun later h => ?_⟩
  exact (stuck_of_blocksItself (by decide +kernel)).forever h

end Bridge
end HostBridge
