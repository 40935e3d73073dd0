import HostBridge.Proofs.Completion.Panics

/-!
# Running after the quit

When the loop has been quit, whatever the body of a callback posts is turned away, and the thread
that posts it runs it as aborted before it goes on. So the runs are nested as the bodies are: what
a thread notes of a call is what it notes of its actions, one after another, and what it notes of
an action that posts has the whole run of the posted callback inside.
-/
namespace HostBridge

namespace Bridge

section grammar
variable (P : Bridge → Prop)

mutual

inductive CallTells : Callback → Int32 → List Event → Prop
  | over {callback : Callback} {result : Int32} : callback.opens result = [] →
      CallTells callback result (callback.notes result)
  | body {callback : Callback} {result : Int32} {name : String} {actions : List Action}
      {inner : List Event} : callback.opens result = [.body callback.serial name actions] →
      BodyTells callback.serial name actions inner →
      CallTells callback result (callback.notes result ++ inner)

inductive BodyTells : Nat → String → List Action → List Event → Prop
  | finished (serial : Nat) (name : String) : BodyTells serial name [] [.finished serial]
  | panicked (serial : Nat) (name : String) (payload : PanicPayload) (rest : List Action) :
      BodyTells serial name (.panic payload :: rest)
        [.logged (Log.panickedRecord name payload.text)]
  | next {serial : Nat} {name : String} {action : Action} {rest : List Action}
      {inner later : List Event} (reply : Reply) : action.isPanic = false →
      ActionTells action inner → BodyTells serial name rest later →
      BodyTells serial name (action :: rest)
        (inner ++ (if action.isReported then [.acted action.name reply] else []) ++ later)

/-- What is noted of an action depends on the states that the thread finds. -/
inductive ActionTells : Action → List Event → Prop
  | nothing {action : Action} {m : Bridge} : P m → m.actTasks action = [] →
      ActionTells action []
  | quit (via : Via) : ActionTells (.quit via) []
  | handed {order : Order} (optional : Bool) (recipe : Recipe) : order.via = .helper →
      ActionTells (.post order optional recipe) []
  | run {slot : Nat} {result : Int32} {m : Bridge} {callback : Callback} {inner : List Event} :
      P m → m.slots.get? slot = some callback → CallTells callback result inner →
      ActionTells (.run slot result) inner
  | post {order : Order} {optional : Bool} {recipe : Recipe} {m : Bridge}
      {inner : List Event} : P m → m.isReachable order.via = true → order.via ≠ .helper →
      OfferTells order (m.make optional recipe).1 inner →
      ActionTells (.post order optional recipe) inner
  | shut {action : Action} : action = .joinLoop ∨ action = .dropLoop →
      ActionTells action [.discarded]

/-- The sentinel and an optional completion are answered at once. Whatever else is posted is turned
away and run as aborted, all of it before the answer. -/
inductive OfferTells : Order → Callback → List Event → Prop
  | waived {order : Order} {callback : Callback} {code : Code} (records : List Log.Record) :
      callback.answeredAtOnce order.request order.result = some code →
      OfferTells order callback (records.map .logged ++
        [.waived callback, .answered order.request callback order.result code])
  | rejected {order : Order} {callback : Callback} {inner : List Event}
      (first second : Log.Record) :
      callback.answeredAtOnce order.request order.result = none →
      CallTells callback NamedCode.aborted.number inner →
      OfferTells order callback
        ([.refused callback, .logged first, .aborted callback, .logged second] ++ inner ++
          [.answered order.request callback order.result (.named .failed)])

end

def ErrandTells : Errand → List Event → Prop
  | .post request callback _ result, events => callback.isBlocking = false →
      ∃ first second inner, CallTells P callback NamedCode.aborted.number inner ∧
        events = [.refused callback, .logged first, .aborted callback, .logged second] ++ inner ++
          [.answered request callback result (.named .failed)]
  | .quit, events => events = []

def TaskTells : Task → List Event → Prop
  | .invoke callback result, events => CallTells P callback result events
  | .abort callback, events => callback.isBlocking = false →
      ∃ record inner, CallTells P callback NamedCode.aborted.number inner ∧
        events = [.aborted callback, .logged record] ++ inner
  | .body serial name actions, events => BodyTells P serial name actions events
  | .act action, events => ActionTells P action events
  | .report name, events => ∃ reply, events = [.acted name reply]
  | .offer order callback, events => OfferTells P order callback events
  | .enter errand, events | .decide errand, events => ErrandTells P errand events
  | .log record, events => events = [.logged record]
  | .answer request callback result code, events =>
      events = [.answered request callback result code]
  | .discardLoop, events => events = [.discarded]
  | .receive, _ | .dispatch .., _ => True
  | _, events => events = []

inductive TasksTell : List Task → List Event → Prop
  | nil : TasksTell [] []
  | cons {task : Task} {tasks : List Task} {first later : List Event} :
      TaskTells P task first → TasksTell tasks later → TasksTell (task :: tasks) (first ++ later)

end grammar

variable {P : Bridge → Prop} {name : String} {s s' : Bridge} {t : ThreadId}
  {rest pushed tasks first second : List Task} {task : Task} {events inner noted : List Event}

theorem tasksTell_nil (h : TasksTell P [] events) : events = [] := by
  cases h
  rfl

theorem TasksTell.uncons (h : TasksTell P (task :: rest) events) :
    ∃ earlier later, TaskTells P task earlier ∧ TasksTell P rest later ∧
      events = earlier ++ later := by
  cases h with
  | cons htask hrest => exact ⟨_, _, htask, hrest, rfl⟩

theorem tasksTell_singleton (h : TasksTell P [task] events) : TaskTells P task events := by
  obtain ⟨earlier, later, htask, hrest, rfl⟩ := h.uncons
  rwa [tasksTell_nil hrest, List.append_nil]

theorem TasksTell.split (h : TasksTell P (first ++ second) events) :
    ∃ earlier later, TasksTell P first earlier ∧ TasksTell P second later ∧
      events = earlier ++ later := by
  induction first generalizing events with
  | nil => exact ⟨[], events, .nil, h, rfl⟩
  | cons task first ih =>
    obtain ⟨earlier, _, htask, hrest, rfl⟩ := h.uncons
    obtain ⟨middle, later, hfirst, hsecond, rfl⟩ := ih hrest
    exact ⟨earlier ++ middle, later, .cons htask hfirst, hsecond, by simp⟩

theorem TasksTell.eq_nil (h : TasksTell P tasks events)
    (hs : ∀ x ∈ tasks, ∀ e, TaskTells P x e → e = []) : events = [] := by
  induction h with
  | nil => rfl
  | @cons x _ _ _ htask _ ih =>
    rw [hs x (by simp) _ htask, ih fun y hy => hs y (List.mem_cons_of_mem x hy)]
    rfl

theorem callTells_of_opens {callback : Callback} {result : Int32}
    (h : TasksTell P (callback.opens result) inner) :
    CallTells P callback result (callback.notes result ++ inner) := by
  rcases opens_cases callback result with hnone | ⟨closureName, body, hbody⟩
  · rw [hnone] at h
    rw [tasksTell_nil h, List.append_nil]
    exact .over hnone
  · rw [hbody] at h
    exact .body hbody (tasksTell_singleton h)

theorem bodyTells_of_tasks {serial : Nat} {closureName : String} {actions : List Action}
    (h : TasksTell P (bodyTasks serial closureName actions) inner) :
    BodyTells P serial closureName actions (bodyNotes serial closureName actions ++ inner) := by
  cases actions with
  | nil =>
    rw [tasksTell_nil h]
    exact .finished serial closureName
  | cons action more =>
    cases hp : action.isPanic with
    | true =>
      cases action with
      | panic payload =>
        rw [tasksTell_nil h]
        exact .panicked serial closureName payload more
      | _ => cases hp
    | false =>
      rw [bodyTasks_cons hp] at h
      rw [bodyNotes_cons hp]
      obtain ⟨earlier, later, htasks, hbody, rfl⟩ := h.split
      obtain ⟨acted, reported, haction, hreport, rfl⟩ := htasks.uncons
      have hnext (reply : Reply) := BodyTells.next reply hp haction (tasksTell_singleton hbody)
      by_cases hreported : action.isReported = true
      · rw [if_pos hreported] at hreport
        obtain ⟨reply, rfl⟩ := tasksTell_singleton hreport
        simpa [hreported] using hnext reply
      · rw [if_neg hreported] at hreport
        rw [tasksTell_nil hreport]
        simpa [hreported] using hnext .nothing

theorem tells_of_via {via : Via} (h : TasksTell P (via.tasks tasks) events) :
    via = .helper ∧ events = [] ∨ via ≠ .helper ∧ TasksTell P tasks events := by
  cases via with
  | helper => exact .inl ⟨rfl, tasksTell_singleton h⟩
  | _ => exact .inr ⟨by simp, h⟩

theorem discarded_of_tasks {before : List Task} {reply : Reply}
    (h : TasksTell P (before ++ [.discardLoop, .reply reply]) events)
    (hs : ∀ x ∈ before, x = .enter .quit ∨ x = .openLatch ∨ x = .awaitLoop) :
    events = [.discarded] := by
  obtain ⟨earlier, later, hbefore, hlast, rfl⟩ := h.split
  obtain ⟨discarded, replied, hdiscard, hreply, rfl⟩ := hlast.uncons
  have hsilent : earlier = [] := hbefore.eq_nil fun x hx e he => by
    rcases hs x hx with rfl | rfl | rfl <;> exact he
  rw [hsilent, show discarded = _ from hdiscard, show replied = [] from tasksTell_singleton hreply]
  rfl

theorem actionTells_of_tasks {action : Action} (hp : P s)
    (h : TasksTell P (s.actTasks action) inner) : ActionTells P action inner := by
  have hnothing (hnone : s.actTasks action = []) : ActionTells P action inner := by
    rw [hnone] at h
    rw [tasksTell_nil h]
    exact .nothing hp hnone
  cases action with
  | run slot result =>
    cases hslot : s.slots.get? slot with
    | none => exact hnothing (by simp [actTasks, hslot])
    | some callback =>
      simp only [actTasks, hslot] at h
      obtain ⟨called, replied, hcall, hreply, rfl⟩ := h.uncons
      rw [show replied = [] from tasksTell_singleton hreply, List.append_nil]
      exact .run hp hslot hcall
  | post order optional recipe =>
    cases hreach : s.isReachable order.via with
    | false => exact hnothing (by simp [actTasks, hreach])
    | true =>
      simp only [actTasks, hreach, if_true] at h
      rcases tells_of_via h with ⟨hvia, rfl⟩ | ⟨hvia, hoffer⟩
      · exact .handed optional recipe hvia
      · exact .post hp hreach hvia (tasksTell_singleton hoffer)
  | quit via =>
    cases hreach : s.isReachable via with
    | false => exact hnothing (by simp [actTasks, hreach])
    | true =>
      simp only [actTasks, hreach, if_true] at h
      have hempty : inner = [] := by
        rcases tells_of_via h with ⟨-, hwaits⟩ | ⟨-, hquits⟩
        · exact hwaits
        · refine hquits.eq_nil fun x hx e he => ?_
          simp only [List.mem_cons, List.not_mem_nil, or_false] at hx
          rcases hx with rfl | rfl <;> exact he
      rw [hempty]
      exact .quit via
  | joinLoop =>
    by_cases howner : s.owner = .available
    · simp only [actTasks, howner, if_true] at h
      have htells : TasksTell P ([.enter .quit, .openLatch, .awaitLoop, .enter .quit] ++
          [.discardLoop, .reply (.flag true)]) inner := h
      rw [discarded_of_tasks htells (by simp)]
      exact .shut (.inl rfl)
    · exact hnothing (by simp [actTasks, howner])
  | dropLoop =>
    by_cases howner : s.owner = .available
    · simp only [actTasks, howner, if_true] at h
      have htells : TasksTell P ([.enter .quit, .openLatch, .awaitLoop] ++
          [.discardLoop, .reply .nothing]) inner := h
      rw [discarded_of_tasks htells (by simp)]
      exact .shut (.inr rfl)
    · exact hnothing (by simp [actTasks, howner])
  | _ => exact hnothing rfl

theorem offerTells_of_asked {order : Order} {callback : Callback} (delay : Nat)
    (hlater : callback.answeredAtOnce order.request order.result = none)
    (h : ErrandTells P (.post order.request callback delay order.result) events) :
    OfferTells P order callback events := by
  have hblocking : callback.isBlocking = false := by
    cases hrequest : order.request <;> simp [Callback.answeredAtOnce, hrequest] at hlater
    · exact hlater
    · exact hlater.1
  obtain ⟨first, second, inner, hcall, rfl⟩ := h hblocking
  exact .rejected first second hlater hcall

theorem errandTells_of_refuse {request : Request} {callback : Callback} {result : Int32}
    {record : Log.Record} {code : Code} (delay : Nat) (hcode : code = .named .failed)
    (h : TasksTell P
      [.log record, .leave, .abort callback, .answer request callback result code] inner) :
    ErrandTells P (.post request callback delay result) ([.refused callback] ++ inner) := by
  intro hblocking
  subst hcode
  obtain ⟨logged, _, hlog, hunlogged, rfl⟩ := h.uncons
  obtain ⟨left, _, hleave, houtside, rfl⟩ := hunlogged.uncons
  obtain ⟨aborted, answered, habort, hanswer, rfl⟩ := houtside.uncons
  obtain ⟨aborting, ran, hcall, rfl⟩ := habort hblocking
  rw [show logged = _ from hlog, show left = _ from hleave,
    show answered = _ from tasksTell_singleton hanswer]
  exact ⟨record, aborting, ran, hcall, by simp⟩

theorem Deed.tells (h : Deed s s' t rest task pushed noted) (hp : P s) (hq : s.quitting = true)
    (htells : TasksTell P pushed inner) : TaskTells P task (noted ++ inner) := by
  cases h with
  | invoke callback result => exact callTells_of_opens htells
  | body serial closureName actions => exact bodyTells_of_tasks htells
  | act action => exact actionTells_of_tasks hp htells
  | report closureName =>
    rw [tasksTell_nil htells]
    exact ⟨_, rfl⟩
  | silent hs =>
    rw [tasksTell_nil htells]
    cases task with
    | abort callback =>
      intro hblocking
      cases hs.symm.trans hblocking
    | reply | awaitHelper | await | openLatch | clonePoster | dropPoster => rfl
    | _ => cases hs
  | waive records hnow =>
    rw [show inner = _ from tasksTell_singleton htells, List.append_assoc]
    exact .waived records hnow
  | ask delay hlater => exact offerTells_of_asked delay hlater (tasksTell_singleton htells)
  | other hquiet hrequest he =>
    cases he with
    | ordinary hordinary => cases hordinary.symm.trans hquiet
    | shutDown => cases hquiet
    | invoke | waive | ask => cases hrequest
    | delegate | enter =>
      have htask := tasksTell_singleton htells
      exact htask
    | abort => exact fun _ => ⟨_, inner, tasksTell_singleton htells, rfl⟩
    | accept hno => cases hno.symm.trans hq
    | @refuse _ _ delay => exact errandTells_of_refuse delay rfl htells
    | quit hno => cases hno.symm.trans hq
    | quitLost hno => cases hno.symm.trans hq
    | quitAgain =>
      have hleave := tasksTell_singleton htells
      exact hleave
    | log | answer | discard =>
      rw [tasksTell_nil htells]
      rfl
    | leave | awaitLoop => exact tasksTell_nil htells
    | take | stop | disconnect | dispatch => trivial

theorem WithinWhile.quitting (h : WithinWhile P t rest s s') (hq : s.quitting = true) :
    WithinWhile (fun m => P m ∧ m.quitting = true) t rest s s' := by
  induction h with
  | back hback => exact .back hback
  | next hp hne hm hcall _ ih =>
    obtain ⟨_, _, _, _, _, hturn⟩ := hm.move.turn
    exact .next ⟨hp, hq⟩ hne hm hcall (ih (hturn.effect.quitting_mono hq))

theorem WithinWhile.tells (h : WithinWhile P t rest s s') (hq : s.quitting = true)
    (hb : s.tasks t = tasks ++ rest) : s'.tasks t = rest ∧ ∃ events, TasksTell P tasks events ∧
      s'.noted t = s.noted t ++ events := by
  obtain ⟨hback, events, f, htells, hnoted, -⟩ :=
    (h.quitting hq).unfolds (Q := fun tasks events _ => TasksTell P tasks events) .nil
      (fun a b below task pushed more noted events f hp hdeed htells => by
        obtain ⟨inner, later, hpushed, hmore, rfl⟩ := htells.split
        rw [← List.append_assoc]
        exact .cons (hdeed.tells hp.1 hp.2 hpushed) hmore) hb
  exact ⟨hback, events, htells, hnoted⟩

end Bridge
end HostBridge
