import HostBridge.Proofs.MessageLoop.Answers
import HostBridge.Proofs.MessageLoop.Waiting

/-!
# Shutting down

To join or to drop the loop is to quit and then to wait for the loop thread, unless one is
on it. Either way the callbacks that were let in before are all that is dispatched.
-/
namespace HostBridge
namespace Bridge

variable {name : String} {s s' s'' : Bridge} {t : ThreadId} {popped pushed rest : List Task}
  {events : List Event}

theorem Turn.accepted_eq (h : Turn s s' t popped pushed rest events)
    (hp : ∀ request callback delay result,
      popped ≠ [.decide (.post request callback delay result)]) : s'.accepted = s.accepted := by
  rw [h.accepted, List.filterMap_eq_nil_iff.mpr, List.append_nil]
  intro e he
  cases e with
  | accepted callback result =>
    obtain ⟨request, delay, hpopped⟩ := h.effect.noted he
    exact absurd hpopped (hp request callback delay result)
  | _ => rfl

theorem Leads.accepted (hr : Reachable name s) (hl : s.Leads s') (hq : s.quitting = true) :
    s'.quitting = true ∧ s'.accepted = s.accepted := by
  apply Leads.induct (P := fun m => m.quitting = true ∧ m.accepted = s.accepted) hr ⟨hq, rfl⟩ ?_ hl
  intro a b ha ⟨hquit, hsame⟩ hm
  obtain ⟨t, popped, pushed, rest, events, h⟩ := hm.turn
  refine ⟨h.effect.quitting_mono hquit, ?_⟩
  rw [← hsame]
  by_cases hp : ∃ request callback delay result,
      popped = [.decide (.post request callback delay result)]
  · obtain ⟨request, callback, delay, result, rfl⟩ := hp
    rw [h.accepted, turn_post ha h, hquit]
    simp [Event.accepted?]
  · apply h.accepted_eq
    intro request callback delay result hpopped
    exact hp ⟨request, callback, delay, result, hpopped⟩

theorem Leads.dispatched (hl : s.Leads s') : s.dispatched <+: s'.dispatched := by
  obtain ⟨later, htrace⟩ := hl.trace
  rw [Bridge.dispatched, Bridge.dispatched, htrace, List.filterMap_append]
  exact List.prefix_append ..

/-- What a thread gets done by steps of its own, starting and ending outside the gate. -/
structure Solo (t : ThreadId) (s s' : Bridge) (rest : List Task) : Prop where
  steps : Relation.ReflTransGen (fun a b => a.step? t = some b) s s'
  tasks : s'.tasks t = rest
  gate : s'.gate = none
  trace : ∃ later, s'.trace = s.trace ++ later ∧ ∀ x ∈ later, x.2 = .quitQueued ∨ x.2 = .discarded
  quitting : s.quitting = true → s'.quitting = true

theorem Solo.trans {middle : List Task} (h₁ : Solo t s s' middle) (h₂ : Solo t s' s'' rest) :
    Solo t s s'' rest where
  steps := h₁.steps.trans h₂.steps
  tasks := h₂.tasks
  gate := h₂.gate
  trace := by
    obtain ⟨first, hfirst, hf⟩ := h₁.trace
    obtain ⟨second, hsecond, hs⟩ := h₂.trace
    refine ⟨first ++ second, by rw [hsecond, hfirst, List.append_assoc], ?_⟩
    intro x hx
    rcases List.mem_append.mp hx with hx | hx
    · exact hf x hx
    · exact hs x hx
  quitting hq := h₂.quitting (h₁.quitting hq)

theorem Solo.quiet {x : Task} (hb : s.tasks t = x :: rest) (hg : s.gate = none)
    (hs : s.step? t = some s') (hf : Frame (s.setTasks t rest) s' t pushed []) :
    Solo t s s' (pushed ++ rest) where
  steps := .single hs
  tasks := by rw [hf.own, tasks_setTasks_of_cons hb]
  gate := (congrArg Core.gate (hf.core.trans core_setTasks)).trans hg
  trace := ⟨[], by simpa using hf.trace, by simp⟩
  quitting hq := (congrArg Core.quitting (hf.core.trans core_setTasks)).trans hq

theorem turn_decide_quit (h : Turn s s' t [.decide .quit] pushed rest events) :
    pushed = [.leave] ∧ ∀ e ∈ events, e = .quitQueued := by
  cases h.effect with
  | ordinary hq => cases hq
  | quit => exact ⟨rfl, by simp⟩
  | quitLost => exact ⟨rfl, by simp⟩
  | quitAgain => exact ⟨rfl, by simp⟩

theorem Turn.entered {errand : Errand} (h : Turn s s' t [.enter errand] pushed rest events) :
    s'.tasks t = .decide errand :: rest ∧ s'.trace = s.trace ∧
      s'.core = { s.core with gate := some t } := by
  have hafter := h.after
  have htrace := h.trace
  cases h.effect with
  | ordinary hq => cases hq
  | enter _ hcore => exact ⟨hafter, by simpa using htrace, hcore⟩

theorem Turn.left (h : Turn s s' t [.leave] pushed rest events) :
    s'.tasks t = rest ∧ s'.trace = s.trace ∧ s'.core = { s.core with gate := none } := by
  have hafter := h.after
  have htrace := h.trace
  cases h.effect with
  | ordinary hq => cases hq
  | leave hcore => exact ⟨hafter, by simpa using htrace, hcore⟩

theorem Solo.quit (hb : s.tasks t = .enter .quit :: rest) (hg : s.gate = none) :
    ∃ s', Solo t s s' rest ∧ s'.quitting = true := by
  let a := { s.setTasks t rest with gate := some t }.push t [.decide .quit]
  have henter : s.step? t = some a := by
    rw [step?_eq hb]
    simp [perform?, hg, a]
  obtain ⟨_, _, hentered⟩ := turn_step? hb henter
  obtain ⟨htasks₁, htrace₁, -⟩ := hentered.entered
  obtain ⟨b, _, marked, hdecide, hdecided⟩ := step?_decide htasks₁
  obtain ⟨rfl, hmark⟩ := turn_decide_quit hdecided
  have hquit : b.quitting = true := hdecided.effect.decided_quit (by simp)
  let c := { b.setTasks t rest with gate := none }
  have hleave : b.step? t = some c := step?_eq hdecided.after
  obtain ⟨_, _, hleft⟩ := turn_step? hdecided.after hleave
  obtain ⟨htasks₃, htrace₃, hcore₃⟩ := hleft.left
  have hquit₃ : c.quitting = true := (congrArg Core.quitting hcore₃).trans hquit
  refine ⟨c, ⟨.tail (.tail (.single henter) hdecide) hleave, htasks₃, rfl,
    ⟨marked.map (t, ·), by rw [htrace₃, hdecided.trace, htrace₁], ?_⟩, fun _ => hquit₃⟩, hquit₃⟩
  intro x hx
  obtain ⟨e, he, rfl⟩ := List.mem_map.mp hx
  exact .inl (hmark e he)

theorem Solo.openLatch (hb : s.tasks t = .openLatch :: rest) (hg : s.gate = none) :
    ∃ s', Solo t s s' rest := by
  have hframe : Frame (s.setTasks t rest) { s.setTasks t rest with latched := false } t [] [] :=
    .same rfl rfl rfl rfl
  exact ⟨_, .quiet hb hg (step?_eq hb) hframe⟩

theorem Solo.awaitLoop (hb : s.tasks .loop = .awaitLoop :: rest) (hg : s.gate = none) :
    ∃ s', Solo .loop s s' rest :=
  ⟨_, .quiet hb hg (step?_eq hb) (.refl _ _)⟩

theorem Solo.reply {reply : Reply} (hb : s.tasks t = .reply reply :: rest) (hg : s.gate = none) :
    ∃ s', Solo t s s' rest ∧ (s'.thread t).reply = reply ∧ s'.trace = s.trace := by
  have hself := (s.setTasks t rest).thread_updateThread_self t
    (fun thread => { thread with reply }) (mem_threads_setTasks hb)
  have hframe : Frame (s.setTasks t rest) ((s.setTasks t rest).reply t reply) t [] [] :=
    frame_reply reply
  exact ⟨_, .quiet hb hg (step?_eq hb) hframe, congrArg Thread.reply hself,
    by simpa using hframe.trace⟩

theorem Solo.discard (hb : s.tasks t = .discardLoop :: rest) (hg : s.gate = none) :
    ∃ s', Solo t s s' rest ∧ (t, .discarded) ∈ s'.trace := by
  let a := { (s.setTasks t rest).note t [.discarded] with owner := .gone }
  have hstep : s.step? t = some a := step?_eq hb
  have htrace : a.trace = s.trace ++ [(t, .discarded)] := by simp [a, note]
  refine ⟨a, ⟨.single hstep, ?_, ?_, ⟨_, htrace, by simp⟩, ?_⟩, by simp [htrace]⟩
  · have hself : (s.setTasks t rest).tasks t = rest := tasks_setTasks_of_cons hb
    exact hself
  · have hgate : (s.setTasks t rest).gate = none := gate_setTasks.trans hg
    exact hgate
  · intro hq
    have hquit : (s.setTasks t rest).quitting = true := quitting_setTasks.trans hq
    exact hquit

theorem Solo.shutDown {action : Action} {tasks : List Task}
    (haction : (action = .joinLoop ∧ tasks = joinTasks) ∨ (action = .dropLoop ∧ tasks = dropTasks))
    (howner : s.owner = .available) (hb : s.tasks t = .act action :: rest) (hg : s.gate = none) :
    ∃ s', Solo t s s' (tasks ++ rest) := by
  let m := { s.setTasks t rest with owner := .closing }
  have hact : (s.setTasks t rest).act t action = m.push t tasks := by
    rcases haction with ⟨rfl, rfl⟩ | ⟨rfl, rfl⟩ <;>
      exact if_pos (owner_setTasks.trans howner)
  have hstep : s.step? t = some (m.push t tasks) :=
    (step?_eq hb).trans (congrArg some hact)
  have hpush : Frame m (m.push t tasks) t tasks [] := frame_push tasks (mem_threads_setTasks hb)
  have hself : m.tasks t = rest := tasks_setTasks_of_cons hb
  have htrace : m.trace = s.trace := trace_setTasks
  refine ⟨m.push t tasks, .single hstep, by rw [hpush.own, hself], ?_, ⟨[], ?_, by simp⟩, ?_⟩
  · exact (congrArg Core.gate hpush.core).trans (gate_setTasks.trans hg)
  · simpa [htrace] using hpush.trace
  · intro hq
    exact (congrArg Core.quitting hpush.core).trans (quitting_setTasks.trans hq)

theorem Solo.joinLoop (howner : s.owner = .available) (hg : s.gate = none)
    (hb : s.tasks .loop = .act .joinLoop :: rest) :
    ∃ s', Solo .loop s s' rest ∧ s'.quitting = true ∧ (.loop, .discarded) ∈ s'.trace ∧
      (s'.thread .loop).reply = .flag true := by
  obtain ⟨a, ha⟩ := Solo.shutDown (.inl ⟨rfl, rfl⟩) howner hb hg
  obtain ⟨b, hab, hquit⟩ := Solo.quit ha.tasks ha.gate
  obtain ⟨c, hbc⟩ := Solo.openLatch hab.tasks hab.gate
  obtain ⟨d, hcd⟩ := Solo.awaitLoop hbc.tasks hbc.gate
  obtain ⟨e, hde, -⟩ := Solo.quit hcd.tasks hcd.gate
  obtain ⟨f, hef, hdiscarded⟩ := Solo.discard hde.tasks hde.gate
  obtain ⟨g, hfg, hreply, htrace⟩ := Solo.reply hef.tasks hef.gate
  have hall := ((((ha.trans hab).trans hbc).trans hcd).trans hde).trans hef
  have hlate := (((hbc.trans hcd).trans hde).trans hef).trans hfg
  exact ⟨g, hall.trans hfg, hlate.quitting hquit, htrace ▸ hdiscarded, hreply⟩

theorem Solo.dropLoop (howner : s.owner = .available) (hg : s.gate = none)
    (hb : s.tasks .loop = .act .dropLoop :: rest) :
    ∃ s', Solo .loop s s' rest ∧ s'.quitting = true ∧ (.loop, .discarded) ∈ s'.trace ∧
      (s'.thread .loop).reply = .nothing := by
  obtain ⟨a, ha⟩ := Solo.shutDown (.inr ⟨rfl, rfl⟩) howner hb hg
  obtain ⟨b, hab, hquit⟩ := Solo.quit ha.tasks ha.gate
  obtain ⟨c, hbc⟩ := Solo.openLatch hab.tasks hab.gate
  obtain ⟨d, hcd⟩ := Solo.awaitLoop hbc.tasks hbc.gate
  obtain ⟨e, hde, hdiscarded⟩ := Solo.discard hcd.tasks hcd.gate
  obtain ⟨f, hef, hreply, htrace⟩ := Solo.reply hde.tasks hde.gate
  have hall := (((ha.trans hab).trans hbc).trans hcd).trans hde
  have hlate := ((hbc.trans hcd).trans hde).trans hef
  exact ⟨f, hall.trans hef, hlate.quitting hquit, htrace ▸ hdiscarded, hreply⟩

theorem Solo.accepted (h : Solo t s s' rest) :
    s'.accepted = s.accepted ∧ s'.dispatched = s.dispatched := by
  obtain ⟨later, htrace, hlater⟩ := h.trace
  have hnone : later.filterMap (·.2.accepted?) = [] ∧ later.filterMap (·.2.dispatched?) = [] := by
    constructor <;> rw [List.filterMap_eq_nil_iff] <;> intro x hx <;>
      rcases hlater x hx with he | he <;> rw [he] <;> rfl
  rw [Bridge.accepted, Bridge.dispatched, htrace, List.filterMap_append, List.filterMap_append,
    hnone.1, hnone.2, List.append_nil, List.append_nil]
  exact ⟨rfl, rfl⟩

structure Drained (s : Bridge) : Prop where
  stopped : s.hasStopped = true
  queue : s.queue = []
  dispatched : s.dispatched = s.accepted
  finished : ∀ callback result, (callback, result) ∈ s.accepted →
    (.loop, .invoked callback result) ∈ s.trace ∧
      ∀ u name actions, .body callback.serial name actions ∉ s.tasks u

theorem Reachable.drained_of_stopped (hr : Reachable name s) (hstop : s.hasStopped = true) :
    Drained s := by
  obtain ⟨-, hqueue, hall⟩ := hr.drained hstop
  refine ⟨hstop, hqueue, hall, fun callback result ha => ?_⟩
  have hinvoked : (.loop, .invoked callback result) ∈ s.trace := by
    rw [← hall] at ha
    obtain ⟨t, ht⟩ := mem_dispatched.mp ha
    rcases (hr.called t callback result ht).2 with hinvoked | htasks
    · exact hinvoked
    · rw [hasStopped_iff.mp hstop] at htasks
      cases htasks
  refine ⟨hinvoked, fun u name' actions hbody => ?_⟩
  -- Only the loop thread has called the callback, and that has nothing left to do.
  obtain ⟨callback', result', hcaller, hserial⟩ := hr.provenance.tasks u _ hbody
  have honce := hr.leaves_once .due callback.serial hcaller hinvoked
    (by simp [Event.leaves, hserial]) (by simp [Event.leaves])
  rw [honce.1, hasStopped_iff.mp hstop] at hbody
  cases hbody

/-- What it means to quit, to join and to drop a loop. When another thread than the loop's has
joined or dropped it, everything is done and stays so. After a quit every post is refused and runs
as aborted on its own thread, and what was let in before is dispatched before the loop thread stops,
which only a callback that does not return prevents. On the loop thread, to join or to drop takes
steps of that thread alone and dispatches nothing. To do any of this again changes nothing. -/
structure ShutdownLaw (s : Bridge) : Prop where
  returned : ∀ t, (t, .discarded) ∈ s.trace → s.quitting = true ∧
    (t ≠ .loop → ∀ s', s.Leads s' → s'.Drained ∧ s'.accepted = s.accepted)
  refused : s.quitting = true → ∀ s', s.Leads s' → ∀ t request callback delay result rest,
    s'.tasks t = .decide (.post request callback delay result) :: rest →
      ∃ s'' record, s'.step? t = some s'' ∧ s''.core = s'.core ∧ s''.tasks t =
        .log record :: .leave :: .abort callback :: .answer request callback result .failed :: rest
  rejected : s.quitting = true → ∀ s' later, s.Leads s' → s'.trace = s.trace ++ later →
    ∀ t request callback result code, (t, .answered request callback result code) ∈ later →
      callback.answeredAtOnce request result = none →
        ((callback, result) ∈ s.accepted ∧ code = acceptance request) ∨
          (code = .failed ∧ (t, .aborted callback) ∈ s'.trace ∧
            (t, .invoked callback NamedCode.aborted.number) ∈ s'.trace)
  order : s.quitting = true → ∀ s', s.Leads s' → s'.accepted = s.accepted ∧
    s.dispatched <+: s'.dispatched ∧ s'.dispatched <+: s.accepted ∧
      (s'.hasStopped = true → s'.dispatched = s.accepted)
  stops : s.quitting = true → ∀ s', s.Leads s' → (∀ u, s'.step? u = none) →
    s'.hasStopped = true ∨ ∃ x more, s'.tasks .loop = x :: more ∧ x.isHeld = true
  between : ∀ callback delay result rest,
    s.tasks .loop = .dispatch callback delay result :: rest → rest = [.receive]
  onLoop : ∀ action reply rest,
    action = .joinLoop ∧ reply = .flag true ∨ action = .dropLoop ∧ reply = .nothing →
    s.owner = .available → s.gate = none → s.tasks .loop = .act action :: rest →
      ∃ s', Solo .loop s s' rest ∧ s'.quitting = true ∧ (.loop, .discarded) ∈ s'.trace ∧
        s'.accepted = s.accepted ∧ s'.dispatched = s.dispatched ∧
        (s'.thread .loop).reply = reply
  unhindered : ∀ x rest, s.tasks .loop = x :: rest → x ∈ joinTasks ∨ x ∈ dropTasks →
    (s.step? .loop).isSome = true ∨ x = .enter .quit ∧
      ∃ u, u ≠ .loop ∧ s.gate = some u ∧ (s.step? u).isSome = true
  again : s.quitting = true → ∀ t rest, s.tasks t = .decide .quit :: rest →
    ∃ s', s.step? t = some s' ∧ s'.core = s.core ∧ s'.trace = s.trace ∧
      s'.tasks t = .leave :: rest
  given : s.owner ≠ .available → ∀ t action rest, action = .joinLoop ∨ action = .dropLoop →
    s.tasks t = .act action :: rest →
      ∃ s', s.step? t = some s' ∧ s'.core = s.core ∧ s'.trace = s.trace ∧ s'.tasks t = rest

theorem Reachable.refuses (hr : Reachable name s) (hq : s.quitting = true) {request : Request}
    {callback : Callback} {delay : Nat} {result : Int32}
    (hb : s.tasks t = .decide (.post request callback delay result) :: rest) :
    ∃ s' record, s.step? t = some s' ∧ s'.core = s.core ∧ s'.tasks t =
      .log record :: .leave :: .abort callback :: .answer request callback result .failed ::
        rest := by
  obtain ⟨s', pushed, events, hstep, h⟩ := step?_decide hb
  have hevents := turn_post hr h
  have hafter := h.after
  rw [hq] at hevents
  cases h.effect with
  | ordinary hquiet => cases hquiet
  | accept => cases hevents
  | @refuse _ _ _ _ record _ hcore => exact ⟨s', record, hstep, hcore, hafter⟩

theorem Reachable.unhindered (hr : Reachable name s) {x : Task} (hb : s.tasks .loop = x :: rest)
    (hx : x ∈ joinTasks ∨ x ∈ dropTasks) :
    (s.step? .loop).isSome = true ∨ x = .enter .quit ∧
      ∃ u, u ≠ .loop ∧ s.gate = some u ∧ (s.step? u).isSome = true := by
  have hkind : x.isHeld = false ∧ x ≠ .receive ∧ ∀ errand, x = .enter errand → errand = .quit := by
    simp only [joinTasks, dropTasks, List.mem_cons, List.not_mem_nil, or_false] at hx
    rcases hx with (rfl | rfl | rfl | rfl | rfl | rfl) | (rfl | rfl | rfl | rfl | rfl) <;>
      simp [Task.isHeld]
  cases hs : s.step? .loop with
  | some s' => exact .inl rfl
  | none =>
    right
    rw [step?_eq hb] at hs
    rcases perform?_eq_none hs with hheld | ⟨hreceive, -⟩ | ⟨⟨errand, rfl⟩, u, hu⟩ | ⟨-, hne, -⟩
    · rw [hkind.1] at hheld
      cases hheld
    · exact absurd hreceive hkind.2.1
    · cases hkind.2.2 errand rfl
      rw [gate_setTasks] at hu
      refine ⟨rfl, u, ?_, hu, hr.holder_steps hu⟩
      intro hself
      subst hself
      exact hr.gate_ne hb rfl (by simp) hu
    · exact absurd rfl hne

theorem shutdown_drains (hr : Reachable name s) : ShutdownLaw s where
  returned := by
    intro t hm
    obtain ⟨hq, hwhere⟩ := hr.quitting.discarded t hm
    refine ⟨hq, fun ht s' hl => ?_⟩
    have hstop := hl.stopped hr (hwhere.resolve_left ht)
    exact ⟨(hr.leads hl).drained_of_stopped hstop, (hl.accepted hr hq).2⟩
  refused hq s' hl _ _ _ _ _ _ hb := (hr.leads hl).refuses (hl.accepted hr hq).1 hb
  rejected := by
    intro hq s' later hl htrace t request callback result code hm hlater
    have hmem : (t, .answered request callback result code) ∈ s'.trace := by simp [htrace, hm]
    cases (hr.leads hl).settled hmem with
    | waived hnow => cases hnow.symm.trans hlater
    | queued _ ha =>
      rw [← (hl.accepted hr hq).2]
      exact .inl ⟨mem_accepted.mpr ⟨t, ha⟩, rfl⟩
    | rejected _ _ hab hrun => exact .inr ⟨rfl, hab, hrun⟩
  order := by
    intro hq s' hl
    have hsame := (hl.accepted hr hq).2
    refine ⟨hsame, hl.dispatched, ?_, fun hstop => ?_⟩
    · rw [← hsame, (hr.leads hl).delivered, List.append_assoc]
      exact List.prefix_append ..
    · rw [← hsame]
      exact ((hr.leads hl).drained hstop).2.2
  stops hq s' hl hrest := (hr.leads hl).at_rest (hl.accepted hr hq).1 hrest
  between := by
    intro callback delay result rest hb
    have hstep : s.step? .loop = some (((s.setTasks .loop rest).note .loop
        [.dispatched callback result]).push .loop [.invoke callback result]) := step?_eq hb
    obtain ⟨pushed, events, h⟩ := turn_step? hb hstep
    exact (h.dispatch hr.shaped).2
  onLoop := by
    intro action reply rest haction howner hg hb
    rcases haction with ⟨rfl, rfl⟩ | ⟨rfl, rfl⟩
    · obtain ⟨s', hsolo, hquit, hdiscarded, hreply⟩ := Solo.joinLoop howner hg hb
      exact ⟨s', hsolo, hquit, hdiscarded, hsolo.accepted.1, hsolo.accepted.2, hreply⟩
    · obtain ⟨s', hsolo, hquit, hdiscarded, hreply⟩ := Solo.dropLoop howner hg hb
      exact ⟨s', hsolo, hquit, hdiscarded, hsolo.accepted.1, hsolo.accepted.2, hreply⟩
  unhindered _ _ hb hx := hr.unhindered hb hx
  again := by
    intro hq t rest hb
    obtain ⟨s', pushed, events, hstep, h⟩ := step?_decide hb
    have hevents := turn_quit hr h
    have htrace := h.trace
    have hafter := h.after
    rw [hq, if_pos rfl] at hevents
    rw [hevents, List.map_nil, List.append_nil] at htrace
    refine ⟨s', hstep, ?_, htrace, ?_⟩
    · cases h.effect with
      | ordinary hquiet => cases hquiet
      | quit hquit => cases hq.symm.trans hquit
      | quitLost hquit => cases hq.symm.trans hquit
      | quitAgain _ hcore => exact hcore
    · rw [hafter, (turn_decide_quit h).1]
      rfl
  given := by
    intro howner t action rest haction hb
    have hact : (s.setTasks t rest).act t action =
        (s.setTasks t rest).reply t (.missing .loop) := by
      have hgone : ¬ (s.setTasks t rest).owner = .available := by rwa [owner_setTasks]
      rcases haction with rfl | rfl <;> exact if_neg hgone
    have hstep : s.step? t = some ((s.setTasks t rest).reply t (.missing .loop)) :=
      (step?_eq hb).trans (congrArg some hact)
    have hframe : Frame (s.setTasks t rest) ((s.setTasks t rest).reply t (.missing .loop)) t []
        [] := frame_reply _
    refine ⟨_, hstep, hframe.core.trans core_setTasks, by simpa using hframe.trace, ?_⟩
    rw [hframe.own, tasks_setTasks_of_cons hb]
    rfl

/-- The body of the first callback posts the third one. Then the main thread joins the loop, so what
the body of the second one posts is turned away, and what the other thread posts when the loop is
gone. -/
theorem shutdown_drains_posts_of_two_threads : ∃ s, Reachable "loop" s ∧ s.owner = .gone ∧
    s.dispatched.map (fun delivery => (delivery.1.serial, delivery.2)) = [(0, 7), (1, 3), (2, 8)] ∧
    s.trace.filterMap (fun | (t, .aborted callback) => some (t, callback.serial) | _ => none) =
      [(.loop, 3), (.helper 0, 4)] ∧ ShutdownLaw s := by
  have hfirst := (Reachable.start "loop").act .main
    (.post ⟨.post, .poster, 5, 7⟩ false
      (.closure .always "first" [.post ⟨.post, .poster, 2, 8⟩ false (.native 4)]))
    (List.replicate 6 .main) (by decide) (by decide) (by decide)
  have hsecond := (hfirst.move (.enlist _)).act (.helper 0)
    (.post ⟨.post, .poster, 0, 3⟩ false
      (.closure .always "second" [.post ⟨.post, .poster, 0, 6⟩ false (.native 5)]))
    (List.replicate 6 (.helper 0) ++ List.replicate 12 .loop) (by decide +kernel) (by decide)
    (by decide +kernel)
  have hjoin := hsecond.act .main .joinLoop
    (List.replicate 5 .main ++ List.replicate 24 .loop ++ List.replicate 6 .main)
    (by decide +kernel) (by decide) (by decide +kernel)
  have hlate := hjoin.act (.helper 0) (.post ⟨.post, .poster, 1, 2⟩ false (.native 9))
    (List.replicate 9 (.helper 0)) (by decide +kernel) (by decide) (by decide +kernel)
  exact ⟨_, hlate, by decide +kernel, by decide +kernel, by decide +kernel, shutdown_drains hlate⟩

end Bridge
end HostBridge
