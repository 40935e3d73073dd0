import HostBridge.Proofs.MessageLoop.Custody
import HostBridge.Proofs.MessageLoop.Fate
import HostBridge.Proofs.MessageLoop.Quitting

/-!
# Delivery

What has been accepted is what has been dispatched, what the loop thread has taken and is
delaying, and what waits in the queue, one after the other.
-/
namespace HostBridge

abbrev Delivery := Callback × Int32

def Event.accepted? : Event → Option Delivery
  | .accepted callback result => some (callback, result)
  | _ => none

def Event.dispatched? : Event → Option Delivery
  | .dispatched callback result => some (callback, result)
  | _ => none

def Task.taken? : Task → Option Delivery
  | .dispatch callback _ result => some (callback, result)
  | _ => none

def Item.waiting? : Item → Option Delivery
  | .run callback _ result => some (callback, result)
  | .quit => none

theorem Task.taken?_of_isWork {x : Task} (h : x.isWork = true) : x.taken? = none := by
  cases x <;> first | rfl | cases h

theorem Event.accepted?_of_isPlain {e : Event} (h : e.isPlain = true) : e.accepted? = none := by
  cases e <;> first | rfl | cases h

theorem Event.dispatched?_of_isPlain {e : Event} (h : e.isPlain = true) :
    e.dispatched? = none := by
  cases e <;> first | rfl | cases h

namespace Bridge

def accepted (s : Bridge) : List Delivery := s.trace.filterMap (·.2.accepted?)

def dispatched (s : Bridge) : List Delivery := s.trace.filterMap (·.2.dispatched?)

def taken (s : Bridge) : List Delivery := (s.tasks .loop).filterMap Task.taken?

def waiting (s : Bridge) : List Delivery := s.queue.filterMap Item.waiting?

theorem mem_accepted {s : Bridge} {callback : Callback} {result : Int32} :
    (callback, result) ∈ s.accepted ↔ ∃ t, (t, .accepted callback result) ∈ s.trace := by
  constructor
  · intro h
    obtain ⟨⟨t, e⟩, he, hpick⟩ := List.mem_filterMap.mp h
    cases e <;> simp [Event.accepted?] at hpick
    obtain ⟨rfl, rfl⟩ := hpick
    exact ⟨t, he⟩
  · intro ⟨t, h⟩
    exact List.mem_filterMap.mpr ⟨_, h, rfl⟩

theorem mem_dispatched {s : Bridge} {callback : Callback} {result : Int32} :
    (callback, result) ∈ s.dispatched ↔ ∃ t, (t, .dispatched callback result) ∈ s.trace := by
  constructor
  · intro h
    obtain ⟨⟨t, e⟩, he, hpick⟩ := List.mem_filterMap.mp h
    cases e <;> simp [Event.dispatched?] at hpick
    obtain ⟨rfl, rfl⟩ := hpick
    exact ⟨t, he⟩
  · intro ⟨t, h⟩
    exact List.mem_filterMap.mpr ⟨_, h, rfl⟩

variable {s s' : Bridge} {t : ThreadId} {popped pushed rest : List Task} {events : List Event}

theorem Turn.accepted (h : Turn s s' t popped pushed rest events) :
    s'.accepted = s.accepted ++ events.filterMap Event.accepted? := by
  rw [Bridge.accepted, h.trace, List.filterMap_append, List.filterMap_map]
  rfl

theorem Turn.dispatched (h : Turn s s' t popped pushed rest events) :
    s'.dispatched = s.dispatched ++ events.filterMap Event.dispatched? := by
  rw [Bridge.dispatched, h.trace, List.filterMap_append, List.filterMap_map]
  rfl

theorem Turn.taken (h : Turn s s' t popped pushed rest events)
    (hp : ∀ x ∈ popped, x.isWork = true) : s'.taken = s.taken := by
  by_cases ht : t = .loop
  · subst ht
    have hnone {l : List Task} (hl : ∀ x ∈ l, x.isWork = true) : l.filterMap Task.taken? = [] :=
      List.filterMap_eq_nil_iff.mpr fun x hx => Task.taken?_of_isWork (hl x hx)
    rw [Bridge.taken, Bridge.taken, h.before, h.after, List.filterMap_append,
      List.filterMap_append, hnone hp, hnone (h.effect.isWork hp)]
  · rw [Bridge.taken, Bridge.taken, h.tasks_loop ht]

theorem Turn.dispatch {callback : Callback} {delay : Nat} {result : Int32}
    (h : Turn s s' t [.dispatch callback delay result] pushed rest events) (hs : Shaped s) :
    t = .loop ∧ rest = [.receive] := by
  have ht : t = .loop := by
    by_contra hne
    cases hs.others t hne _ (h.mem_popped (List.mem_singleton.mpr rfl))
  subst ht
  have hloop := hs.loop
  rw [h.before] at hloop
  rcases LoopStack.cons_cases hloop with ⟨hw, -⟩ | ⟨_, _, _, -, hrest⟩ | ⟨hd, -⟩
  · cases hw
  · exact ⟨rfl, hrest⟩
  · cases hd

/-- Nothing is lost between the gate and the loop thread, and nothing overtakes. -/
def Delivered (s : Bridge) : Prop := s.accepted = s.dispatched ++ s.taken ++ s.waiting

theorem Delivered.keep (hs : Delivered s) (h : Turn s s' t popped pushed rest events)
    (hp : ∀ x ∈ popped, x.isWork = true) (hqueue : s'.waiting = s.waiting)
    (ha : events.filterMap Event.accepted? = [])
    (hd : events.filterMap Event.dispatched? = []) : Delivered s' := by
  unfold Delivered
  rw [h.accepted, h.dispatched, h.taken hp, hqueue, ha, hd, List.append_nil, List.append_nil]
  exact hs

theorem Delivered.turn (hs : Delivered s) (hshape : Shaped s)
    (h : Turn s s' t popped pushed rest events) : Delivered s' := by
  have hwaiting {queue : List Item} (hqueue : s'.queue = queue) :
      s'.waiting = queue.filterMap Item.waiting? := by rw [waiting, hqueue]
  have hplain {l : List Event} (hl : ∀ e ∈ l, e.isPlain = true) :
      l.filterMap Event.accepted? = [] ∧ l.filterMap Event.dispatched? = [] :=
    ⟨List.filterMap_eq_nil_iff.mpr fun e he => Event.accepted?_of_isPlain (hl e he),
      List.filterMap_eq_nil_iff.mpr fun e he => Event.dispatched?_of_isPlain (hl e he)⟩
  cases h.effect with
  | @accept request callback delay result _ _ hcore =>
    have hqueue := hwaiting (congrArg Core.queue hcore)
    unfold Delivered at hs ⊢
    rw [h.accepted, h.dispatched, h.taken (by simp [Task.isWork]), hqueue, hs]
    simp [waiting, Event.accepted?, Event.dispatched?, Item.waiting?]
  | quit _ _ hcore =>
    have hqueue := hwaiting (congrArg Core.queue hcore)
    refine hs.keep h (by simp [Task.isWork]) ?_ rfl rfl
    rw [hqueue]
    simp [waiting, Item.waiting?]
  | @take callback delay result queue hold hcore =>
    obtain ⟨rfl, rfl, -⟩ := h.receive hshape
    have hqueue := hwaiting (congrArg Core.queue hcore)
    have hbefore : s.taken = [] := by rw [taken, h.before]; rfl
    have hafter : s'.taken = [(callback, result)] := by rw [taken, h.after]; rfl
    unfold Delivered at hs ⊢
    rw [h.accepted, h.dispatched, hs, hbefore, hafter, hqueue, waiting, hold]
    simp [Item.waiting?]
  | @stop queue hold hcore =>
    obtain ⟨rfl, rfl, -⟩ := h.receive hshape
    have hqueue := hwaiting (congrArg Core.queue hcore)
    have hbefore : s.taken = [] := by rw [taken, h.before]; rfl
    have hafter : s'.taken = [] := by rw [taken, h.after]; rfl
    unfold Delivered at hs ⊢
    rw [h.accepted, h.dispatched, hs, hbefore, hafter, hqueue, waiting, hold,
      List.filterMap_cons_none rfl]
    simp
  | disconnect hold _ hcore =>
    obtain ⟨rfl, rfl, -⟩ := h.receive hshape
    have hqueue := hwaiting (congrArg Core.queue hcore)
    have hbefore : s.taken = [] := by rw [taken, h.before]; rfl
    have hafter : s'.taken = [] := by rw [taken, h.after]; rfl
    unfold Delivered at hs ⊢
    rw [h.accepted, h.dispatched, hs, hbefore, hafter, hqueue]
    simp [waiting, core]
  | @dispatch callback delay result hcore =>
    obtain ⟨rfl, rfl⟩ := h.dispatch hshape
    have hqueue := hwaiting (congrArg Core.queue hcore)
    have hbefore : s.taken = [(callback, result)] := by rw [taken, h.before]; rfl
    have hafter : s'.taken = [] := by rw [taken, h.after]; rfl
    unfold Delivered at hs ⊢
    rw [h.accepted, h.dispatched, hs, hbefore, hafter, hqueue]
    simp [waiting, core, Event.accepted?, Event.dispatched?]
  | @ordinary task _ _ hquiet _ _ hl hcore =>
    have hwork : task.isWork = true := by cases task <;> first | rfl | cases hquiet
    exact hs.keep h (by simpa using hwork) (hwaiting (congrArg Core.queue hcore)) (hplain hl).1
      (hplain hl).2
  | invoke _ _ hl hcore =>
    refine hs.keep h (by simp [Task.isWork]) (hwaiting (congrArg Core.queue hcore)) ?_ ?_
    · simpa [Event.accepted?] using (hplain hl).1
    · simpa [Event.dispatched?] using (hplain hl).2
  | waive _ hl hcore =>
    refine hs.keep h (by simp [Task.isWork]) (hwaiting (congrArg Core.queue hcore)) ?_ ?_
    · simpa [Event.accepted?] using (hplain hl).1
    · simpa [Event.dispatched?] using (hplain hl).2
  | delegate hcore =>
    have hopen := hshape.handed h
    exact hs.keep h (by simpa [Task.isWork] using hopen) (hwaiting (congrArg Core.queue hcore)) rfl
      rfl
  | _ =>
    have hcore := ‹s'.core = _›
    exact hs.keep h (by simp [Task.isWork]) (hwaiting (congrArg Core.queue hcore)) rfl rfl

theorem Reachable.delivered {name : String} (hr : Reachable name s) : Delivered s := by
  apply hr.induct
  · rfl
  · intro s s' hprior hs hm
    obtain ⟨t, popped, pushed, rest, events, h⟩ := hm.turn
    exact hs.turn hprior.shaped h

/-- What has been dispatched has been called on the loop thread, unless that is its next
task. -/
def Called (s : Bridge) : Prop :=
  ∀ t callback result, (t, .dispatched callback result) ∈ s.trace → t = .loop ∧
    ((.loop, .invoked callback result) ∈ s.trace ∨
      s.tasks .loop = [.invoke callback result, .receive])

theorem Turn.called (h : Turn s s' t popped pushed rest events) {callback : Callback}
    {result : Int32} (hb : callback.isBlocking = false)
    (htasks : s.tasks .loop = [.invoke callback result, .receive]) :
    (.loop, .invoked callback result) ∈ s'.trace ∨
      s'.tasks .loop = [.invoke callback result, .receive] := by
  by_cases ht : t = .loop
  · subst ht
    have hbefore := h.before
    rw [htasks] at hbefore
    rcases h.effect.popped_cases with rfl | ⟨x, rfl⟩
    · cases h.effect with
      | call ho hfree =>
        rcases hfree with rfl | ⟨-, hne⟩ | ⟨n, name, actions, more, rfl⟩
        · exact .inr (h.after.trans hbefore.symm)
        · exact absurd rfl hne
        · cases hbefore
    · cases hbefore
      cases h.effect with
      | ordinary hq => exact absurd (hq.symm.trans hb) (by simp)
      | invoke => exact .inl (h.mem_trace_iff.mpr (.inr ⟨rfl, by simp⟩))
  · rw [h.tasks_loop ht]
    exact .inr htasks

theorem Reachable.dispatched_accepted {name : String} (hr : Reachable name s)
    {callback : Callback} {result : Int32} (hm : (callback, result) ∈ s.dispatched) :
    (callback, result) ∈ s.accepted := by
  rw [hr.delivered]
  simp [hm]

theorem Reachable.not_isBlocking {name : String} (hr : Reachable name s) :
    ∀ t e callback, (t, e) ∈ s.trace → (∃ result, e = .accepted callback result) ∨
      e = .refused callback → callback.isBlocking = false := by
  apply hr.induct (P := fun m => ∀ t e callback, (t, e) ∈ m.trace →
    (∃ result, e = .accepted callback result) ∨ e = .refused callback →
      callback.isBlocking = false)
  · intro t e callback hm
    cases hm
  · intro s s' hprior hs hmove u e callback hm he
    obtain ⟨t, popped, pushed, rest, events, h⟩ := hmove.turn
    rcases h.mem_trace_iff.mp hm with hm | ⟨rfl, hm⟩
    · exact hs u e callback hm he
    · have hpopped : ∃ request delay result,
          popped = [.decide (.post request callback delay result)] := by
        rcases he with ⟨result, rfl⟩ | rfl
        · obtain ⟨request, delay, hp⟩ := h.effect.noted hm
          exact ⟨request, delay, result, hp⟩
        · exact h.effect.noted hm
      obtain ⟨request, delay, result, rfl⟩ := hpopped
      have hlater := hprior.provenance.tasks u _ (h.mem_popped (List.mem_singleton.mpr rfl))
      exact Callback.isBlocking_of_answeredAtOnce hlater

theorem Reachable.called {name : String} (hr : Reachable name s) : Called s := by
  apply hr.induct
  · intro t callback result hm
    cases hm
  · intro s s' hprior hs hmove u callback result hm
    obtain ⟨t, popped, pushed, rest, events, h⟩ := hmove.turn
    rcases h.mem_trace_iff.mp hm with hm | ⟨rfl, hm⟩
    · obtain ⟨hu, hcalled⟩ := hs u callback result hm
      refine ⟨hu, ?_⟩
      rcases hcalled with hcalled | htasks
      · exact .inl (h.mem_trace hcalled)
      · have haccepted := hprior.dispatched_accepted (mem_dispatched.mpr ⟨u, hm⟩)
        obtain ⟨v, hv⟩ := mem_accepted.mp haccepted
        exact h.called (hprior.not_isBlocking v _ callback hv (.inl ⟨result, rfl⟩)) htasks
    · obtain ⟨delay, rfl⟩ := h.effect.noted hm
      obtain ⟨rfl, rfl⟩ := h.dispatch hprior.shaped
      refine ⟨rfl, .inr ?_⟩
      rw [h.after]
      cases h.effect with
      | ordinary hq => cases hq
      | dispatch => rfl

theorem Reachable.accepted_ne_refused {name : String} (hr : Reachable name s) {t u : ThreadId}
    {callback callback' : Callback} {result : Int32}
    (ha : (t, .accepted callback result) ∈ s.trace) (hf : (u, .refused callback') ∈ s.trace) :
    callback.serial ≠ callback'.serial := by
  intro hserial
  have honce := hr.leaves_once .offered callback.serial ha hf
    (by simp [Event.leaves]) (by simp [Event.leaves, hserial])
  cases honce.2

theorem Reachable.invoked_once {name : String} (hr : Reachable name s) {t u : ThreadId}
    {callback callback' : Callback} {result result' : Int32}
    (ht : (t, .invoked callback result) ∈ s.trace) (hu : (u, .invoked callback' result') ∈ s.trace)
    (hserial : callback.serial = callback'.serial) :
    t = u ∧ callback = callback' ∧ result = result' := by
  obtain ⟨hthread, hevent⟩ := hr.leaves_once .due callback.serial ht hu
    (by simp [Event.leaves]) (by simp [Event.leaves, hserial])
  cases hevent
  exact ⟨hthread, rfl, rfl⟩

/-- What becomes of the callbacks that the gate lets in. They are dispatched in the order of the
gate, whatever their delays, one at a time, and each is called on the loop thread with its own
result and at no other time. A post is answered as accepted exactly if it has been. -/
structure DeliveryLaw (s : Bridge) : Prop where
  answered : ∀ t callback result code, (t, .answered .post callback result code) ∈ s.trace →
    (code = .ok ↔ (callback, result) ∈ s.accepted)
  order : s.dispatched <+: s.accepted
  parts : s.accepted = s.dispatched ++ s.taken ++ s.waiting
  delayed : s.taken = [] ∨ ∃ callback delay result,
    s.tasks .loop = [.dispatch callback delay result, .receive] ∧ s.taken = [(callback, result)]
  stopped : s.hasStopped = true → s.dispatched = s.accepted
  once : (s.accepted.map (·.1.serial)).Nodup
  called : ∀ t callback result, (t, .dispatched callback result) ∈ s.trace → t = .loop ∧
    ((.loop, .invoked callback result) ∈ s.trace ∨
      s.tasks .loop = [.invoke callback result, .receive])
  alone : ∀ t u callback callback' result result',
    (t, .invoked callback result) ∈ s.trace → (u, .invoked callback' result') ∈ s.trace →
      callback.serial = callback'.serial → t = u ∧ callback = callback' ∧ result = result'

theorem Shaped.taken_cases (hs : Shaped s) :
    s.taken = [] ∨ ∃ callback delay result,
      s.tasks .loop = [.dispatch callback delay result, .receive] ∧
        s.taken = [(callback, result)] := by
  have hloop := hs.loop
  unfold taken
  generalize s.tasks .loop = tasks at hloop ⊢
  cases hloop with
  | stopped => exact .inl rfl
  | taken callback delay result => exact .inr ⟨callback, delay, result, rfl, rfl⟩
  | busy hw =>
    left
    rw [List.filterMap_append, List.filterMap_eq_nil_iff.mpr fun x hx =>
      Task.taken?_of_isWork (hw x hx)]
    rfl

theorem Reachable.drained {name : String} (hr : Reachable name s) (hstop : s.hasStopped = true) :
    s.quitting = true ∧ s.queue = [] ∧ s.dispatched = s.accepted := by
  have hquit : s.quitting = true := by
    by_contra hne
    have hrun := (hr.quitting.early (by simpa using hne)).1
    rw [hstop] at hrun
    cases hrun
  have hqueue := hr.quitting.drained hquit hstop
  refine ⟨hquit, hqueue, ?_⟩
  have htaken : s.taken = [] := by rw [taken, hasStopped_iff.mp hstop]; rfl
  rw [hr.delivered, htaken, waiting, hqueue]
  simp

theorem queue_delivers {name : String} (hr : Reachable name s) : DeliveryLaw s where
  answered := by
    intro t callback result code hm
    cases hr.settled hm with
    | waived hnow hw =>
      have hcode : code = .badArgument := by
        simp only [Callback.answeredAtOnce] at hnow
        split at hnow <;> cases hnow
        rfl
      constructor
      · intro hok
        rw [hcode] at hok
        cases hok
      · intro ha
        obtain ⟨u, hu⟩ := mem_accepted.mp ha
        have honce := hr.leaves_once .offered callback.serial hw hu
          (by simp [Event.leaves]) (by simp [Event.leaves])
        cases honce.2
    | queued _ ha => exact ⟨fun _ => mem_accepted.mpr ⟨t, ha⟩, fun _ => rfl⟩
    | rejected _ hf =>
      constructor
      · intro hok
        cases hok
      · intro ha
        obtain ⟨u, hu⟩ := mem_accepted.mp ha
        exact absurd rfl (hr.accepted_ne_refused hu hf)
  order := by
    rw [hr.delivered, List.append_assoc]
    exact List.prefix_append ..
  parts := hr.delivered
  delayed := hr.shaped.taken_cases
  stopped hstop := (hr.drained hstop).2.2
  once := by
    apply hr.nodup_serials .offered
    intro entry delivery hpick
    obtain ⟨t, e⟩ := entry
    obtain ⟨callback, result⟩ := delivery
    cases e <;> simp [Event.accepted?] at hpick
    obtain ⟨rfl, rfl⟩ := hpick
    simp [Event.leaves]
  called := hr.called
  alone _ _ _ _ _ _ ht hu hserial := hr.invoked_once ht hu hserial

/-- The body of the first callback posts the third one while the second waits, which a thread of its
own has posted. -/
theorem queue_delivers_across_threads : ∃ m s, Reachable "loop" m ∧ Reachable "loop" s ∧
    m.taken.map (fun delivery => (delivery.1.serial, delivery.2)) = [(0, 7)] ∧
    m.waiting.map (fun delivery => (delivery.1.serial, delivery.2)) = [(1, 3)] ∧ DeliveryLaw m ∧
    s.hasStopped = true ∧
    s.trace.filterMap (fun entry => entry.2.accepted?.map fun delivery =>
      (entry.1, delivery.1.serial)) = [(.main, 0), (.helper 0, 1), (.loop, 2)] ∧
    s.dispatched.map (fun delivery => (delivery.1.serial, delivery.2)) = [(0, 7), (1, 3), (2, 8)] ∧
    DeliveryLaw s := by
  have hfirst := (Reachable.start "loop").act .main
    (.post ⟨.post, .poster, 5, 7⟩ false
      (.closure .always "first" [.post ⟨.post, .poster, 2, 8⟩ false (.native 4)]))
    (List.replicate 6 .main ++ [.loop]) (by decide) (by decide) (by decide)
  have hsecond := (hfirst.move (.enlist _)).act (.helper 0)
    (.post ⟨.post, .poster, 0, 3⟩ false (.native 9)) (List.replicate 6 (.helper 0))
    (by decide +kernel) (by decide) (by decide +kernel)
  have hrun := (hsecond.follow (List.replicate 11 .loop)).act .main (.quit .poster)
    (List.replicate 5 .main ++ List.replicate 7 .loop) (by decide +kernel) (by decide)
    (by decide +kernel)
  exact ⟨_, _, hsecond, hrun, by decide +kernel, by decide +kernel, queue_delivers hsecond,
    by decide +kernel, by decide +kernel, by decide +kernel, queue_delivers hrun⟩

end Bridge
end HostBridge
