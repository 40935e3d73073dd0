import HostBridge.MessageLoop.Progress
import HostBridge.Proofs.Completion.Course

/-!
# Panics

A panic ends the body that it happens in. Its text is the last word on the error slot that this
body has; the caller, which may be the body of another callback, goes on as after any call.
-/
namespace HostBridge

/-- The actions that a thread does without another thread. -/
def Action.isImmediate : Action → Bool
  | .post .. | .quit _ | .joinLoop | .dropLoop => false
  | _ => true

def Callback.isImmediate (callback : Callback) : Bool :=
  match callback.target with
  | .latch => false
  | .closure (some ⟨_, .perform _ body⟩) => body.all Action.isImmediate
  | _ => true

def Task.isImmediate : Task → Bool
  | .invoke callback _ => callback.isImmediate
  | .body _ _ actions => actions.all Action.isImmediate
  | .act action => action.isImmediate
  | .report _ | .reply _ => true
  | _ => false

namespace Bridge

variable {s s' : Bridge} {t : ThreadId} {rest : List Task}

theorem step?_isSome_of_isImmediate {task : Task} (hb : s.tasks t = task :: rest)
    (hi : task.isImmediate = true) : ∃ s', s.step? t = some s' := by
  rw [step?_eq hb]
  cases task with
  | invoke callback result =>
    simp only [perform?, invoke?]
    split
    · exact ⟨_, rfl⟩
    · exact ⟨_, rfl⟩
    · next htarget => simp [Task.isImmediate, Callback.isImmediate, htarget] at hi
    · exact ⟨_, rfl⟩
    · exact ⟨_, rfl⟩
  | body | act | report | reply => exact ⟨_, rfl⟩
  | _ => cases hi

theorem isImmediate_opens {callback : Callback} {result : Int32}
    (h : callback.isImmediate = true) : ∀ x ∈ callback.opens result, x.isImmediate = true := by
  intro x hx
  simp only [Callback.opens] at hx
  split at hx
  · next closure htarget =>
    obtain ⟨name, duty⟩ := closure
    cases duty with
    | send channel => cases hx
    | perform trigger body =>
      simp only [Closure.opens] at hx
      split at hx
      · rw [List.mem_singleton.mp hx]
        rwa [Callback.isImmediate, htarget] at h
      · cases hx
  · cases hx

theorem isImmediate_bodyTasks {serial : Nat} {name : String} {actions : List Action}
    (h : actions.all Action.isImmediate = true) :
    ∀ x ∈ bodyTasks serial name actions, x.isImmediate = true := by
  intro x hx
  cases actions with
  | nil => cases hx
  | cons action rest =>
    rw [List.all_cons, Bool.and_eq_true] at h
    cases hp : action.isPanic with
    | true =>
      cases action with
      | panic payload => cases hx
      | _ => cases hp
    | false =>
      rw [bodyTasks_cons hp, Action.tasks] at hx
      simp only [List.cons_append, List.mem_cons, List.mem_append, List.not_mem_nil,
        or_false] at hx
      rcases hx with rfl | hx | rfl
      · exact h.1
      · split at hx
        · rw [List.mem_singleton.mp hx]
          rfl
        · cases hx
      · exact h.2

theorem isImmediate_pushed {task : Task} {pushed : List Task} {events : List Event}
    (h : Deed s s' t rest task pushed events) (hi : task.isImmediate = true)
    (hslots : ∀ entry ∈ s.slots, entry.2.isImmediate = true) :
    ∀ x ∈ pushed, x.isImmediate = true := by
  cases task with
  | invoke callback result =>
    obtain ⟨rfl, -⟩ := h.invoke_eq
    exact isImmediate_opens hi
  | body serial name actions =>
    obtain ⟨rfl, -⟩ := h.body_eq
    exact isImmediate_bodyTasks hi
  | act action =>
    obtain ⟨rfl, -⟩ := h.act_eq
    intro x hx
    cases action with
    | run slot result =>
      simp only [actTasks] at hx
      split at hx
      · next callback hslot =>
        simp only [List.mem_cons, List.not_mem_nil, or_false] at hx
        rcases hx with rfl | rfl
        · exact hslots _ (Table.mem_of_get? hslot)
        · rfl
      · cases hx
    | post | quit | joinLoop | dropLoop => cases hi
    | _ => cases hx
  | report name =>
    cases h with
    | report => simp
    | silent hs => cases hs
    | other hq => cases hq
  | reply reply =>
    cases h with
    | silent => simp
    | other hq => cases hq
  | _ => cases hi

theorem returns_of_isImmediate {tasks : List Task} (hs : s.tasks t = tasks ++ rest)
    (htasks : ∀ x ∈ tasks, x.isImmediate = true)
    (hslots : ∀ entry ∈ s.slots, entry.2.isImmediate = true) :
    ∃ s', Relation.ReflTransGen (fun a b => a.step? t = some b) s s' ∧ Within t rest s s' := by
  -- Every step takes some of the work away, and pushes nothing that waits.
  induction hn : s.work using Nat.strongRecOn generalizing s tasks with
  | ind n ih =>
    cases tasks with
    | nil => exact ⟨s, .refl, .back hs⟩
    | cons task more =>
      have hi := htasks task (by simp)
      obtain ⟨m, hstep⟩ := step?_isSome_of_isImmediate hs hi
      obtain ⟨pushed, events, hturn, hdeed⟩ := deed_step? hs hstep
      have hpushed := isImmediate_pushed hdeed hi hslots
      obtain ⟨s', hsteps, hback⟩ := ih m.work (hn ▸ work_step?_lt hstep)
        (show m.tasks t = pushed ++ more ++ rest by simpa using hturn.after)
        (fun x hx => (List.mem_append.mp hx).elim (hpushed x) fun hx => htasks x (by simp [hx]))
        (fun entry hentry => by
          rw [show m.slots = (s.storeAfter task).slots from
            congrArg Store.slots (store_step? hs hstep)] at hentry
          rcases mem_slots_storeAfter hentry with hold | ⟨hnew, -⟩
          · exact hslots entry hold
          · rw [hnew]
            rfl)
        rfl
      refine ⟨s', .head hstep hsteps, .next (fun heq => ?_) (.step hstep) (by simp) hback⟩
      have hlen := congrArg List.length (hs.symm.trans heq)
      simp only [List.length_append, List.length_cons] at hlen
      omega

/-- What a thread notes from the call of a callback to its return, and what the error slot goes
through. Of a body that panics the actions before the panic were done and those after it were not,
and the slot has the message whatever was in it. -/
inductive Outcome (callback : Callback) (result : Int32) :
    List Event → (ErrorSlot → ErrorSlot) → Prop
  | passed : callback.opens result = [] →
      Outcome callback result (callback.notes result) id
  | finished {name : String} {body : List Action} {inner : List Event}
      {f : ErrorSlot → ErrorSlot} :
      callback.opens result = [.body callback.serial name body] →
      (∀ action ∈ body, action.isPanic = false) → Done (body.flatMap Action.tasks) inner f →
      Outcome callback result (callback.notes result ++ inner ++ [.finished callback.serial]) f
  | panicked {name : String} {before after : List Action} {payload : PanicPayload}
      {inner : List Event} {f : ErrorSlot → ErrorSlot} :
      callback.opens result =
        [.body callback.serial name (before ++ .panic payload :: after)] →
      (∀ action ∈ before, action.isPanic = false) → Done (before.flatMap Action.tasks) inner f →
      Outcome callback result
        (callback.notes result ++ inner ++ [.logged (Log.panickedRecord name payload.text)])
        fun _ => ⟨some (panicMessage name payload.text), none⟩

theorem first_panic (actions : List Action) :
    (∀ action ∈ actions, action.isPanic = false) ∨
      ∃ before payload after, actions = before ++ .panic payload :: after ∧
        ∀ action ∈ before, action.isPanic = false := by
  induction actions with
  | nil => exact .inl (by simp)
  | cons action rest ih =>
    cases hp : action.isPanic with
    | true =>
      cases action with
      | panic payload => exact .inr ⟨[], payload, rest, rfl, by simp⟩
      | _ => cases hp
    | false =>
      have hcons {l : List Action} (hl : ∀ a ∈ l, a.isPanic = false) :
          ∀ a ∈ action :: l, a.isPanic = false := by
        intro a ha
        rcases List.mem_cons.mp ha with rfl | ha
        · exact hp
        · exact hl a ha
      rcases ih with hquiet | ⟨before, payload, after, rfl, hquiet⟩
      · exact .inl (hcons hquiet)
      · exact .inr ⟨action :: before, payload, after, rfl, hcons hquiet⟩

theorem opens_cases (callback : Callback) (result : Int32) :
    callback.opens result = [] ∨
      ∃ name body, callback.opens result = [.body callback.serial name body] := by
  simp only [Callback.opens]
  split
  · next closure _ =>
    obtain ⟨name, duty⟩ := closure
    cases duty with
    | send channel => exact .inl rfl
    | perform trigger body =>
      simp only [Closure.opens]
      split
      · exact .inr ⟨name, body, rfl⟩
      · exact .inl rfl
  · exact .inl rfl

theorem Done.outcome {callback : Callback} {result : Int32} {events : List Event}
    {f : ErrorSlot → ErrorSlot} (h : Done [.invoke callback result] events f) :
    Outcome callback result events f := by
  obtain ⟨_, _, _, _, _, _, inner, g, hdeed, hpushed, rfl, rfl⟩ := h.single
  obtain ⟨rfl, rfl⟩ := hdeed.invoke_eq
  rcases opens_cases callback result with hnone | ⟨name, body, hbody⟩
  · rw [hnone] at hpushed
    cases hpushed
    rw [List.append_nil]
    exact .passed hnone
  · rw [hbody] at hpushed
    rcases first_panic body with hquiet | ⟨before, payload, after, rfl, hquiet⟩
    · obtain ⟨inner, hdone, rfl⟩ := hpushed.body_finished hquiet
      rw [← List.append_assoc]
      exact .finished hbody hquiet hdone
    · obtain ⟨⟨inner, g', hdone, rfl⟩, hslot⟩ := hpushed.body_panicked hquiet
      have hg : g ∘ (Task.invoke callback result).touch =
          fun _ => ⟨some (panicMessage name payload.text), none⟩ := funext hslot
      rw [← List.append_assoc, hg]
      exact .panicked hbody hquiet hdone

theorem Done.run {slot : Nat} {result : Int32} {events : List Event} {f : ErrorSlot → ErrorSlot}
    (h : Done [.act (.run slot result)] events f) :
    events = [] ∧ f = id ∨ ∃ callback, Outcome callback result events f := by
  obtain ⟨m, _, _, _, _, _, inner, g, hdeed, hpushed, rfl, rfl⟩ := h.single
  obtain ⟨rfl, rfl⟩ := hdeed.act_eq
  simp only [actTasks] at hpushed
  split at hpushed
  · next callback _ =>
    right
    obtain ⟨first, second, g₁, g₂, hcall, hreply, rfl, rfl⟩ :=
      (show Done ([.invoke callback result] ++ [.reply .nothing]) _ _ from hpushed).split
    obtain ⟨_, _, _, _, _, _, last, g₃, hdeed, hlast, rfl, rfl⟩ := hreply.single
    cases hdeed with
    | silent =>
      cases hlast
      rw [List.append_nil, List.nil_append, List.append_nil]
      exact ⟨callback, hcall.outcome⟩
    | other hq => cases hq
  · cases hpushed
    exact .inl ⟨rfl, rfl⟩

/-- A call of a closure comes back whatever panics in it, unless it waits for others. The error slot
of its thread has then gone through the actions that were done, and has the message of the panic if
there was one. A callback that a body runs panics for itself only. -/
structure PanicLaw (s : Bridge) (t : ThreadId) (rest : List Task) (callback : Callback)
    (closure : Closure) (result : Int32) : Prop where
  returns : callback.isImmediate = true → (∀ entry ∈ s.slots, entry.2.isImmediate = true) →
    ∃ s', Relation.ReflTransGen (fun a b => a.step? t = some b) s s' ∧ Within t rest s s'
  outcome : ∀ s', Within t rest s s' → s'.tasks t = rest ∧ ∃ events f,
    Outcome callback result events f ∧ s'.noted t = s.noted t ++ events ∧
      s'.errorSlots t = f (s.errorSlots t)
  panicked : ∀ trigger before payload after,
    closure.duty = .perform trigger (before ++ .panic payload :: after) →
    trigger.admits (Code.receive result).1 = true →
    (∀ action ∈ before, action.isPanic = false) → ∀ s', Within t rest s s' →
      s'.errorSlots t = ⟨some (panicMessage closure.name payload.text), none⟩
  kept : callback.opens result = [] → ∀ s', Within t rest s s' →
    s'.errorSlots t = s.errorSlots t
  nested : ∀ slot number events f, Done [.act (.run slot number)] events f →
    events = [] ∧ f = id ∨ ∃ callback, Outcome callback number events f
  others : ∀ (a b : Bridge) u, a.step? t = some b → u ≠ t → b.errorSlots u = a.errorSlots u

theorem panics_stay_inside {s : Bridge} {t : ThreadId} {rest : List Task} {callback : Callback}
    {closure : Closure} {result : Int32} (hb : s.tasks t = .invoke callback result :: rest)
    (hc : callback.target = .closure (some closure)) :
    PanicLaw s t rest callback closure result := by
  have hdone (s' : Bridge) (h : Within t rest s s') : s'.tasks t = rest ∧ ∃ events f,
      Outcome callback result events f ∧ s'.noted t = s.noted t ++ events ∧
        s'.errorSlots t = f (s.errorSlots t) := by
    obtain ⟨hback, events, f, hdone, hnoted, hslot⟩ :=
      h.done (show s.tasks t = [.invoke callback result] ++ rest from hb)
    exact ⟨hback, events, f, hdone.outcome, hnoted, hslot⟩
  refine ⟨?_, hdone, ?_, ?_, fun _ _ _ _ => Done.run, ?_⟩
  · intro hi hslots
    refine returns_of_isImmediate (show s.tasks t = [.invoke callback result] ++ rest from hb)
      (fun x hx => ?_) hslots
    rw [List.mem_singleton.mp hx]
    exact hi
  · intro trigger before payload after hduty hadmits hquiet s' h
    have hopens : callback.opens result =
        [.body callback.serial closure.name (before ++ .panic payload :: after)] := by
      simp only [Callback.opens, hc, Closure.opens, hduty, hadmits, if_true]
    obtain ⟨-, events, f, hcall, -, hslot⟩ :=
      h.done (show s.tasks t = [.invoke callback result] ++ rest from hb)
    obtain ⟨_, _, _, _, _, _, inner, g, hdeed, hpushed, rfl, rfl⟩ := hcall.single
    obtain ⟨rfl, rfl⟩ := hdeed.invoke_eq
    rw [hopens] at hpushed
    rw [hslot]
    exact (hpushed.body_panicked hquiet).2 _
  · intro hnone s' h
    obtain ⟨-, events, f, houtcome, -, hslot⟩ := hdone s' h
    cases houtcome with
    | passed => exact hslot
    | finished hbody => cases hbody.symm.trans hnone
    | panicked hbody => cases hbody.symm.trans hnone
  · intro a b u hstep hu
    obtain ⟨task, more, hb⟩ := exists_task hstep
    rw [errorSlots_step? hb hstep, Function.update_of_ne hu]

/-- The inner callback panics and the outer one goes on, until it panics as well. -/
theorem panics_stay_inside_twice : ∃ s callback, s.tasks .main = [.invoke callback 0] ∧
    (∃ s', Within .main [] s s' ∧
      s'.errorSlots .main = ⟨some "completion callback `outer` panicked: two", none⟩) ∧
    ∃ closure, PanicLaw s .main [] callback closure 0 := by
  let inner : Recipe := .closure .always "inner" [.panic (.literal "one"), .setError "never"]
  let outer : Recipe :=
    .closure .onSuccess "outer" [.run 1 7, .setError "kept", .panic (.owned "two"), .takeError]
  let s := (((fresh.startLoop "loop").call .main (.put 1 false inner)).call .main
    (.put 0 false outer)).call .main (.invoke 0 0)
  have hlaw : PanicLaw s .main [] _ _ 0 := panics_stay_inside rfl rfl
  obtain ⟨s', -, hwithin⟩ := hlaw.returns (by decide) (by decide)
  have hslot := hlaw.panicked .onSuccess [.run 1 7, .setError "kept"] (.owned "two") [.takeError]
    rfl (by decide) (by decide) s' hwithin
  exact ⟨s, _, rfl, ⟨s', hwithin, hslot.trans (by decide)⟩, _, hlaw⟩

end Bridge
end HostBridge
