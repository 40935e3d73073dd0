import HostBridge.Proofs.Completion.Motion

/-!
# The course of a thread

Seen from one thread, a task is done when the thread is back at the tasks below it. What is
done meanwhile has the shape of the tasks and not of the interleaving: whatever other threads
do in between, the thread notes the events of its own deeds, one after another, and its error
slot passes through them.
-/
namespace HostBridge

namespace Bridge

/-- A thread has done tasks and all that they gave way to. It has noted events, and its error
slot has gone through a function. -/
inductive Done : List Task → List Event → (ErrorSlot → ErrorSlot) → Prop
  | nil : Done [] [] id
  | cons {s s' : Bridge} {t : ThreadId} {below : List Task} {task : Task}
      {tasks pushed : List Task} {noted inner later : List Event} {f g : ErrorSlot → ErrorSlot} :
      Deed s s' t below task pushed noted → Done pushed inner f → Done tasks later g →
      Done (task :: tasks) (noted ++ inner ++ later) (g ∘ f ∘ task.touch)

/-- A thread does nothing but take its steps, others move as they like, until the thread is
back at the rest of its tasks. -/
inductive Within (t : ThreadId) (rest : List Task) : Bridge → Bridge → Prop
  | back {s : Bridge} : s.tasks t = rest → Within t rest s s
  | next {s s' s'' : Bridge} {m : Motion} : s.tasks t ≠ rest → Moved s m s' →
      (∀ call, m ≠ .call t call) → Within t rest s' s'' → Within t rest s s''

/-- As `Within`, where every state on the way has a property. -/
inductive WithinWhile (P : Bridge → Prop) (t : ThreadId) (rest : List Task) :
    Bridge → Bridge → Prop
  | back {s : Bridge} : s.tasks t = rest → WithinWhile P t rest s s
  | next {s s' s'' : Bridge} {m : Motion} : P s → s.tasks t ≠ rest → Moved s m s' →
      (∀ call, m ≠ .call t call) → WithinWhile P t rest s' s'' → WithinWhile P t rest s s''

theorem Within.while {t : ThreadId} {rest : List Task} {s s' : Bridge}
    (h : Within t rest s s') : WithinWhile (fun _ => True) t rest s s' := by
  induction h with
  | back hback => exact .back hback
  | next hne hm hcall _ ih => exact .next trivial hne hm hcall ih

section deeds
variable {s s' : Bridge} {t : ThreadId} {rest pushed : List Task} {events : List Event}

theorem Deed.invoke_eq {callback : Callback} {result : Int32}
    (h : Deed s s' t rest (.invoke callback result) pushed events) :
    pushed = callback.opens result ∧ events = callback.notes result := by
  cases h with
  | invoke => exact ⟨rfl, rfl⟩
  | silent hs => cases hs
  | other _ hr => cases hr

theorem Deed.body_eq {serial : Nat} {name : String} {actions : List Action}
    (h : Deed s s' t rest (.body serial name actions) pushed events) :
    pushed = bodyTasks serial name actions ∧ events = bodyNotes serial name actions := by
  cases h with
  | body => exact ⟨rfl, rfl⟩
  | silent hs => cases hs
  | other hq => cases hq

theorem Deed.act_eq {action : Action} (h : Deed s s' t rest (.act action) pushed events) :
    pushed = s.actTasks action ∧ events = [] := by
  cases h with
  | act => exact ⟨rfl, rfl⟩
  | silent hs => cases hs
  | other hq => cases hq

end deeds

section done
variable {first second tasks : List Task} {earlier later events : List Event}
  {f g : ErrorSlot → ErrorSlot}

theorem Done.append (h₁ : Done first earlier f) (h₂ : Done second later g) :
    Done (first ++ second) (earlier ++ later) (g ∘ f) := by
  induction h₁ with
  | nil => exact h₂
  | cons hdeed hpushed _ _ ih => simpa [Function.comp_assoc] using Done.cons hdeed hpushed ih

theorem Done.split (h : Done (first ++ second) events f) :
    ∃ earlier later g₁ g₂, Done first earlier g₁ ∧ Done second later g₂ ∧
      events = earlier ++ later ∧ f = g₂ ∘ g₁ := by
  induction first generalizing events f with
  | nil => exact ⟨[], events, id, f, .nil, h, rfl, rfl⟩
  | cons task first ih =>
    cases h with
    | cons hdeed hpushed hrest =>
      obtain ⟨earlier, later, g₁, g₂, h₁, h₂, rfl, rfl⟩ := ih hrest
      exact ⟨_, later, _, g₂, .cons hdeed hpushed h₁, h₂, by simp, by simp [Function.comp_assoc]⟩

theorem Done.single {task : Task} (h : Done [task] events f) :
    ∃ s s' t below pushed noted inner g, Deed s s' t below task pushed noted ∧
      Done pushed inner g ∧ events = noted ++ inner ∧ f = g ∘ task.touch := by
  cases h with
  | cons hdeed hpushed hrest =>
    cases hrest
    exact ⟨_, _, _, _, _, _, _, _, hdeed, hpushed, by simp, rfl⟩

end done

/-- What is said of no tasks, and of a task from what is said of the tasks that it gives way to,
can be said of all that was above the rest when the thread is back. -/
theorem WithinWhile.unfolds {P : Bridge → Prop} {t : ThreadId} {rest : List Task}
    {Q : List Task → List Event → (ErrorSlot → ErrorSlot) → Prop} (hnil : Q [] [] id)
    (hcons : ∀ (a b : Bridge) (below : List Task) (task : Task) (pushed more : List Task)
      (noted events : List Event) (f : ErrorSlot → ErrorSlot), P a →
      Deed a b t below task pushed noted → Q (pushed ++ more) events f →
        Q (task :: more) (noted ++ events) (f ∘ task.touch))
    {s s' : Bridge} {tasks : List Task} (h : WithinWhile P t rest s s')
    (hs : s.tasks t = tasks ++ rest) :
    s'.tasks t = rest ∧ ∃ events f, Q tasks events f ∧
      s'.noted t = s.noted t ++ events ∧ s'.errorSlots t = f (s.errorSlots t) := by
  -- By induction on the moves, for any tasks: a step of the thread puts others above the rest.
  induction h generalizing tasks with
  | @back s hback =>
    have hempty : tasks = [] := by simpa using hs.symm.trans hback
    subst hempty
    exact ⟨hback, [], id, hnil, by simp, rfl⟩
  | @next s s' s'' m hp hne hm hcall _ ih =>
    obtain ⟨task, more, rfl⟩ : ∃ task more, tasks = task :: more := by
      cases tasks with
      | nil => exact absurd hs hne
      | cons task more => exact ⟨task, more, rfl⟩
    by_cases hown : m.thread? = some t
    · cases hm with
      | @step _ u hstep =>
        cases hown
        obtain ⟨pushed, noted, hturn, hdeed⟩ := deed_step? hs hstep
        obtain ⟨hback, events, f, hholds, hnoted, hslot⟩ :=
          ih (show s'.tasks t = pushed ++ more ++ rest by simpa using hturn.after)
        refine ⟨hback, _, _, hcons _ _ _ _ _ _ _ _ _ hp hdeed hholds, ?_, ?_⟩
        · rw [hnoted, hturn.noted.1, List.append_assoc]
        · rw [hslot, errorSlots_step? hs hstep, Function.update_self]
          rfl
      | @call u call hfree =>
        cases hown
        exact absurd rfl (hcall call)
      | enlist => cases hown
    · -- What another thread does is not seen by this one.
      obtain ⟨htasks, hnoted, hslot⟩ := hm.aside hown (by rw [hs]; simp)
      obtain ⟨hback, events, f, hholds, hnoted', hslot'⟩ := ih (htasks.trans hs)
      exact ⟨hback, events, f, hholds, by rw [hnoted', hnoted], by rw [hslot', hslot]⟩

theorem Within.done {s s' : Bridge} {t : ThreadId} {rest tasks : List Task}
    (h : Within t rest s s') (hs : s.tasks t = tasks ++ rest) :
    s'.tasks t = rest ∧ ∃ events f, Done tasks events f ∧
      s'.noted t = s.noted t ++ events ∧ s'.errorSlots t = f (s.errorSlots t) := by
  refine h.while.unfolds (Q := Done) .nil ?_ hs
  intro a b below task pushed more noted events f _ hdeed hdone
  obtain ⟨inner, later, g₁, g₂, hpushed, hmore, rfl, rfl⟩ := hdone.split
  simpa [Function.comp_assoc] using Done.cons hdeed hpushed hmore

theorem Done.body_append {serial : Nat} {name : String} {before after : List Action}
    {events : List Event} {f : ErrorSlot → ErrorSlot}
    (h : Done [.body serial name (before ++ after)] events f)
    (hquiet : ∀ action ∈ before, action.isPanic = false) :
    ∃ inner later g₁ g₂, Done (before.flatMap Action.tasks) inner g₁ ∧
      Done [.body serial name after] later g₂ ∧ events = inner ++ later ∧ f = g₂ ∘ g₁ := by
  induction before generalizing events f with
  | nil => exact ⟨[], events, id, f, .nil, h, rfl, rfl⟩
  | cons action before ih =>
    have haction := hquiet action (by simp)
    obtain ⟨_, _, _, _, _, _, inner, g, hdeed, hpushed, rfl, rfl⟩ := h.single
    obtain ⟨rfl, rfl⟩ := hdeed.body_eq
    rw [List.cons_append, bodyTasks_cons haction] at hpushed
    obtain ⟨first, second, g₁, g₂, hact, hnext, rfl, rfl⟩ := hpushed.split
    obtain ⟨inner, later, g₃, g₄, hmore, hafter, rfl, rfl⟩ :=
      ih hnext fun action ha => hquiet action (List.mem_cons_of_mem _ ha)
    refine ⟨first ++ inner, later, g₃ ∘ g₁, g₄, ?_, hafter, ?_, ?_⟩
    · rw [List.flatMap_cons]
      exact hact.append hmore
    · rw [List.cons_append, bodyNotes_cons haction]
      simp
    · rw [List.cons_append, Task.touch_body_cons haction]
      rfl

theorem Done.body_finished {serial : Nat} {name : String} {actions : List Action}
    {events : List Event} {f : ErrorSlot → ErrorSlot}
    (h : Done [.body serial name actions] events f)
    (hquiet : ∀ action ∈ actions, action.isPanic = false) :
    ∃ inner, Done (actions.flatMap Action.tasks) inner f ∧
      events = inner ++ [.finished serial] := by
  rw [← List.append_nil actions] at h
  obtain ⟨inner, later, g₁, g₂, hdone, hend, rfl, rfl⟩ := h.body_append hquiet
  obtain ⟨_, _, _, _, _, _, rest, g, hdeed, hpushed, rfl, rfl⟩ := hend.single
  obtain ⟨rfl, rfl⟩ := hdeed.body_eq
  cases hpushed
  exact ⟨inner, hdone, rfl⟩

theorem Done.body_panicked {serial : Nat} {name : String} {before after : List Action}
    {payload : PanicPayload} {events : List Event} {f : ErrorSlot → ErrorSlot}
    (h : Done [.body serial name (before ++ .panic payload :: after)] events f)
    (hquiet : ∀ action ∈ before, action.isPanic = false) :
    (∃ inner g, Done (before.flatMap Action.tasks) inner g ∧
      events = inner ++ [.logged (Log.panickedRecord name payload.text)]) ∧
    ∀ slot, f slot = ⟨some (panicMessage name payload.text), none⟩ := by
  obtain ⟨inner, later, g₁, g₂, hdone, hend, rfl, rfl⟩ := h.body_append hquiet
  obtain ⟨_, _, _, _, _, _, rest, g, hdeed, hpushed, rfl, rfl⟩ := hend.single
  obtain ⟨rfl, rfl⟩ := hdeed.body_eq
  -- To panic pushes no tasks, and what it leaves in the slot does not depend on what was there.
  cases hpushed
  exact ⟨⟨inner, g₁, hdone, rfl⟩, fun slot => rfl⟩

end Bridge
end HostBridge
