import HostBridge.Proofs.Completion.Panics
import HostBridge.Proofs.MessageLoop.Waiting

/-!
# Calls that return

Who runs a callback may have to wait: for the gate, and for helpers that something was handed to.
Bodies that do not give up the loop wait for nothing else. Whoever is inside the gate can go on,
and so can the last of the helpers that wait for one another; and every step leaves less work. So
such a call returns, whatever the order of the steps is.
-/
namespace HostBridge

mutual

def Recipe.isTame : Recipe → Bool
  | .closure _ _ body => tameBody body
  | _ => true

/-- To give up the loop is to wait for its thread, everything else is tame. -/
def Action.isTame : Action → Bool
  | .post _ _ recipe => recipe.isTame
  | .joinLoop | .dropLoop => false
  | _ => true

def tameBody : List Action → Bool
  | [] => true
  | action :: rest => action.isTame && tameBody rest

end

def Callback.isTame (callback : Callback) : Bool :=
  match callback.target with
  | .latch => false
  | .closure (some ⟨_, .perform _ body⟩) => tameBody body
  | _ => true

def Errand.isTame : Errand → Bool
  | .post _ callback _ _ => callback.isTame
  | .quit => true

mutual

def Task.isTame : Task → Bool
  | .invoke callback _ | .abort callback | .offer _ callback => callback.isTame
  | .enter errand | .decide errand => errand.isTame
  | .body _ _ actions => tameBody actions
  | .act action => action.isTame
  | .delegate tasks => tameTasks tasks
  | .report _ | .leave | .log _ | .answer .. | .reply _ => true
  | _ => false

def tameTasks : List Task → Bool
  | [] => true
  | task :: rest => task.isTame && tameTasks rest

end

theorem tameTasks_iff {tasks : List Task} :
    tameTasks tasks = true ↔ ∀ x ∈ tasks, x.isTame = true := by
  induction tasks with
  | nil => simp [tameTasks]
  | cons x rest ih => simp [tameTasks, ih]

namespace Bridge

def TameSlots (s : Bridge) : Prop := ∀ entry ∈ s.slots, entry.2.isTame = true

variable {name : String} {s s' : Bridge} {t u : ThreadId} {rest pushed tasks : List Task}
  {task : Task} {events : List Event}

theorem isTame_make {recipe : Recipe} (h : recipe.isTame = true) (optional : Bool) :
    (s.make optional recipe).1.isTame = true := by
  cases recipe <;> cases optional <;> first | rfl | exact h

theorem isTame_opens {callback : Callback} {result : Int32} (h : callback.isTame = true) :
    ∀ x ∈ callback.opens result, x.isTame = true := by
  intro x hx
  simp only [Callback.opens] at hx
  split at hx
  · next closure htarget =>
    obtain ⟨closureName, duty⟩ := closure
    cases duty with
    | send channel => cases hx
    | perform trigger body =>
      simp only [Closure.opens] at hx
      split at hx
      · rw [List.mem_singleton.mp hx]
        rwa [Callback.isTame, htarget] at h
      · cases hx
  · cases hx

theorem isTame_bodyTasks {serial : Nat} {closureName : String} {actions : List Action}
    (h : tameBody actions = true) :
    ∀ x ∈ bodyTasks serial closureName actions, x.isTame = true := by
  intro x hx
  cases actions with
  | nil => cases hx
  | cons action more =>
    rw [tameBody, Bool.and_eq_true] at h
    cases hp : action.isPanic with
    | true =>
      cases action with
      | panic payload => cases hx
      | _ => cases hp
    | false =>
      rw [bodyTasks_cons hp, Action.tasks] at hx
      simp only [List.cons_append, List.mem_cons, List.mem_append, List.not_mem_nil,
        or_false] at hx
      rcases hx with rfl | hx | rfl
      · exact h.1
      · split at hx
        · rw [List.mem_singleton.mp hx]
          rfl
        · cases hx
      · exact h.2

theorem isTame_actTasks {action : Action} (h : action.isTame = true) (hslots : s.TameSlots) :
    ∀ x ∈ s.actTasks action, x.isTame = true := by
  have hvia (via : Via) {tasks : List Task} (htasks : ∀ x ∈ tasks, x.isTame = true) :
      ∀ x ∈ via.tasks tasks, x.isTame = true := by
    cases via with
    | helper =>
      intro x hx
      rw [List.mem_singleton.mp hx]
      exact tameTasks_iff.mpr htasks
    | _ => exact htasks
  intro x hx
  cases action with
  | run slot result =>
    simp only [actTasks] at hx
    split at hx
    · next callback hslot =>
      simp only [List.mem_cons, List.not_mem_nil, or_false] at hx
      rcases hx with rfl | rfl
      · exact hslots _ (Table.mem_of_get? hslot)
      · rfl
    · cases hx
  | post order optional recipe =>
    simp only [actTasks] at hx
    split at hx
    · refine hvia order.via (fun y hy => ?_) x hx
      rw [List.mem_singleton.mp hy]
      exact isTame_make h optional
    · cases hx
  | quit via =>
    simp only [actTasks] at hx
    split at hx
    · exact hvia via (by simp [Task.isTame, Errand.isTame]) x hx
    · cases hx
  | joinLoop | dropLoop => cases h
  | _ => cases hx

theorem Deed.isTame (h : Deed s s' t rest task pushed events) (hx : task.isTame = true)
    (hslots : s.TameSlots) (hd : ∀ tasks, task ≠ .delegate tasks) :
    ∀ x ∈ pushed, x.isTame = true := by
  have hone {y : Task} (hy : y.isTame = true) : ∀ x ∈ [y], x.isTame = true := by simp [hy]
  cases h with
  | invoke callback result => exact isTame_opens hx
  | body serial closureName actions => exact isTame_bodyTasks hx
  | act action => exact isTame_actTasks hx hslots
  | report | silent => simp
  | waive => exact hone rfl
  | ask => exact hone hx
  | other hq hr he =>
    cases he with
    | ordinary hquiet => cases hquiet.symm.trans hq
    | shutDown => cases hq
    | invoke | waive | ask => cases hr
    | delegate => exact absurd rfl (hd _)
    | abort => exact hone hx
    | enter => exact hone hx
    | accept => simp [Task.isTame]
    | refuse => simpa [Task.isTame, Errand.isTame] using hx
    | quit | quitLost | quitAgain => exact hone rfl
    | log | leave | answer => simp
    | _ => cases hx

theorem TameSlots.step (hs : s.TameSlots) (h : s.step? t = some s') : s'.TameSlots := by
  obtain ⟨task, rest, hb⟩ := exists_task h
  intro entry hentry
  rw [show s'.slots = (s.storeAfter task).slots from
    congrArg Store.slots (store_step? hb h)] at hentry
  rcases mem_slots_storeAfter hentry with hold | ⟨hnew, -⟩
  · exact hs entry hold
  · rw [hnew]
    rfl

theorem enter_of_isTame (hb : s.tasks t = task :: rest) (hx : task.isTame = true)
    (hnone : s.step? t = none) : ∃ u, s.gate = some u := by
  rw [step?_eq hb] at hnone
  rcases perform?_eq_none hnone with hheld | ⟨rfl, -⟩ | ⟨-, u, hu⟩ | ⟨rfl, -⟩
  · cases task with
    | invoke callback result =>
      have htarget : callback.target ≠ .latch := by
        intro htarget
        simp [Task.isTame, Callback.isTame, htarget] at hx
      simp only [perform?, invoke?] at hnone
      split at hnone <;> first | cases hnone | exact absurd ‹_› htarget
    | await | awaitHelper => cases hx
    | _ => cases hheld
  · cases hx
  · exact ⟨u, by simpa using hu⟩
  · cases hx

theorem threads_perform? (ht : t ∈ s.threads) (h : s.perform? t task = some s')
    (hd : ∀ tasks, task ≠ .delegate tasks) : s'.threads = s.threads := by
  cases task with
  | invoke callback result => exact (frame_invoked ht h).threads
  | abort callback =>
    simp only [perform?] at h
    split at h <;> cases h
    · rfl
    · exact threads_updateThread ..
  | body serial closureName actions =>
    cases h
    exact (frame_body ht serial closureName actions).threads
  | act action =>
    cases h
    rcases frame_act ht action with ⟨_, hf, -⟩ | ⟨-, tasks, -, heq⟩
    · exact hf.threads
    · rw [heq]
      exact threads_updateThread ..
  | offer order callback =>
    cases h
    rcases offer_cases s t order callback with ⟨_, _, -, heq⟩ | ⟨-, _, heq⟩ <;>
    · rw [heq]
      exact threads_updateThread ..
  | enter errand =>
    simp only [perform?] at h
    split at h <;> cases h
    exact threads_updateThread ..
  | decide errand =>
    cases h
    cases errand with
    | post request callback delay result =>
      simp only [Bridge.decide, refuse]
      split
      · exact threads_updateThread ..
      · split <;> exact threads_updateThread ..
    | quit =>
      simp only [Bridge.decide]
      split
      · exact threads_updateThread ..
      · split <;> exact threads_updateThread ..
  | receive =>
    simp only [perform?, receive?] at h
    split at h
    · split at h <;> cases h
      rfl
    · cases h
      rfl
    · cases h
      exact threads_updateThread ..
  | awaitHelper | awaitLoop =>
    simp only [perform?] at h
    split at h <;> cases h
    first
    | rfl
    | exact threads_updateThread ..
  | await channel => exact (frame_await? h).threads
  | delegate tasks => exact absurd rfl (hd tasks)
  | dispatch | reply | answer =>
    cases h
    exact threads_updateThread ..
  | report | leave | log | openLatch | discardLoop | clonePoster | dropPoster =>
    cases h
    rfl

theorem length_helpers_updateThread (f : Thread → Thread) :
    (s.updateThread t f).helpers.length = s.helpers.length := by
  cases t <;> simp [updateThread]

theorem step?_delegate (hb : s.tasks t = .delegate tasks :: rest) (h : s.step? t = some s') :
    s'.tasks t = .awaitHelper s.helpers.length :: rest ∧
      s'.tasks (.helper s.helpers.length) = tasks ∧
      s'.helpers.length = s.helpers.length + 1 ∧
      ∀ u ∈ s.threads, u ≠ t → s'.tasks u = s.tasks u := by
  have ht := mem_threads_setTasks hb
  let m := (s.setTasks t rest).push t [.awaitHelper (s.setTasks t rest).helpers.length]
  have hlength : m.helpers.length = s.helpers.length :=
    (length_helpers_updateThread _).trans (length_helpers_updateThread _)
  have hwaits : (s.setTasks t rest).helpers.length = s.helpers.length :=
    length_helpers_updateThread _
  obtain rfl : { m with helpers := m.helpers ++ [{ Thread.idle with tasks }] } = s' :=
    Option.some.inj ((step?_eq hb).symm.trans h)
  have hturn := turn_delegate hb ht (Eq.refl m)
  refine ⟨?_, ?_, by simp [hlength], fun u hu hne => ?_⟩
  · rw [hturn.after, hwaits]
    rfl
  · rw [tasks_enlist, hlength, if_pos rfl]
  · have hold : u ≠ .helper m.helpers.length := by
      rintro rfl
      have hlt := (s.mem_threads _).mp hu _ rfl
      omega
    rw [tasks_enlist, if_neg hold, (frame_push _ ht).others u hne, tasks_setTasks_ne hne]

theorem mem_threads_step? (h : s.step? t = some s') (hu : u ∈ s.threads) : u ∈ s'.threads := by
  obtain ⟨task, rest, hb⟩ := exists_task h
  by_cases hd : ∃ tasks, task = .delegate tasks
  · obtain ⟨tasks, rfl⟩ := hd
    obtain ⟨-, -, hlength, -⟩ := step?_delegate hb h
    refine (s'.mem_threads u).mpr fun index hindex => ?_
    have hlt := (s.mem_threads u).mp hu index hindex
    omega
  · rw [threads_perform? (mem_threads_setTasks hb) ((step?_eq hb).symm.trans h)
      fun tasks heq => hd ⟨tasks, heq⟩, threads_setTasks]
    exact hu

theorem tasks_step?_ne (h : s.step? t = some s') (hu : u ∈ s.threads) (hne : u ≠ t) :
    s'.tasks u = s.tasks u := by
  obtain ⟨task, rest, hb⟩ := exists_task h
  obtain ⟨pushed, events, hturn⟩ := turn_step? hb h
  rcases hturn.others u hne with hsame | ⟨-, -, hpopped⟩
  · exact hsame
  · rw [List.singleton_inj.mp hpopped] at hb
    exact (step?_delegate hb h).2.2.2 u hu hne

theorem step?_awaitHelper {index : Nat} (hb : s.tasks t = .awaitHelper index :: rest)
    (hne : t ≠ .helper index) :
    (s.step? t).isSome = true ↔ s.tasks (.helper index) = [] := by
  have hsame : ((s.setTasks t rest).thread (.helper index)).tasks = s.tasks (.helper index) :=
    tasks_setTasks_ne (Ne.symm hne)
  rw [step?_eq hb]
  simp only [perform?, Thread.isIdle, hsame]
  cases s.tasks (.helper index) <;> simp

/-- A thread is at tame tasks, or it waits for a helper that is. -/
inductive Engaged (s : Bridge) : List Task → Prop
  | own {tasks : List Task} : (∀ x ∈ tasks, x.isTame = true) → Engaged s tasks
  | waits {index : Nat} {more : List Task} : .helper index ∈ s.threads →
      (∀ x ∈ more, x.isTame = true) → Engaged s (s.tasks (.helper index)) →
      Engaged s (.awaitHelper index :: more)

theorem Engaged.progress (h : Engaged s tasks) (hg : Gated s) (hb : s.tasks t = tasks ++ rest)
    (hne : tasks ≠ []) : ∃ u s', s.step? u = some s' := by
  induction h generalizing t rest with
  | @own tasks htame =>
    cases tasks with
    | nil => exact absurd rfl hne
    | cons x more =>
      cases hstep : s.step? t with
      | some s' => exact ⟨t, s', hstep⟩
      | none =>
        obtain ⟨u, hu⟩ := enter_of_isTame hb (htame x (by simp)) hstep
        exact ⟨u, Option.isSome_iff_exists.mp (hg.holder_steps hu)⟩
  | @waits index more _ _ _ ih =>
    by_cases hidle : s.tasks (.helper index) = []
    · have hother : t ≠ .helper index := by
        rintro rfl
        cases hidle.symm.trans hb
      exact ⟨t, Option.isSome_iff_exists.mp ((step?_awaitHelper hb hother).mpr hidle)⟩
    · exact ih (List.append_nil _).symm hidle

theorem engaged_step {x : Task} {more : List Task} (htame : ∀ y ∈ x :: more, y.isTame = true)
    (hslots : s.TameSlots) (hb : s.tasks t = x :: more ++ rest) (hstep : s.step? t = some s') :
    ∃ tasks', s'.tasks t = tasks' ++ rest ∧ Engaged s' tasks' := by
  have hx := htame x (by simp)
  have hmore : ∀ y ∈ more, y.isTame = true := fun y hy => htame y (by simp [hy])
  by_cases hd : ∃ handed, x = .delegate handed
  · obtain ⟨handed, rfl⟩ := hd
    obtain ⟨hown, hnew, hlength, -⟩ := step?_delegate hb hstep
    refine ⟨_, hown, .waits ?_ hmore (.own ?_)⟩
    · exact (s'.mem_threads _).mpr fun index hindex => by cases hindex; omega
    · rw [hnew]
      exact tameTasks_iff.mp hx
  · obtain ⟨pushed, events, hturn, hdeed⟩ := deed_step? hb hstep
    have hpushed := hdeed.isTame hx hslots fun handed heq => hd ⟨handed, heq⟩
    have hafter : s'.tasks t = pushed ++ (more ++ rest) := hturn.after
    refine ⟨pushed ++ more, by rw [hafter, List.append_assoc], .own fun y hy => ?_⟩
    exact (List.mem_append.mp hy).elim (hpushed y) (hmore y)

theorem Engaged.step (h : Engaged s tasks) (hslots : s.TameSlots) (hb : s.tasks t = tasks ++ rest)
    (hne : tasks ≠ []) (hstep : s.step? u = some s') :
    ∃ tasks', s'.tasks t = tasks' ++ rest ∧ Engaged s' tasks' := by
  induction h generalizing t rest with
  | @own tasks htame =>
    obtain ⟨x, more, rfl⟩ : ∃ x more, tasks = x :: more := List.exists_cons_of_ne_nil hne
    by_cases hu : u = t
    · subst hu
      exact engaged_step htame hslots hb hstep
    · have hsame := tasks_step?_ne hstep (mem_threads_of_tasks s t hb) (Ne.symm hu)
      exact ⟨_, hsame.trans hb, .own htame⟩
  | @waits index more hin hmore _ ih =>
    by_cases hu : u = t
    · subst hu
      obtain ⟨pushed, events, hturn, hdeed⟩ := deed_step? hb hstep
      cases hdeed with
      | silent => exact ⟨more, hturn.after, .own hmore⟩
      | other hq => cases hq
    · have hsame := tasks_step?_ne hstep (mem_threads_of_tasks s t hb) (Ne.symm hu)
      refine ⟨_, hsame.trans hb, .waits (mem_threads_step? hstep hin) hmore ?_⟩
      by_cases hidle : s.tasks (.helper index) = []
      · have hother : .helper index ≠ u := by
          rintro rfl
          obtain ⟨_, _, hbusy⟩ := exists_task hstep
          cases hidle.symm.trans hbusy
        refine .own fun y hy => ?_
        rw [tasks_step?_ne hstep hin hother, hidle] at hy
        cases hy
      · obtain ⟨tasks', htasks, hengaged⟩ := ih (List.append_nil _).symm hidle
        rw [htasks, List.append_nil]
        exact hengaged

/-- However the threads step, they come to a state with the property before all of them wait. -/
inductive Inevitably (P : Bridge → Prop) : Bridge → Prop
  | now {s : Bridge} : P s → Inevitably P s
  | next {s : Bridge} : (∃ t s', s.step? t = some s') →
      (∀ t s', s.step? t = some s' → Inevitably P s') → Inevitably P s

theorem Inevitably.mono {P Q : Bridge → Prop} (h : Inevitably P s) (himp : ∀ m, P m → Q m) :
    Inevitably Q s := by
  induction h with
  | now hp => exact .now (himp _ hp)
  | next hsome _ ih => exact .next hsome ih

theorem Engaged.returns (h : Engaged s tasks) (hr : Reachable name s) (hslots : s.TameSlots)
    (hb : s.tasks t = tasks ++ rest) : Inevitably (Within t rest s) s := by
  -- Every step of anybody takes some of the work away.
  induction hn : s.work using Nat.strongRecOn generalizing s tasks with
  | ind n ih =>
    by_cases hne : tasks = []
    · subst hne
      exact .now (.back hb)
    · have hbusy : s.tasks t ≠ rest := by
        rw [hb]
        simpa using hne
      refine .next (h.progress hr.gated hb hne) fun u s' hstep => ?_
      obtain ⟨tasks', hb', hengaged⟩ := h.step hslots hb hne hstep
      refine (ih s'.work (hn ▸ work_step?_lt hstep) hengaged (hr.move (.step hstep))
        (hslots.step hstep) hb' rfl).mono fun m hm => ?_
      exact .next hbusy (.step hstep) (by simp) hm

theorem Reachable.returns (hr : Reachable name s) {callback : Callback} {result : Int32}
    (hb : s.tasks t = .invoke callback result :: rest) (hc : callback.isTame = true)
    (hslots : s.TameSlots) : Inevitably (Within t rest s) s := by
  have hengaged : Engaged s [.invoke callback result] := .own (by simpa [Task.isTame] using hc)
  exact hengaged.returns hr hslots hb

/-- No run of steps is longer than the work that there is. -/
theorem length_add_work_le {schedule : List ThreadId}
    (h : schedule.foldlM step? s = some s') : schedule.length + s'.work ≤ s.work := by
  induction schedule generalizing s with
  | nil =>
    cases h
    simp
  | cons t rest ih =>
    rw [List.foldlM_cons] at h
    obtain ⟨m, hstep, hrest⟩ := Option.bind_eq_some_iff.mp h
    have hless := work_step?_lt hstep
    have hbound := ih hrest
    rw [List.length_cons]
    omega

end Bridge
end HostBridge
