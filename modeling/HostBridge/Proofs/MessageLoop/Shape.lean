import HostBridge.Proofs.MessageLoop.Guard

/-!
# The shape of the stacks

Only the loop thread receives and dispatches. It has stopped, or it is delaying an item that
it has taken, or it will receive again when the work in front of that is done.
-/
namespace HostBridge

def Task.isWork : Task → Bool
  | .receive | .dispatch .. => false
  | .delegate tasks => tasks.all isOpening
  | _ => true

theorem Task.isWork_of_isOpening {task : Task} (h : task.isOpening = true) :
    task.isWork = true := by
  cases task <;> first | rfl | cases h

theorem Task.isWork_of_isOrdinary {task : Task} (h : task.isOrdinary = true) :
    task.isWork = true := by
  cases task <;> first | rfl | exact h

inductive LoopStack : List Task → Prop
  | stopped : LoopStack []
  | taken (callback : Callback) (delay : Nat) (result : Int32) :
      LoopStack [.dispatch callback delay result, .receive]
  | busy {work : List Task} : (∀ x ∈ work, x.isWork = true) → LoopStack (work ++ [.receive])

theorem LoopStack.cons_cases {x : Task} {rest : List Task} (h : LoopStack (x :: rest)) :
    (x.isWork = true ∧ ∃ work, rest = work ++ [.receive] ∧ ∀ y ∈ work, y.isWork = true) ∨
    (∃ callback delay result, x = .dispatch callback delay result ∧ rest = [.receive]) ∨
    (x = .receive ∧ rest = []) := by
  generalize hl : x :: rest = l at h
  cases h with
  | stopped => cases hl
  | taken callback delay result =>
    cases hl
    exact .inr (.inl ⟨callback, delay, result, rfl, rfl⟩)
  | @busy work hw =>
    cases work with
    | nil =>
      cases hl
      exact .inr (.inr ⟨rfl, rfl⟩)
    | cons y work =>
      cases hl
      exact .inl ⟨hw x (by simp), work, rfl, fun z hz => hw z (by simp [hz])⟩

theorem LoopStack.push {work rest : List Task} (hw : ∀ x ∈ work, x.isWork = true)
    (h : LoopStack rest) (hrest : ∃ more, rest = more ++ [.receive] ∧ ∀ y ∈ more, y.isWork = true) :
    LoopStack (work ++ rest) := by
  obtain ⟨more, rfl, hmore⟩ := hrest
  rw [← List.append_assoc]
  apply LoopStack.busy
  intro x hx
  rcases List.mem_append.mp hx with hx | hx
  · exact hw x hx
  · exact hmore x hx

namespace Bridge

structure Shaped (s : Bridge) : Prop where
  loop : LoopStack (s.tasks .loop)
  others : ∀ u, u ≠ .loop → ∀ x ∈ s.tasks u, x.isWork = true

variable {s s' : Bridge} {t : ThreadId} {popped pushed rest : List Task} {events : List Event}

theorem Effect.popped_cases (h : Effect s t rest s' popped pushed events) :
    popped = [] ∨ ∃ x, popped = [x] := by
  cases h <;> simp

theorem Effect.isWork (h : Effect s t rest s' popped pushed events)
    (hp : ∀ x ∈ popped, x.isWork = true) : ∀ x ∈ pushed, x.isWork = true := by
  cases h with
  | call ho => exact fun x hx => Task.isWork_of_isOpening (ho x hx)
  | ordinary _ ho => exact fun x hx => Task.isWork_of_isOrdinary (ho x hx)
  | shutDown ht => rcases ht with rfl | rfl <;> simp [joinTasks, dropTasks, Task.isWork]
  | invoke _ hpush => rcases hpush with rfl | ⟨_, _, rfl⟩ <;> simp [Task.isWork]
  | take => cases hp _ (List.mem_singleton.mpr rfl)
  | _ => simp [Task.isWork]

theorem Turn.mem_popped (h : Turn s s' t popped pushed rest events) {x : Task}
    (hx : x ∈ popped) : x ∈ s.tasks t := by
  rw [h.before]
  exact List.mem_append_left _ hx

theorem Turn.mem_rest (h : Turn s s' t popped pushed rest events) {x : Task}
    (hx : x ∈ rest) : x ∈ s.tasks t := by
  rw [h.before]
  exact List.mem_append_right _ hx

theorem Turn.loopStack (h : Turn s s' .loop popped pushed rest events)
    (hs : LoopStack (s.tasks .loop)) : LoopStack (s'.tasks .loop) := by
  rw [h.before] at hs
  rw [h.after]
  rcases h.effect.popped_cases with rfl | ⟨x, rfl⟩
  · cases h.effect with
    | call ho hfree =>
      rcases hfree with rfl | ⟨-, hne⟩ | ⟨n, name, actions, more, rfl⟩
      · exact hs
      · exact absurd rfl hne
      · rcases hs.cons_cases with ⟨_, work, rfl, hw⟩ | ⟨_, _, _, hx, -⟩ | ⟨hx, -⟩
        · refine LoopStack.push (fun x hx => Task.isWork_of_isOpening (ho x hx)) hs
            ⟨.body n name actions :: work, rfl, ?_⟩
          intro y hy
          rcases List.mem_cons.mp hy with rfl | hy
          · rfl
          · exact hw y hy
        · cases hx
        · cases hx
  · rcases LoopStack.cons_cases hs with ⟨hx, work, rfl, hw⟩ | ⟨c, d, r, rfl, rfl⟩ | ⟨rfl, rfl⟩
    · have hpush := h.effect.isWork (by simpa using hx)
      exact LoopStack.push hpush (LoopStack.busy hw) ⟨work, rfl, hw⟩
    · cases h.effect with
      | ordinary ho => cases ho
      | dispatch =>
        have hw : ∀ x ∈ [Task.invoke c r], x.isWork = true := by simp [Task.isWork]
        exact LoopStack.busy hw
    · cases h.effect with
      | ordinary ho => cases ho
      | take => exact LoopStack.taken ..
      | stop => exact LoopStack.stopped
      | disconnect => exact LoopStack.stopped

theorem Shaped.handed {tasks : List Task} (hs : Shaped s)
    (h : Turn s s' t [.delegate tasks] pushed rest events) : ∀ x ∈ tasks, x.isOpening = true := by
  have hwork : (Task.delegate tasks).isWork = true := by
    by_cases ht : t = .loop
    · subst ht
      have hstack := hs.loop
      rw [h.before] at hstack
      rcases LoopStack.cons_cases hstack with ⟨hw, -⟩ | ⟨_, _, _, hd, -⟩ | ⟨hd, -⟩
      · exact hw
      · cases hd
      · cases hd
    · exact hs.others t ht _ (h.mem_popped (by simp))
  exact List.all_eq_true.mp hwork

theorem Shaped.turn (hs : Shaped s) (h : Turn s s' t popped pushed rest events) :
    Shaped s' where
  loop := by
    by_cases ht : t = .loop
    · subst ht
      exact h.loopStack hs.loop
    · rcases h.others .loop (Ne.symm ht) with hsame | ⟨-, hne, -⟩
      · rw [hsame]
        exact hs.loop
      · exact absurd rfl hne
  others := by
    intro u hu x hx
    by_cases hut : u = t
    · subst hut
      have hpopped : ∀ y ∈ popped, y.isWork = true := fun y hy => hs.others u hu y (h.mem_popped hy)
      rw [h.after] at hx
      rcases List.mem_append.mp hx with hx | hx
      · exact h.effect.isWork hpopped x hx
      · exact hs.others u hu x (h.mem_rest hx)
    · rcases h.others u hut with hsame | ⟨-, -, hpopped⟩
      · rw [hsame] at hx
        exact hs.others u hu x hx
      · rw [hpopped] at h
        exact Task.isWork_of_isOpening (hs.handed h x hx)

theorem mem_tasks_start {name : String} {u : ThreadId} {x : Task}
    (hx : x ∈ (fresh.startLoop name).tasks u) : u = .loop ∧ x = .receive := by
  cases u with
  | loop => exact ⟨rfl, List.mem_singleton.mp hx⟩
  | main => cases hx
  | helper index => simp [tasks, thread, startLoop, fresh, Thread.idle] at hx

theorem Reachable.shaped {name : String} (hr : Reachable name s) : Shaped s := by
  apply hr.induct
  · have hw : ∀ x ∈ ([] : List Task), x.isWork = true := by simp
    refine ⟨LoopStack.busy hw, ?_⟩
    intro u hu x hx
    exact absurd (mem_tasks_start hx).1 hu
  · intro s s' _ hs hm
    obtain ⟨t, popped, pushed, rest, events, h⟩ := hm.turn
    exact hs.turn h

theorem Turn.guarded {P Q : ThreadId → List Task → Task → Prop}
    (h : Turn s s' t popped pushed rest events) (hshape : Shaped s)
    (hs : ∀ u, Guarded (P u) (s.tasks u)) (hpush : Guarded (Q t) pushed)
    (hrest : ∀ before, ∀ x ∈ rest, P t (popped ++ before) x → Q t (pushed ++ before) x)
    (hothers : ∀ u before x, u ≠ t → P u before x → Q u before x)
    (hnew : ∀ u before x, x.isOpening = true → Q u before x) :
    ∀ u, Guarded (Q u) (s'.tasks u) := by
  intro u
  by_cases hu : u = t
  · subst hu
    have hold := hs u
    rw [h.before, guarded_append] at hold
    rw [h.after, guarded_append]
    exact ⟨hpush, hold.2.mono hrest⟩
  · rcases h.others u hu with hsame | ⟨-, -, hpopped⟩
    · rw [hsame]
      exact (hs u).mono fun before x _ => hothers u before x hu
    · rw [hpopped] at h
      exact .of_forall fun before x hx => hnew u before x (hshape.handed h x hx)

theorem Turn.forall_tasks {P Q : ThreadId → Task → Prop}
    (h : Turn s s' t popped pushed rest events) (hshape : Shaped s)
    (hs : ∀ u, ∀ x ∈ s.tasks u, P u x) (hpush : ∀ x ∈ pushed, Q t x)
    (hkeep : ∀ u x, P u x → Q u x) (hnew : ∀ u x, x.isOpening = true → Q u x) :
    ∀ u, ∀ x ∈ s'.tasks u, Q u x := by
  intro u x hx
  by_cases hu : u = t
  · subst hu
    rw [h.after] at hx
    rcases List.mem_append.mp hx with hx | hx
    · exact hpush x hx
    · exact hkeep u x (hs u x (h.mem_rest hx))
  · rcases h.others u hu with hsame | ⟨-, -, hpopped⟩
    · rw [hsame] at hx
      exact hkeep u x (hs u x hx)
    · rw [hpopped] at h
      exact hnew u x (hshape.handed h x hx)

theorem hasStopped_iff : s.hasStopped = true ↔ s.tasks .loop = [] := by
  simp only [hasStopped, Thread.isIdle, tasks, thread, List.isEmpty_iff]

theorem hasStopped_of_cons {x : Task} (h : s.tasks .loop = x :: rest) : s.hasStopped = false := by
  rw [Bool.eq_false_iff]
  intro hstop
  rw [hasStopped_iff, h] at hstop
  cases hstop

theorem Turn.tasks_loop (h : Turn s s' t popped pushed rest events) (ht : t ≠ .loop) :
    s'.tasks .loop = s.tasks .loop := by
  rcases h.others .loop (Ne.symm ht) with hsame | ⟨-, hne, -⟩
  · exact hsame
  · exact absurd rfl hne

theorem Turn.stopped (h : Turn s s' t popped pushed rest events) (hs : s.hasStopped = true) :
    s'.hasStopped = true := by
  rw [hasStopped_iff] at hs ⊢
  by_cases ht : t = .loop
  · subst ht
    rw [h.before, List.append_eq_nil_iff] at hs
    obtain ⟨rfl, rfl⟩ := hs
    rw [h.after]
    cases h.effect with
    | call _ hfree =>
      rcases hfree with rfl | ⟨-, hne⟩ | ⟨n, name, actions, more, hbody⟩
      · rfl
      · exact absurd rfl hne
      · cases hbody
  · rw [h.tasks_loop ht]
    exact hs

theorem Leads.stopped {name : String} (hr : Reachable name s) (hs : s.hasStopped = true)
    (hl : s.Leads s') : s'.hasStopped = true := by
  apply Leads.induct (P := fun m => m.hasStopped = true) hr hs ?_ hl
  intro a b _ ha hm
  obtain ⟨t, popped, pushed, rest, events, h⟩ := hm.turn
  exact h.stopped ha

theorem Turn.running (h : Turn s s' t popped pushed rest events) (hs : Shaped s)
    (hp : popped ≠ [.receive]) (hrun : s.hasStopped = false) :
    (s.setTasks t rest).hasStopped = false ∧ s'.hasStopped = false := by
  have hne : s.tasks .loop ≠ [] := fun hnil => by
    rw [hasStopped_iff.mpr hnil] at hrun
    cases hrun
  have hstill {m : Bridge} (hm : m.tasks .loop ≠ []) : m.hasStopped = false := by
    rw [Bool.eq_false_iff]
    exact fun hstop => hm (hasStopped_iff.mp hstop)
  by_cases ht : t = .loop
  · subst ht
    have hloop := hs.loop
    rw [h.before] at hloop
    have hrest : rest ≠ [] := by
      rcases h.effect.popped_cases with rfl | ⟨x, rfl⟩
      · rwa [h.before] at hne
      · rcases LoopStack.cons_cases hloop with ⟨-, work, rfl, -⟩ | ⟨_, _, _, -, rfl⟩ | ⟨rfl, -⟩
        · simp
        · simp
        · exact absurd rfl hp
    refine ⟨hstill hrest, hstill ?_⟩
    rw [h.after]
    exact fun hnil => hrest (List.append_eq_nil_iff.mp hnil).2
  · refine ⟨hstill ?_, hstill ?_⟩
    · rwa [tasks_setTasks_ne (Ne.symm ht)]
    · rwa [h.tasks_loop ht]

end Bridge
end HostBridge
