import HostBridge.Proofs.MessageLoop.Provenance

/-!
# What an answer stands for

An answer is on the stack from the moment that it is known what becomes of the callback. In
front of it stands what has still to be done before the request returns; so when it is the
first task, all that is done.
-/
namespace HostBridge
namespace Bridge

/-- How far the abortion of a callback is that a thread was refused: it is to be aborted, it
is to be called, or it has been called. -/
inductive Aborting (trace : List (ThreadId × Event)) (t : ThreadId) (before : List Task)
    (callback : Callback) : Prop
  | pending : .abort callback ∈ before → Aborting trace t before callback
  | calling : (t, .aborted callback) ∈ trace →
      .invoke callback NamedCode.aborted.number ∈ before → Aborting trace t before callback
  | called : (t, .aborted callback) ∈ trace →
      (t, .invoked callback NamedCode.aborted.number) ∈ trace → Aborting trace t before callback

/-- Why a thread is answered with a code, and what comes before that. -/
inductive Explained (trace : List (ThreadId × Event)) (t : ThreadId) (before : List Task)
    (request : Request) (callback : Callback) (result : Int32) : Code → Prop
  | waived {code : Code} : callback.answeredAtOnce request result = some code →
      (t, .waived callback) ∈ trace → Explained trace t before request callback result code
  | queued : callback.answeredAtOnce request result = none →
      (t, .accepted callback result) ∈ trace →
      Explained trace t before request callback result (acceptance request)
  | rejected : callback.answeredAtOnce request result = none → (t, .refused callback) ∈ trace →
      Aborting trace t before callback →
      Explained trace t before request callback result (.named .failed)

def AnswerGuard (s : Bridge) (u : ThreadId) (before : List Task) (x : Task) : Prop :=
  ∀ request callback result code, x = .answer request callback result code →
    Explained s.trace u before request callback result code

theorem answerGuard_answer {s : Bridge} {u : ThreadId} {before : List Task} {request : Request}
    {callback : Callback} {result : Int32} {code : Code}
    (h : Explained s.trace u before request callback result code) :
    AnswerGuard s u before (.answer request callback result code) := by
  intro _ _ _ _ he
  cases he
  exact h

theorem answerGuard_of_ne {s : Bridge} {u : ThreadId} {before : List Task} {x : Task}
    (h : ∀ request callback result code, x ≠ .answer request callback result code) :
    AnswerGuard s u before x :=
  fun request callback result code he => absurd he (h request callback result code)

inductive Settled (trace : List (ThreadId × Event)) (t : ThreadId) (request : Request)
    (callback : Callback) (result : Int32) : Code → Prop
  | waived {code : Code} : callback.answeredAtOnce request result = some code →
      (t, .waived callback) ∈ trace → Settled trace t request callback result code
  | queued : callback.answeredAtOnce request result = none →
      (t, .accepted callback result) ∈ trace →
      Settled trace t request callback result (acceptance request)
  | rejected : callback.answeredAtOnce request result = none → (t, .refused callback) ∈ trace →
      (t, .aborted callback) ∈ trace →
      (t, .invoked callback NamedCode.aborted.number) ∈ trace →
      Settled trace t request callback result (.named .failed)

theorem Explained.settled {trace : List (ThreadId × Event)} {t : ThreadId} {request : Request}
    {callback : Callback} {result : Int32} {code : Code}
    (h : Explained trace t [] request callback result code) :
    Settled trace t request callback result code := by
  cases h with
  | waived hnow hw => exact .waived hnow hw
  | queued hlater ha => exact .queued hlater ha
  | rejected hlater hr hab =>
    cases hab with
    | pending hm => cases hm
    | calling _ hm => cases hm
    | called hnoted hrun => exact .rejected hlater hr hnoted hrun

theorem Settled.mono {trace trace' : List (ThreadId × Event)} {t : ThreadId} {request : Request}
    {callback : Callback} {result : Int32} {code : Code}
    (h : Settled trace t request callback result code)
    (hsub : ∀ entry ∈ trace, entry ∈ trace') : Settled trace' t request callback result code := by
  cases h with
  | waived hnow hw => exact .waived hnow (hsub _ hw)
  | queued hlater ha => exact .queued hlater (hsub _ ha)
  | rejected hlater hr hnoted hrun =>
    exact .rejected hlater (hsub _ hr) (hsub _ hnoted) (hsub _ hrun)

def AnsweredGuard (before : List (ThreadId × Event)) (entry : ThreadId × Event) : Prop :=
  ∀ request callback result code, entry.2 = .answered request callback result code →
    Settled before entry.1 request callback result code

variable {s s' : Bridge} {t : ThreadId} {popped pushed rest : List Task} {events : List Event}

theorem Explained.mono {u : ThreadId} {before before' : List Task} {request : Request}
    {callback : Callback} {result : Int32} {code : Code}
    (h : Explained s.trace u before request callback result code)
    (htrace : ∀ entry ∈ s.trace, entry ∈ s'.trace)
    (habort : callback.isBlocking = false → .abort callback ∈ before →
      Aborting s'.trace u before' callback)
    (hcall : callback.isBlocking = false → (u, .aborted callback) ∈ s'.trace →
      .invoke callback NamedCode.aborted.number ∈ before → Aborting s'.trace u before' callback) :
    Explained s'.trace u before' request callback result code := by
  cases h with
  | waived hnow hw => exact .waived hnow (htrace _ hw)
  | queued hlater ha => exact .queued hlater (htrace _ ha)
  | rejected hlater hr hab =>
    refine .rejected hlater (htrace _ hr) ?_
    have hb := Callback.isBlocking_of_answeredAtOnce hlater
    cases hab with
    | pending hm => exact habort hb hm
    | calling hnoted hm => exact hcall hb (htrace _ hnoted) hm
    | called hnoted hrun => exact .called (htrace _ hnoted) (htrace _ hrun)

theorem Turn.aborting_of_abort (h : Turn s s' t popped pushed rest events) {callback : Callback}
    {before : List Task} (hb : callback.isBlocking = false)
    (hm : .abort callback ∈ popped ++ before) :
    Aborting s'.trace t (pushed ++ before) callback := by
  rcases List.mem_append.mp hm with hm | hm
  · cases h.effect with
    | call => cases hm
    | ordinary hq =>
      rw [← List.mem_singleton.mp hm] at hq
      exact absurd (hq.symm.trans hb) (by simp)
    | abort =>
      cases List.mem_singleton.mp hm
      exact .calling (h.mem_trace_iff.mpr (.inr ⟨rfl, by simp⟩)) (by simp)
    | _ => cases List.mem_singleton.mp hm
  · exact .pending (List.mem_append_right _ hm)

theorem Turn.aborting_of_invoke (h : Turn s s' t popped pushed rest events) {callback : Callback}
    {before : List Task} (hb : callback.isBlocking = false)
    (hnoted : (t, .aborted callback) ∈ s'.trace)
    (hm : .invoke callback NamedCode.aborted.number ∈ popped ++ before) :
    Aborting s'.trace t (pushed ++ before) callback := by
  rcases List.mem_append.mp hm with hm | hm
  · cases h.effect with
    | call => cases hm
    | ordinary hq =>
      rw [← List.mem_singleton.mp hm] at hq
      exact absurd (hq.symm.trans hb) (by simp)
    | invoke =>
      cases List.mem_singleton.mp hm
      exact .called hnoted (h.mem_trace_iff.mpr (.inr ⟨rfl, by simp⟩))
    | _ => cases List.mem_singleton.mp hm
  · exact .calling hnoted (List.mem_append_right _ hm)

theorem Turn.answer_pushed (h : Turn s s' t popped pushed rest events)
    (hs : Provenance s) : Guarded (AnswerGuard s' t) pushed := by
  have hnoted {e : Event} (he : e ∈ events) : (t, e) ∈ s'.trace :=
    h.mem_trace_iff.mpr (.inr ⟨rfl, he⟩)
  have hnone (hno : ∀ request callback result code,
      .answer request callback result code ∉ pushed) : Guarded (AnswerGuard s' t) pushed := by
    apply Guarded.of_forall
    intro before x hx
    apply answerGuard_of_ne
    intro request callback result code he
    exact hno request callback result code (he ▸ hx)
  have hpopped : ∀ x ∈ popped, s.Justified t x := fun x hx => hs.tasks t x (h.mem_popped hx)
  cases h.effect with
  | call ho => exact hnone fun _ _ _ _ hx => by cases ho _ hx
  | ordinary _ ho => exact hnone fun _ _ _ _ hx => by cases ho _ hx
  | shutDown ht => exact hnone (by rcases ht with rfl | rfl <;> simp [joinTasks, dropTasks])
  | invoke _ hpush => exact hnone (by rcases hpush with rfl | ⟨_, _, rfl⟩ <;> simp)
  | waive hnow =>
    rw [guarded_singleton]
    exact answerGuard_answer (.waived hnow (hnoted (by simp)))
  | accept =>
    have hlater := hpopped _ (List.mem_singleton.mpr rfl)
    simp only [guarded_cons, guarded_nil, and_true]
    exact ⟨answerGuard_of_ne (by simp), answerGuard_answer (.queued hlater (hnoted (by simp)))⟩
  | refuse =>
    have hlater := hpopped _ (List.mem_singleton.mpr rfl)
    simp only [guarded_cons, guarded_nil, and_true]
    exact ⟨answerGuard_of_ne (by simp), answerGuard_of_ne (by simp), answerGuard_of_ne (by simp),
      answerGuard_answer (.rejected hlater (hnoted (by simp)) (.pending (by simp)))⟩
  | _ => exact hnone (by simp)

theorem Reachable.answers {name : String} (hr : Reachable name s) :
    ∀ u, Guarded (AnswerGuard s u) (s.tasks u) := by
  apply hr.induct (P := fun m => ∀ u, Guarded (AnswerGuard m u) (m.tasks u))
  · intro u
    apply Guarded.of_forall
    intro before x hx
    rw [(mem_tasks_start hx).2]
    exact answerGuard_of_ne (by simp)
  · intro s s' hprior hs hm
    obtain ⟨t, popped, pushed, rest, events, h⟩ := hm.turn
    apply h.guarded (Q := AnswerGuard s') hprior.shaped hs (h.answer_pushed hprior.provenance)
    · intro before x _ hold request callback result code hx
      exact (hold request callback result code hx).mono (fun _ => h.mem_trace)
        h.aborting_of_abort h.aborting_of_invoke
    · intro u before x _ hold request callback result code hx
      exact (hold request callback result code hx).mono (fun _ => h.mem_trace)
        (fun _ => .pending) (fun _ => .calling)
    · intro u before x hopen
      apply answerGuard_of_ne
      intro request callback result code he
      rw [he] at hopen
      cases hopen

theorem Reachable.settled_before {name : String} (hr : Reachable name s) :
    Guarded AnsweredGuard s.trace := by
  apply hr.induct
  · exact guarded_nil
  · intro s s' hprior hs hm
    obtain ⟨t, popped, pushed, rest, events, h⟩ := hm.turn
    rw [h.trace, guarded_append]
    refine ⟨hs, ?_⟩
    by_cases hp : ∃ request callback result code,
        popped = [.answer request callback result code]
    · obtain ⟨request, callback, result, code, rfl⟩ := hp
      have hevents : events = [.answered request callback result code] := by
        cases h.effect with
        | ordinary hq => cases hq
        | answer => rfl
      have hguard := hprior.answers t [] (.answer request callback result code) rest h.before
      rw [hevents, List.map_singleton, guarded_singleton, List.append_nil]
      intro _ _ _ _ he
      cases he
      exact (hguard _ _ _ _ rfl).settled
    · apply Guarded.of_forall
      intro before entry hentry
      obtain ⟨e, he, rfl⟩ := List.mem_map.mp hentry
      intro request callback result code hanswered
      rw [show e = .answered request callback result code from hanswered] at he
      exact absurd ⟨request, callback, result, code, h.effect.noted he⟩ hp

theorem Reachable.settled {name : String} (hr : Reachable name s) {request : Request}
    {callback : Callback} {result : Int32} {code : Code}
    (hm : (t, .answered request callback result code) ∈ s.trace) :
    Settled s.trace t request callback result code := by
  obtain ⟨before, after, htrace, hguard⟩ := hr.settled_before.of_mem hm
  refine (hguard request callback result code rfl).mono fun entry he => ?_
  rw [htrace]
  exact List.mem_append_left _ he

end Bridge
end HostBridge
