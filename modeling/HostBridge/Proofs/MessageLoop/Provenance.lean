import HostBridge.Proofs.MessageLoop.Shape

/-!
# Where tasks come from

Whatever waits at the gate or in the queue is not the sentinel, and who goes through the
body of a closure has called its callback.
-/
namespace HostBridge

theorem Callback.isBlocking_of_answeredAtOnce {callback : Callback} {request : Request}
    {result : Int32} (h : callback.answeredAtOnce request result = none) :
    callback.isBlocking = false := by
  rw [Bool.eq_false_iff]
  intro hb
  cases request <;> simp [answeredAtOnce, hb] at h

namespace Bridge

def Justified (s : Bridge) (u : ThreadId) : Task → Prop
  | .enter (.post request callback _ result) | .decide (.post request callback _ result) =>
    callback.answeredAtOnce request result = none
  | .dispatch callback _ _ => callback.isBlocking = false
  | .body serial _ _ => ∃ callback result,
    (u, .invoked callback result) ∈ s.trace ∧ callback.serial = serial
  | _ => True

structure Provenance (s : Bridge) : Prop where
  tasks : ∀ u, ∀ x ∈ s.tasks u, s.Justified u x
  queue : ∀ callback delay result, .run callback delay result ∈ s.queue →
    callback.isBlocking = false

variable {s s' : Bridge} {t : ThreadId} {popped pushed rest : List Task} {events : List Event}

theorem justified_of_isOpening {u : ThreadId} {x : Task} (h : x.isOpening = true) :
    s.Justified u x := by
  cases x with
  | enter errand =>
    cases errand with
    | post => cases h
    | quit => trivial
  | _ => trivial

theorem Turn.justified (h : Turn s s' t popped pushed rest events) {u : ThreadId} {x : Task}
    (hx : s.Justified u x) : s'.Justified u x := by
  cases x with
  | body serial name actions =>
    obtain ⟨callback, result, hm, hs⟩ := hx
    exact ⟨callback, result, h.mem_trace hm, hs⟩
  | enter errand => cases errand <;> exact hx
  | decide errand => cases errand <;> exact hx
  | _ => exact hx

theorem Provenance.justified_pushed (hs : Provenance s)
    (h : Turn s s' t popped pushed rest events) : ∀ x ∈ pushed, s'.Justified t x := by
  have hpopped : ∀ x ∈ popped, s.Justified t x := fun x hx => hs.tasks t x (h.mem_popped hx)
  have hnoted {e : Event} (he : e ∈ events) : (t, e) ∈ s'.trace :=
    h.mem_trace_iff.mpr (.inr ⟨rfl, he⟩)
  cases h.effect with
  | call ho => exact fun x hx => justified_of_isOpening (ho x hx)
  | @ordinary task _ _ _ ho hbody =>
    intro x hx
    cases x with
    | body serial name actions =>
      obtain ⟨name', actions', htask⟩ := hbody serial name actions hx
      have hold := hpopped task (by simp)
      rw [htask] at hold
      obtain ⟨callback, result, hm, hserial⟩ := hold
      exact ⟨callback, result, h.mem_trace hm, hserial⟩
    | enter errand =>
      cases errand with
      | post => cases ho _ hx
      | quit => trivial
    | decide errand => cases ho _ hx
    | dispatch => cases ho _ hx
    | _ => trivial
  | shutDown ht => rcases ht with rfl | rfl <;> simp [joinTasks, dropTasks, Justified]
  | @invoke callback result _ _ _ hpush =>
    rcases hpush with rfl | ⟨name, actions, rfl⟩
    · simp
    · intro x hx
      rw [List.mem_singleton.mp hx]
      exact ⟨callback, result, hnoted (by simp), rfl⟩
  | ask hnone => simpa [Justified] using hnone
  | @enter errand =>
    have hold := hpopped (.enter errand) (by simp)
    cases errand with
    | post => simpa [Justified] using hold
    | quit => simp [Justified]
  | @take callback delay result queue hqueue =>
    have hold := hs.queue callback delay result (by simp [hqueue])
    simpa [Justified] using hold
  | _ => simp [Justified]

theorem Provenance.queue_turn (hs : Provenance s) (h : Turn s s' t popped pushed rest events)
    (callback : Callback) (delay : Nat) (result : Int32)
    (hm : .run callback delay result ∈ s'.queue) : callback.isBlocking = false := by
  have hsame (hqueue : s'.queue = s.queue) : callback.isBlocking = false :=
    hs.queue callback delay result (hqueue ▸ hm)
  cases h.effect with
  | @accept request callback' delay' result' _ _ hcore =>
    have hqueue : s'.queue = s.queue ++ [.run callback' delay' result'] :=
      congrArg Core.queue hcore
    rw [hqueue] at hm
    rcases List.mem_append.mp hm with hm | hm
    · exact hs.queue callback delay result hm
    · cases List.mem_singleton.mp hm
      have hold := hs.tasks t _ (h.mem_popped (List.mem_singleton.mpr rfl))
      exact Callback.isBlocking_of_answeredAtOnce hold
  | quit _ _ hcore =>
    have hqueue : s'.queue = s.queue ++ [.quit] := congrArg Core.queue hcore
    rw [hqueue] at hm
    rcases List.mem_append.mp hm with hm | hm
    · exact hs.queue callback delay result hm
    · cases List.mem_singleton.mp hm
  | @take callback' delay' result' queue hold hcore =>
    have hqueue : s'.queue = queue := congrArg Core.queue hcore
    rw [hqueue] at hm
    exact hs.queue callback delay result (by rw [hold]; exact List.mem_cons_of_mem _ hm)
  | @stop queue hold hcore =>
    have hqueue : s'.queue = queue := congrArg Core.queue hcore
    rw [hqueue] at hm
    exact hs.queue callback delay result (by rw [hold]; exact List.mem_cons_of_mem _ hm)
  | _ =>
    have hcore := ‹s'.core = _›
    exact hsame (congrArg Core.queue hcore)

theorem Reachable.provenance {name : String} (hr : Reachable name s) : Provenance s := by
  apply hr.induct
  · constructor
    · intro u x hx
      rw [(mem_tasks_start hx).2]
      trivial
    · intro callback delay result hm
      cases hm
  · intro s s' hprior hs hm
    obtain ⟨t, popped, pushed, rest, events, h⟩ := hm.turn
    exact ⟨h.forall_tasks hprior.shaped hs.tasks (hs.justified_pushed h) (fun u x => h.justified)
      (fun u x => justified_of_isOpening), hs.queue_turn h⟩

end Bridge
end HostBridge
