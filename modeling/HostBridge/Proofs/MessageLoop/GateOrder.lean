import HostBridge.Proofs.MessageLoop.Quitting

/-!
# The order of gate sections

What becomes of a callback under the gate depends on one thing: whether the first quit had
its turn under the gate before.
-/
namespace HostBridge
namespace Bridge

variable {name : String} {s s' : Bridge} {t : ThreadId} {popped pushed rest : List Task}
  {events : List Event}

/-- Nothing is accepted after the quit marker, and nothing refused before it. -/
def GateGuard (before : List (ThreadId × Event)) (entry : ThreadId × Event) : Prop :=
  (∀ callback result, entry.2 = .accepted callback result → ∀ x ∈ before, x.2.isMark = false) ∧
  (∀ callback, entry.2 = .refused callback → ∃ u, (u, .quitQueued) ∈ before)

theorem Quitting.not_isMark (hs : Quitting s) (hq : s.quitting = false) :
    ∀ x ∈ s.trace, x.2.isMark = false := by
  have hmarks := hs.marks
  rw [hq, Bridge.marks, if_neg (by simp), List.countP_eq_zero] at hmarks
  simpa using hmarks

theorem Quitting.quitQueued_mem (hs : Quitting s) (hq : s.quitting = true) :
    ∃ u, (u, .quitQueued) ∈ s.trace := by
  have hmarks := hs.marks
  rw [hq, if_pos rfl, Bridge.marks] at hmarks
  obtain ⟨⟨u, e⟩, hm, he⟩ := List.countP_pos_iff.mp (by rw [hmarks]; exact Nat.one_pos)
  cases e <;> first | exact ⟨u, hm⟩ | cases he

theorem turn_post {request : Request} {callback : Callback} {delay : Nat} {result : Int32}
    (hr : Reachable name s)
    (h : Turn s s' t [.decide (.post request callback delay result)] pushed rest events) :
    events = [if s.quitting = true then .refused callback else .accepted callback result] := by
  cases h.effect with
  | ordinary hq => cases hq
  | accept hquit => rw [hquit]; rfl
  | refuse hwhy =>
    have hquit : s.quitting = true := by
      by_contra hne
      have hquit : s.quitting = false := by simpa using hne
      rcases hwhy with hwhy | hgone
      · exact hne hwhy
      · cases hgone.symm.trans (hr.quitting.present hr.shaped h hquit)
    rw [hquit]
    rfl

theorem turn_quit (hr : Reachable name s)
    (h : Turn s s' t [.decide .quit] pushed rest events) :
    events = if s.quitting = true then [] else [.quitQueued] := by
  cases h.effect with
  | ordinary hq => cases hq
  | quit hquit => rw [hquit]; rfl
  | quitLost hquit hgone => cases hgone.symm.trans (hr.quitting.present hr.shaped h hquit)
  | quitAgain hquit => rw [hquit]; rfl

theorem Reachable.guarded_gate {P : List (ThreadId × Event) → ThreadId × Event → Prop}
    (hr : Reachable name s)
    (hpost : ∀ m u request callback delay result, Reachable name m →
      .decide (.post request callback delay result) ∈ m.tasks u →
        P m.trace (u, if m.quitting = true then .refused callback else .accepted callback result))
    (hother : ∀ before u e, (∀ callback result, e ≠ .accepted callback result) →
      (∀ callback, e ≠ .refused callback) → P before (u, e)) : Guarded P s.trace := by
  apply hr.induct (P := fun m => Guarded P m.trace)
  · exact guarded_nil
  · intro m m' hprior hm hmove
    obtain ⟨t, popped, pushed, rest, events, h⟩ := hmove.turn
    rw [h.trace, guarded_append]
    refine ⟨hm, ?_⟩
    by_cases hp : ∃ request callback delay result,
        popped = [.decide (.post request callback delay result)]
    · obtain ⟨request, callback, delay, result, rfl⟩ := hp
      rw [turn_post hprior h, List.map_singleton, guarded_singleton, List.append_nil]
      exact hpost m t request callback delay result hprior (h.mem_popped (by simp))
    · apply Guarded.of_forall
      intro before entry hentry
      obtain ⟨e, he, rfl⟩ := List.mem_map.mp hentry
      apply hother
      · intro callback result hdecided
        obtain ⟨request, delay, hpopped⟩ := h.effect.noted (hdecided ▸ he)
        exact hp ⟨request, callback, delay, result, hpopped⟩
      · intro callback hdecided
        obtain ⟨request, delay, result, hpopped⟩ := h.effect.noted (hdecided ▸ he)
        exact hp ⟨request, callback, delay, result, hpopped⟩

theorem Reachable.gate_order (hr : Reachable name s) : Guarded GateGuard s.trace := by
  apply hr.guarded_gate (P := GateGuard)
  · intro m u request callback delay result hm _
    cases hq : m.quitting with
    | true => exact ⟨by simp, fun _ _ => hm.quitting.quitQueued_mem hq⟩
    | false => exact ⟨fun _ _ _ => hm.quitting.not_isMark hq, by simp⟩
  · intro before u e ha hf
    exact ⟨fun callback result he => absurd he (ha callback result),
      fun callback he => absurd he (hf callback)⟩

theorem step?_decide {errand : Errand} (hb : s.tasks t = .decide errand :: rest) :
    ∃ s' pushed events, s.step? t = some s' ∧ Turn s s' t [.decide errand] pushed rest events := by
  have hs : s.step? t = some ((s.setTasks t rest).decide t errand) := step?_eq hb
  obtain ⟨pushed, events, h⟩ := turn_step? hb hs
  exact ⟨_, pushed, events, hs, h⟩

/-- What the quit flag, the quit marker, the gate and the end of the loop thread have to do with
each other. The flag stays up and goes with one marker, the last item of the queue. Posts are
accepted before it and refused after it. As long as the flag is down the loop thread is there to be
found, and it never finds the queue empty with nobody left to fill it. -/
structure QuitLaw (s : Bridge) : Prop where
  final : ∀ s', s.Leads s' → s.quitting = true → s'.quitting = true
  marks : s.marks = if s.quitting = true then 1 else 0
  last : ∀ before after, s.queue = before ++ .quit :: after → after = []
  offer : ∀ t order callback rest, s.tasks t = .offer order callback :: rest →
    order.request = .post → callback.isBlocking = false → ∃ s', s.step? t = some s' ∧
      s'.tasks t = .enter (.post .post callback order.delay order.result) :: rest
  post : ∀ t request callback delay result rest,
    s.tasks t = .decide (.post request callback delay result) :: rest →
      ∃ s', s.step? t = some s' ∧ s'.trace = s.trace ++
        [(t, if s.marks = 0 then .accepted callback result else .refused callback)]
  quit : ∀ t rest, s.tasks t = .decide .quit :: rest →
    ∃ s', s.step? t = some s' ∧ s'.quitting = true ∧
      s'.trace = s.trace ++ if s.marks = 0 then [(t, .quitQueued)] else []
  order : ∀ before t e after, s.trace = before ++ (t, e) :: after →
    (∀ callback result, e = .accepted callback result → ∀ u, (u, .quitQueued) ∉ before) ∧
    (∀ callback, e = .refused callback → ∃ u, (u, .quitQueued) ∈ before)
  running : s.quitting = false → s.hasStopped = false
  present : ∀ t request callback delay result rest,
    s.tasks t = .decide (.post request callback delay result) :: rest → s.quitting = false →
      (s.setTasks t rest).hasStopped = false
  connected : ∀ rest, s.tasks .loop = .receive :: rest → s.queue = [] → s.isDisconnected = false

theorem quit_closes_gate (hr : Reachable name s) : QuitLaw s where
  final s' hl hq := Leads.quitting hr hl hq
  marks := hr.quitting.marks
  last := by
    intro before after hqueue
    have hmark := hr.quitting.marked_of_mem (by simp [hqueue])
    rw [hqueue] at hmark
    exact hmark.last
  offer := by
    intro t order callback rest hb hrequest hblocking
    have ht : t ∈ (s.setTasks t rest).threads := mem_threads_setTasks hb
    have hoffer : (s.setTasks t rest).offer t order callback = (s.setTasks t rest).push t
        [.enter (.post .post callback order.delay order.result)] := by
      simp [Bridge.offer, hrequest, hblocking]
    refine ⟨_, (step?_eq hb).trans (congrArg some hoffer), ?_⟩
    rw [(frame_push _ ht).own, tasks_setTasks_of_cons hb]
    rfl
  post := by
    intro t request callback delay result rest hb
    obtain ⟨s', pushed, events, hstep, h⟩ := step?_decide hb
    refine ⟨s', hstep, ?_⟩
    rw [h.trace, turn_post hr h, hr.quitting.marks]
    cases s.quitting <;> rfl
  quit := by
    intro t rest hb
    obtain ⟨s', pushed, events, hstep, h⟩ := step?_decide hb
    refine ⟨s', hstep, h.effect.decided_quit (by simp), ?_⟩
    rw [h.trace, turn_quit hr h, hr.quitting.marks]
    cases s.quitting <;> rfl
  order := by
    intro before t e after htrace
    obtain ⟨haccept, hrefuse⟩ := hr.gate_order before (t, e) after htrace
    refine ⟨fun callback result he u hu => ?_, hrefuse⟩
    cases haccept callback result he _ hu
  running hq := (hr.quitting.early hq).1
  present := by
    intro t request callback delay result rest hb hq
    obtain ⟨s', pushed, events, -, h⟩ := step?_decide hb
    exact hr.quitting.present hr.shaped h hq
  connected := by
    intro rest hb hqueue
    exact hr.quitting.connected (hasStopped_of_cons hb) hqueue

/-- The quit of another thread comes between two posts of a body. The first is let in, and the second
is turned away, as is a post of the main thread. -/
theorem quit_closes_gate_inside_body : ∃ s, Reachable "loop" s ∧ s.marks = 1 ∧
    s.hasStopped = false ∧
    s.trace.filterMap (fun | (t, .accepted callback _) => some (t, callback.serial) | _ => none) =
      [(.main, 0), (.loop, 1)] ∧
    s.trace.filterMap (fun | (t, .refused callback) => some (t, callback.serial) | _ => none) =
      [(.loop, 2), (.main, 3)] ∧
    s.queue.map (fun | .run callback .. => some callback.serial | .quit => none) = [some 1, none] ∧
    QuitLaw s := by
  have hfirst := (Reachable.start "loop").act .main
    (.post ⟨.post, .poster, 5, 7⟩ false
      (.closure .always "first" [.post ⟨.post, .poster, 0, 8⟩ false (.native 4),
        .post ⟨.complete, .poster, 0, 6⟩ false (.native 5)]))
    (List.replicate 6 .main ++ List.replicate 10 .loop) (by decide) (by decide) (by decide)
  have hquit := (hfirst.move (.enlist _)).act (.helper 0) (.quit .poster)
    (List.replicate 5 (.helper 0) ++ List.replicate 13 .loop) (by decide +kernel) (by decide)
    (by decide +kernel)
  have hpost := hquit.act .main (.post ⟨.post, .poster, 1, 2⟩ false (.native 9))
    (List.replicate 9 .main) (by decide +kernel) (by decide) (by decide +kernel)
  have hagain := hpost.act .main (.quit .loop) (List.replicate 5 .main) (by decide +kernel)
    (by decide) (by decide +kernel)
  exact ⟨_, hagain, by decide +kernel, by decide +kernel, by decide +kernel, by decide +kernel,
    by decide +kernel, quit_closes_gate hagain⟩

end Bridge
end HostBridge
