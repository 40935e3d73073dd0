import HostBridge.Proofs.MessageLoop.Effect

/-!
# Guards

A guard says what has to stand in front of a task on its stack, or to come before an event
in the trace. Guards live on the order of things, which a turn changes at one end only.
-/
namespace HostBridge

def Guarded {α : Type} (P : List α → α → Prop) (l : List α) : Prop :=
  ∀ before a after, l = before ++ a :: after → P before a

section lists
variable {α : Type} {P Q : List α → α → Prop}

theorem guarded_nil : Guarded P [] := by
  intro before a after h
  simp at h

theorem guarded_cons {a : α} {l : List α} :
    Guarded P (a :: l) ↔ P [] a ∧ Guarded (fun before => P (a :: before)) l := by
  constructor
  · intro h
    refine ⟨h [] a l rfl, ?_⟩
    intro before b after hl
    exact h (a :: before) b after (by rw [hl]; rfl)
  · intro ⟨ha, hl⟩ before b after h
    cases before with
    | nil =>
      cases h
      exact ha
    | cons c before =>
      cases h
      exact hl before b after rfl

theorem guarded_append {l m : List α} :
    Guarded P (l ++ m) ↔ Guarded P l ∧ Guarded (fun before => P (l ++ before)) m := by
  induction l generalizing P with
  | nil => simp [guarded_nil]
  | cons a l ih => simp only [List.cons_append, guarded_cons, ih, and_assoc]

theorem guarded_singleton {a : α} : Guarded P [a] ↔ P [] a := by
  simp [guarded_cons, guarded_nil]

theorem Guarded.mono {l : List α} (h : Guarded P l)
    (himp : ∀ before a, a ∈ l → P before a → Q before a) : Guarded Q l := by
  intro before a after hl
  exact himp before a (by simp [hl]) (h before a after hl)

theorem Guarded.of_forall {l : List α} (h : ∀ before, ∀ a ∈ l, P before a) : Guarded P l := by
  intro before a after hl
  exact h before a (by simp [hl])

theorem Guarded.of_mem {l : List α} {a : α} (h : Guarded P l) (ha : a ∈ l) :
    ∃ before after, l = before ++ a :: after ∧ P before a := by
  obtain ⟨before, after, hl⟩ := List.append_of_mem ha
  exact ⟨before, after, hl, h before a after hl⟩

end lists

/-- What a thread did when it noted an event. -/
def Event.Marks (popped : List Task) : Event → Prop
  | .accepted callback result =>
    ∃ request delay, popped = [.decide (.post request callback delay result)]
  | .refused callback =>
    ∃ request delay result, popped = [.decide (.post request callback delay result)]
  | .waived callback => ∃ order, popped = [.offer order callback]
  | .quitQueued => popped = [.decide .quit]
  | .dispatched callback result => ∃ delay, popped = [.dispatch callback delay result]
  | .aborted callback => popped = [.abort callback]
  | .invoked callback result => popped = [.invoke callback result]
  | .answered request callback result code => popped = [.answer request callback result code]
  | .discarded => popped = [.discardLoop]
  | _ => True

theorem Event.marks_of_isPlain {e : Event} (h : e.isPlain = true) (popped : List Task) :
    e.Marks popped := by
  cases e <;> trivial

namespace Bridge

variable {s s' : Bridge} {t : ThreadId} {popped pushed rest : List Task} {events : List Event}

theorem Effect.noted (h : Effect s t rest s' popped pushed events) {e : Event}
    (he : e ∈ events) : e.Marks popped := by
  cases h with
  | ordinary _ _ _ hplain => exact Event.marks_of_isPlain (hplain e he) _
  | invoke _ _ hplain =>
    rcases List.mem_cons.mp he with rfl | he
    · rfl
    · exact Event.marks_of_isPlain (hplain e he) _
  | waive _ hplain =>
    rcases List.mem_append.mp he with he | he
    · exact Event.marks_of_isPlain (hplain e he) _
    · rw [List.mem_singleton.mp he]
      exact ⟨_, rfl⟩
  | abort =>
    simp only [List.mem_cons, List.not_mem_nil, or_false] at he
    rcases he with rfl | rfl
    · rfl
    · trivial
  | _ => simp_all [Event.Marks]

theorem Turn.mem_trace (h : Turn s s' t popped pushed rest events) {entry : ThreadId × Event}
    (he : entry ∈ s.trace) : entry ∈ s'.trace := by
  rw [h.trace]
  exact List.mem_append_left _ he

theorem Turn.mem_trace_iff (h : Turn s s' t popped pushed rest events) {u : ThreadId}
    {e : Event} : (u, e) ∈ s'.trace ↔ (u, e) ∈ s.trace ∨ u = t ∧ e ∈ events := by
  rw [h.trace, List.mem_append, List.mem_map]
  constructor
  · intro he
    rcases he with he | ⟨e', he, heq⟩
    · exact .inl he
    · cases heq
      exact .inr ⟨rfl, he⟩
  · intro he
    rcases he with he | ⟨rfl, he⟩
    · exact .inl he
    · exact .inr ⟨e, he, rfl⟩

theorem Leads.trace (h : s.Leads s') : ∃ later, s'.trace = s.trace ++ later := by
  unfold Leads at h
  induction h with
  | refl => exact ⟨[], (List.append_nil _).symm⟩
  | tail _ m ih =>
    obtain ⟨later, htrace⟩ := ih
    obtain ⟨t, popped, pushed, rest, events, h⟩ := m.turn
    exact ⟨later ++ events.map (t, ·), by rw [h.trace, htrace, List.append_assoc]⟩

end Bridge
end HostBridge
