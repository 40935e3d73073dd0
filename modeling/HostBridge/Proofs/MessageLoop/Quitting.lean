import HostBridge.Proofs.MessageLoop.Shape
import Mathlib.Tactic.ByContra

/-!
# Quitting

The quit flag, the quit marker in the queue and the end of the loop thread go together. The
marker is queued when the flag goes up, and then the gate lets nothing in behind it; so it
is the last the loop thread takes, and the only thing that ends it.
-/
namespace HostBridge

def Item.isRun : Item → Bool
  | .run .. => true
  | .quit => false

def Event.isMark : Event → Bool
  | .quitQueued => true
  | _ => false

theorem Event.isMark_of_isPlain {e : Event} (h : e.isPlain = true) : e.isMark = false := by
  cases e <;> first | rfl | cases h

def Marked (queue : List Item) : Prop :=
  ∃ runs, queue = runs ++ [.quit] ∧ ∀ item ∈ runs, item.isRun = true

theorem marked_cons {item : Item} {queue : List Item} (h : Marked (item :: queue)) :
    item.isRun = true ∧ Marked queue ∨ item = .quit ∧ queue = [] := by
  obtain ⟨runs, hq, hr⟩ := h
  cases runs with
  | nil =>
    cases hq
    exact .inr ⟨rfl, rfl⟩
  | cons first runs =>
    cases hq
    exact .inl ⟨hr _ (by simp), runs, rfl, fun x hx => hr x (by simp [hx])⟩

theorem not_marked_nil : ¬ Marked [] := by
  intro ⟨runs, hq, _⟩
  simp at hq

theorem Marked.last {before after : List Item} (h : Marked (before ++ .quit :: after)) :
    after = [] := by
  induction before with
  | nil =>
    rcases marked_cons h with ⟨hrun, -⟩ | ⟨-, hnil⟩
    · cases hrun
    · exact hnil
  | cons item before ih =>
    rcases marked_cons h with ⟨-, hm⟩ | ⟨-, hnil⟩
    · exact ih hm
    · simp at hnil

namespace Bridge

def marks (s : Bridge) : Nat := s.trace.countP (·.2.isMark)

/-- Before a thread gives the loop up, the flag is up, and unless it is the loop thread it
has waited for that to stop. -/
def DiscardGuard (s : Bridge) (u : ThreadId) (before : List Task) (x : Task) : Prop :=
  x = .discardLoop →
    (s.quitting = true ∨ .enter .quit ∈ before ∨ .decide .quit ∈ before) ∧
    (u = .loop ∨ s.hasStopped = true ∨ .awaitLoop ∈ before)

/-- Where the quit marker is, and whether the loop thread is there to take it. -/
structure Marking (s : Bridge) : Prop where
  early : s.quitting = false → s.hasStopped = false ∧ ∀ item ∈ s.queue, item.isRun = true
  marked : s.quitting = true → s.hasStopped = false → Marked s.queue
  drained : s.quitting = true → s.hasStopped = true → s.queue = []
  marks : s.marks = if s.quitting = true then 1 else 0

structure Quitting (s : Bridge) : Prop extends Marking s where
  owner : s.owner = .gone → s.quitting = true
  discard : ∀ u, Guarded (DiscardGuard s u) (s.tasks u)
  discarded : ∀ u, (u, .discarded) ∈ s.trace →
    s.quitting = true ∧ (u = .loop ∨ s.hasStopped = true)

variable {s s' : Bridge} {t : ThreadId} {popped pushed rest : List Task} {events : List Event}

theorem Effect.quitting_mono (h : Effect s t rest s' popped pushed events)
    (hq : s.quitting = true) : s'.quitting = true := by
  cases h with
  | quit _ _ hcore => exact congrArg Core.quitting hcore
  | quitLost _ _ hcore => exact congrArg Core.quitting hcore
  | _ =>
    have hcore := ‹s'.core = _›
    exact (congrArg Core.quitting hcore).trans hq

theorem Turn.marks (h : Turn s s' t popped pushed rest events) :
    s'.marks = s.marks + events.countP Event.isMark := by
  rw [Bridge.marks, h.trace, List.countP_append, List.countP_map]
  rfl

theorem countP_isMark_of_isPlain (h : ∀ e ∈ events, e.isPlain = true) :
    events.countP Event.isMark = 0 := by
  rw [List.countP_eq_zero]
  intro e he
  simp [Event.isMark_of_isPlain (h e he)]

theorem Turn.receive (h : Turn s s' t [.receive] pushed rest events) (hs : Shaped s) :
    t = .loop ∧ rest = [] ∧ s.hasStopped = false := by
  have ht : t = .loop := by
    by_contra hne
    cases hs.others t hne .receive (h.mem_popped (by simp))
  subst ht
  have hloop := hs.loop
  rw [h.before] at hloop
  have hrest : rest = [] := by
    rcases LoopStack.cons_cases hloop with ⟨hw, -⟩ | ⟨_, _, _, hd, -⟩ | ⟨-, hrest⟩
    · cases hw
    · cases hd
    · exact hrest
  exact ⟨rfl, hrest, hasStopped_of_cons h.before⟩

theorem Quitting.marked_of_mem (hs : Quitting s) (hm : .quit ∈ s.queue) : Marked s.queue := by
  cases hq : s.quitting with
  | false => cases (hs.early hq).2 .quit hm
  | true =>
    cases hstop : s.hasStopped with
    | false => exact hs.marked hq hstop
    | true =>
      rw [hs.drained hq hstop] at hm
      cases hm

theorem Quitting.connected (hs : Quitting s) (hrun : s.hasStopped = false)
    (hqueue : s.queue = []) : s.isDisconnected = false := by
  rw [Bool.eq_false_iff]
  intro hgone
  have howner : s.owner = .gone := by
    simp only [isDisconnected, Bool.and_eq_true, beq_iff_eq] at hgone
    exact hgone.2
  have hmark := hs.marked (hs.owner howner) hrun
  rw [hqueue] at hmark
  exact not_marked_nil hmark

theorem Quitting.present (hs : Quitting s) (hshape : Shaped s) {errand : Errand}
    (h : Turn s s' t [.decide errand] pushed rest events) (hq : s.quitting = false) :
    (s.setTasks t rest).hasStopped = false :=
  (h.running hshape (by simp) (hs.early hq).1).1

theorem Quitting.keep (hs : Quitting s) (hshape : Shaped s)
    (h : Turn s s' t popped pushed rest events) (hp : popped ≠ [.receive])
    (hqueue : s'.queue = s.queue) (hquit : s'.quitting = s.quitting)
    (hevents : events.countP Event.isMark = 0) :
    Marking s' := by
  have hstop : s'.hasStopped = s.hasStopped := by
    cases hb : s.hasStopped with
    | true => exact h.stopped hb
    | false => exact (h.running hshape hp hb).2
  constructor
  · rw [hqueue, hquit, hstop]
    exact hs.early
  · rw [hqueue, hquit, hstop]
    exact hs.marked
  · rw [hqueue, hquit, hstop]
    exact hs.drained
  · rw [h.marks, hquit, hevents]
    exact hs.marks

theorem Quitting.marking (hs : Quitting s) (hshape : Shaped s)
    (h : Turn s s' t popped pushed rest events) :
    Marking s' := by
  have hmarks := h.marks
  cases h.effect with
  | @accept request callback delay result hquit hrun hcore =>
    have hqueue : s'.queue = s.queue ++ [.run callback delay result] :=
      congrArg Core.queue hcore
    have hquit' : s'.quitting = false := (congrArg Core.quitting hcore).trans hquit
    obtain ⟨hearly, hruns⟩ := hs.early hquit
    refine ⟨fun _ => ⟨(h.running hshape (by simp) hearly).2, ?_⟩, by simp [hquit'],
      by simp [hquit'], ?_⟩
    · intro item hi
      rw [hqueue] at hi
      rcases List.mem_append.mp hi with hi | hi
      · exact hruns item hi
      · rw [List.mem_singleton.mp hi]
        rfl
    · rw [hmarks, hs.marks, hquit, hquit']
      rfl
  | quit hquit hrun hcore =>
    have hqueue : s'.queue = s.queue ++ [.quit] := congrArg Core.queue hcore
    have hquit' : s'.quitting = true := congrArg Core.quitting hcore
    obtain ⟨hearly, hruns⟩ := hs.early hquit
    have hrun' := (h.running hshape (by simp) hearly).2
    refine ⟨by simp [hquit'], fun _ _ => ⟨s.queue, hqueue, hruns⟩, by simp [hrun'], ?_⟩
    rw [hmarks, hs.marks, hquit, hquit']
    rfl
  -- The flag is still down, so the loop thread is there to take the marker.
  | quitLost hquit hgone => cases hgone.symm.trans (hs.present hshape h hquit)
  | @take callback delay result queue hqueue hcore =>
    obtain ⟨rfl, rfl, hrun⟩ := h.receive hshape
    have hqueue' : s'.queue = queue := congrArg Core.queue hcore
    have hquit' : s'.quitting = s.quitting := congrArg Core.quitting hcore
    have hrun' : s'.hasStopped = false := hasStopped_of_cons h.after
    refine ⟨fun hquit => ⟨hrun', fun item hi => ?_⟩, fun hquit _ => ?_, by simp [hrun'], ?_⟩
    · rw [hqueue'] at hi
      exact (hs.early (hquit' ▸ hquit)).2 item (by simp [hqueue, hi])
    · have hmark := hs.marked (hquit' ▸ hquit) hrun
      rw [hqueue] at hmark
      rw [hqueue']
      rcases marked_cons hmark with ⟨-, hm⟩ | ⟨hne, -⟩
      · exact hm
      · cases hne
    · rw [hmarks, hs.marks, hquit']
      rfl
  | @stop queue hqueue hcore =>
    obtain ⟨rfl, rfl, hrun⟩ := h.receive hshape
    have hqueue' : s'.queue = queue := congrArg Core.queue hcore
    have hquit : s.quitting = true := by
      by_contra hne
      have hrun := (hs.early (by simpa using hne)).2 .quit (by simp [hqueue])
      cases hrun
    have hquit' : s'.quitting = true := (congrArg Core.quitting hcore).trans hquit
    have hempty : queue = [] := by
      have hmark := hs.marked hquit hrun
      rw [hqueue] at hmark
      rcases marked_cons hmark with ⟨hne, -⟩ | ⟨-, hnil⟩
      · cases hne
      · exact hnil
    have hstop' : s'.hasStopped = true := by
      rw [hasStopped_iff, h.after]
      rfl
    refine ⟨by simp [hquit'], by simp [hstop'], fun _ _ => hqueue'.trans hempty, ?_⟩
    rw [hmarks, hs.marks, hquit, hquit']
    rfl
  | disconnect hqueue hgone =>
    obtain ⟨-, -, hrun⟩ := h.receive hshape
    cases hgone.symm.trans (hs.connected hrun hqueue)
  | ordinary _ _ _ hplain hcore =>
    exact hs.keep hshape h (by intro hreceive; cases hreceive; contradiction)
      (congrArg Core.queue hcore) (congrArg Core.quitting hcore) (countP_isMark_of_isPlain hplain)
  | invoke _ _ hplain hcore =>
    refine hs.keep hshape h (by simp) (congrArg Core.queue hcore) (congrArg Core.quitting hcore) ?_
    rw [List.countP_cons_of_neg (by simp [Event.isMark]), countP_isMark_of_isPlain hplain]
  | waive _ hplain hcore =>
    refine hs.keep hshape h (by simp) (congrArg Core.queue hcore) (congrArg Core.quitting hcore) ?_
    rw [List.countP_append, countP_isMark_of_isPlain hplain]
    rfl
  | _ =>
    have hcore := ‹s'.core = _›
    exact hs.keep hshape h (by simp) (congrArg Core.queue hcore) (congrArg Core.quitting hcore) rfl

theorem Effect.entered_quit (h : Effect s t rest s' popped pushed events)
    (hm : .enter .quit ∈ popped) : .decide .quit ∈ pushed := by
  cases h with
  | call => cases hm
  | ordinary hq => cases List.mem_singleton.mp hm; cases hq
  | _ => simp_all

theorem Effect.decided_quit (h : Effect s t rest s' popped pushed events)
    (hm : .decide .quit ∈ popped) : s'.quitting = true := by
  cases h with
  | call => cases hm
  | ordinary hq => cases List.mem_singleton.mp hm; cases hq
  | quit _ _ hcore => exact congrArg Core.quitting hcore
  | quitLost _ _ hcore => exact congrArg Core.quitting hcore
  | quitAgain hquit hcore => exact (congrArg Core.quitting hcore).trans hquit
  | _ => simp_all

theorem Turn.awaited (h : Turn s s' t popped pushed rest events) (hm : .awaitLoop ∈ popped) :
    t = .loop ∨ s'.hasStopped = true := by
  have hwait : t = .loop ∨ (s.setTasks t rest).hasStopped = true := by
    cases h.effect with
    | call => cases hm
    | ordinary hq => cases List.mem_singleton.mp hm; cases hq
    | awaitLoop hw => exact hw
    | _ => simp_all
  by_cases ht : t = .loop
  · exact .inl ht
  · have hstop := hwait.resolve_left ht
    rw [hasStopped_iff, tasks_setTasks_ne (Ne.symm ht), ← hasStopped_iff] at hstop
    exact .inr (h.stopped hstop)

theorem Effect.pushed_discard (h : Effect s t rest s' popped pushed events)
    (hm : .discardLoop ∈ pushed) : pushed = joinTasks ∨ pushed = dropTasks := by
  cases h with
  | call ho => cases ho _ hm
  | ordinary _ ho => cases ho _ hm
  | shutDown ht => exact ht
  | invoke _ hpush => rcases hpush with rfl | ⟨_, _, rfl⟩ <;> simp at hm
  | _ => simp at hm

theorem Effect.owner_gone (h : Effect s t rest s' popped pushed events)
    (ho : s'.owner = .gone) : s.owner = .gone ∨ popped = [.discardLoop] := by
  cases h with
  | shutDown _ _ hcore => cases ho.symm.trans (congrArg Core.owner hcore)
  | discard => exact .inr rfl
  | _ =>
    have hcore := ‹s'.core = _›
    exact .inl ((congrArg Core.owner hcore).symm.trans ho)

theorem Quitting.discard_turn (hs : Quitting s) (hshape : Shaped s)
    (h : Turn s s' t popped pushed rest events) :
    ∀ u, Guarded (DiscardGuard s' u) (s'.tasks u) := by
  apply h.guarded (Q := DiscardGuard s') hshape hs.discard
  · by_cases hm : .discardLoop ∈ pushed
    · rcases h.effect.pushed_discard hm with rfl | rfl <;>
        simp [guarded_cons, guarded_nil, DiscardGuard, joinTasks, dropTasks]
    · apply Guarded.of_forall
      intro before x hx hd
      rw [hd] at hx
      exact absurd hx hm
  · intro before x _ hold hd
    obtain ⟨hquit, hwait⟩ := hold hd
    constructor
    · rcases hquit with hq | he | he
      · exact .inl (h.effect.quitting_mono hq)
      · rcases List.mem_append.mp he with he | he
        · exact .inr (.inr (List.mem_append_left _ (h.effect.entered_quit he)))
        · exact .inr (.inl (List.mem_append_right _ he))
      · rcases List.mem_append.mp he with he | he
        · exact .inl (h.effect.decided_quit he)
        · exact .inr (.inr (List.mem_append_right _ he))
    · rcases hwait with hu | hstop | he
      · exact .inl hu
      · exact .inr (.inl (h.stopped hstop))
      · rcases List.mem_append.mp he with he | he
        · rcases h.awaited he with hu | hstop
          · exact .inl hu
          · exact .inr (.inl hstop)
        · exact .inr (.inr (List.mem_append_right _ he))
  · intro u before x _ hold hd
    obtain ⟨hquit, hwait⟩ := hold hd
    refine ⟨?_, ?_⟩
    · rcases hquit with hq | he
      · exact .inl (h.effect.quitting_mono hq)
      · exact .inr he
    · rcases hwait with hu | hstop | he
      · exact .inl hu
      · exact .inr (.inl (h.stopped hstop))
      · exact .inr (.inr he)
  · intro u before x hx hd
    rw [hd] at hx
    cases hx

theorem Quitting.turn (hs : Quitting s) (hshape : Shaped s)
    (h : Turn s s' t popped pushed rest events) : Quitting s' := by
  -- What a thread does when it gives the loop up is at the front of its stack.
  have hfront (hp : popped = [.discardLoop]) :
      s.quitting = true ∧ (t = .loop ∨ s.hasStopped = true) := by
    have hguard := hs.discard t [] .discardLoop rest (by rw [h.before, hp]; rfl) rfl
    simpa using hguard
  refine ⟨hs.marking hshape h, ?_, hs.discard_turn hshape h, ?_⟩
  · intro howner
    apply h.effect.quitting_mono
    rcases h.effect.owner_gone howner with ho | hp
    · exact hs.owner ho
    · exact (hfront hp).1
  · intro u hm
    have hold : s.quitting = true ∧ (u = .loop ∨ s.hasStopped = true) := by
      rcases h.mem_trace_iff.mp hm with hm | ⟨rfl, hm⟩
      · exact hs.discarded u hm
      · exact hfront (h.effect.noted hm)
    exact ⟨h.effect.quitting_mono hold.1, hold.2.imp_right h.stopped⟩

theorem Reachable.quitting {name : String} (hr : Reachable name s) : Quitting s := by
  apply hr.induct
  · refine ⟨⟨fun _ => ⟨rfl, ?_⟩, ?_, ?_, rfl⟩, ?_, ?_, ?_⟩
    · intro item hi
      cases hi
    · intro hq
      cases hq
    · intro hq
      cases hq
    · intro ho
      cases ho
    · intro u
      apply Guarded.of_forall
      intro before x hx hd
      cases hd.symm.trans (mem_tasks_start hx).2
    · intro u hm
      cases hm
  · intro s s' hprior hs hm
    obtain ⟨t, popped, pushed, rest, events, h⟩ := hm.turn
    exact hs.turn hprior.shaped h

theorem Leads.quitting {name : String} (hr : Reachable name s) (hl : s.Leads s')
    (hq : s.quitting = true) : s'.quitting = true := by
  apply Leads.induct (P := fun m => m.quitting = true) hr hq ?_ hl
  intro a b _ ha hm
  obtain ⟨t, popped, pushed, rest, events, h⟩ := hm.turn
  exact h.effect.quitting_mono ha

end Bridge
end HostBridge
