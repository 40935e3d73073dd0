import HostBridge.Proofs.MessageLoop.Shape
import Mathlib.Tactic.ByContra

/-!
# The gate

One thread at most is inside the gate, and what it does there is to decide, to log at most,
and to leave. So whatever runs a callback has left the gate before.
-/
namespace HostBridge

def Task.isGated : Task → Bool
  | .decide _ | .leave => true
  | _ => false

/-- What the holder of the gate has to do before it is out again. -/
inductive Inside : List Task → Prop
  | deciding (errand : Errand) : Inside [.decide errand]
  | logging (record : Log.Record) : Inside [.log record, .leave]
  | leaving : Inside [.leave]

inductive GateStack : Bool → List Task → Prop
  | outside {tasks : List Task} : (∀ x ∈ tasks, x.isGated = false) → GateStack false tasks
  | inside {first rest : List Task} : Inside first → (∀ x ∈ rest, x.isGated = false) →
      GateStack true (first ++ rest)

theorem Task.isGated_of_isOpening {x : Task} (h : x.isOpening = true) : x.isGated = false := by
  cases x <;> first | rfl | cases h

theorem Task.isGated_of_isOrdinary {x : Task} (h : x.isOrdinary = true) : x.isGated = false := by
  cases x <;> first | rfl | cases h

theorem GateStack.cons_cases {held : Bool} {x : Task} {rest : List Task}
    (h : GateStack held (x :: rest)) :
    (held = false ∧ x.isGated = false ∧ ∀ y ∈ rest, y.isGated = false) ∨
    (held = true ∧ x.isGated = true ∧ ∀ y ∈ rest, y.isGated = false) ∨
    (held = true ∧ ∃ record more, x = .log record ∧ rest = .leave :: more ∧
      ∀ y ∈ more, y.isGated = false) := by
  generalize hl : x :: rest = l at h
  cases h with
  | outside ho =>
    subst hl
    exact .inl ⟨rfl, ho x (by simp), fun y hy => ho y (by simp [hy])⟩
  | inside hi ho =>
    cases hi with
    | deciding errand =>
      cases hl
      exact .inr (.inl ⟨rfl, rfl, ho⟩)
    | logging record =>
      cases hl
      exact .inr (.inr ⟨rfl, record, _, rfl, rfl, ho⟩)
    | leaving =>
      cases hl
      exact .inr (.inl ⟨rfl, rfl, ho⟩)

theorem GateStack.held_ne_nil {tasks : List Task} (h : GateStack true tasks) : tasks ≠ [] := by
  cases h with
  | inside hi _ => cases hi <;> simp

theorem GateStack.out {x : Task} {rest : List Task} {held : Bool}
    (h : GateStack held (x :: rest)) (hx : x.isGated = false) (hlog : ∀ record, x ≠ .log record) :
    held = false ∧ ∀ y ∈ rest, y.isGated = false := by
  rcases h.cons_cases with ⟨hheld, -, hrest⟩ | ⟨-, hgated, -⟩ | ⟨-, record, _, hrecord, -⟩
  · exact ⟨hheld, hrest⟩
  · rw [hx] at hgated
    cases hgated
  · exact absurd hrecord (hlog record)

theorem GateStack.push {pushed rest : List Task} (hp : ∀ x ∈ pushed, x.isGated = false)
    (hr : ∀ x ∈ rest, x.isGated = false) : GateStack false (pushed ++ rest) := by
  apply GateStack.outside
  intro x hx
  rcases List.mem_append.mp hx with hx | hx
  · exact hp x hx
  · exact hr x hx

namespace Bridge

def holds (s : Bridge) (u : ThreadId) : Bool := s.gate == some u

theorem holds_iff {s : Bridge} {u : ThreadId} : s.holds u = true ↔ s.gate = some u := by
  simp [holds]

def Gated (s : Bridge) : Prop := ∀ u, GateStack (s.holds u) (s.tasks u)

variable {s s' : Bridge} {t : ThreadId} {popped pushed rest : List Task} {events : List Event}

theorem gate_of_isGated (hs : GateStack (s.holds t) (s.tasks t)) {x : Task}
    (hb : s.tasks t = x :: rest) (hx : x.isGated = true) :
    s.gate = some t ∧ ∀ y ∈ rest, y.isGated = false := by
  rw [hb] at hs
  rcases hs.cons_cases with ⟨-, hout, -⟩ | ⟨hheld, -, hrest⟩ | ⟨-, record, _, rfl, -⟩
  · rw [hx] at hout
    cases hout
  · exact ⟨holds_iff.mp hheld, hrest⟩
  · cases hx

theorem holds_congr (hgate : s'.gate = s.gate) (u : ThreadId) : s'.holds u = s.holds u := by
  rw [holds, holds, hgate]

theorem Turn.outside {x : Task} (h : Turn s s' t [x] pushed rest events)
    (hs : GateStack (s.holds t) (s.tasks t)) (hx : x.isGated = false)
    (hlog : ∀ record, x ≠ .log record) (hgate : s'.gate = s.gate)
    (hpush : ∀ y ∈ pushed, y.isGated = false) : GateStack (s'.holds t) (s'.tasks t) := by
  rw [h.before] at hs
  obtain ⟨hno, hrest⟩ := GateStack.out hs hx hlog
  rw [h.after, holds_congr hgate, hno]
  exact GateStack.push hpush hrest

theorem Turn.inside {x : Task} (first more : List Task)
    (h : Turn s s' t [x] (first ++ more) rest events) (hs : GateStack (s.holds t) (s.tasks t))
    (hx : x.isGated = true) (hgate : s'.gate = s.gate) (hi : Inside first)
    (hm : ∀ y ∈ more, y.isGated = false) : GateStack (s'.holds t) (s'.tasks t) := by
  obtain ⟨hyes, hrest⟩ := gate_of_isGated hs h.before hx
  rw [h.after, holds_congr hgate, holds_iff.mpr hyes, List.append_assoc]
  apply GateStack.inside hi
  intro y hy
  rcases List.mem_append.mp hy with hy | hy
  · exact hm y hy
  · exact hrest y hy

theorem Turn.gateStack (h : Turn s s' t popped pushed rest events)
    (hs : GateStack (s.holds t) (s.tasks t)) : GateStack (s'.holds t) (s'.tasks t) := by
  have hstack := hs
  rw [h.before] at hstack
  cases h.effect with
  | call ho hfree hcore =>
    rw [h.after, holds_congr (congrArg Core.gate hcore)]
    rcases hfree with rfl | ⟨rfl, -⟩ | ⟨n, name, actions, more, rfl⟩
    · exact hstack
    · cases hb : s.holds t with
      | true =>
        rw [hb] at hstack
        exact absurd rfl hstack.held_ne_nil
      | false => exact GateStack.push (fun x hx => Task.isGated_of_isOpening (ho x hx)) (by simp)
    · obtain ⟨hno, hrest⟩ := GateStack.out hstack rfl (by simp)
      rw [hno]
      refine GateStack.push (fun x hx => Task.isGated_of_isOpening (ho x hx)) ?_
      intro y hy
      rcases List.mem_cons.mp hy with rfl | hy
      · rfl
      · exact hrest y hy
  | @ordinary task _ _ hquiet ho _ _ hcore =>
    refine h.outside hs ?_ ?_ (congrArg Core.gate hcore)
      (fun x hx => Task.isGated_of_isOrdinary (ho x hx))
    · cases task <;> first | rfl | cases hquiet
    · intro record hlog
      rw [hlog] at hquiet
      cases hquiet
  | shutDown ht _ hcore =>
    refine h.outside hs rfl (by simp) (congrArg Core.gate hcore) ?_
    rcases ht with rfl | rfl <;> simp [joinTasks, dropTasks, Task.isGated]
  | invoke _ hpush _ hcore =>
    refine h.outside hs rfl (by simp) (congrArg Core.gate hcore) ?_
    rcases hpush with rfl | ⟨_, _, rfl⟩ <;> simp [Task.isGated]
  | @enter errand hfree hcore =>
    have hgate : s'.gate = some t := congrArg Core.gate hcore
    obtain ⟨-, hrest⟩ := GateStack.out hstack rfl (by simp)
    rw [h.after, holds_iff.mpr hgate]
    exact GateStack.inside (.deciding errand) hrest
  | @accept request callback _ result _ _ hcore =>
    exact Turn.inside [.leave] _ h hs rfl (congrArg Core.gate hcore) .leaving
      (by simp [Task.isGated])
  | @refuse request callback _ result record _ hcore =>
    exact Turn.inside [.log record, .leave] _ h hs rfl (congrArg Core.gate hcore)
      (.logging record) (by simp [Task.isGated])
  | quit _ _ hcore =>
    exact Turn.inside _ [] h hs rfl (congrArg Core.gate hcore) .leaving (by simp)
  | quitLost _ _ hcore =>
    exact Turn.inside _ [] h hs rfl (congrArg Core.gate hcore) .leaving (by simp)
  | quitAgain _ hcore =>
    exact Turn.inside _ [] h hs rfl (congrArg Core.gate hcore) .leaving (by simp)
  | @log record hcore =>
    rw [h.after, holds_congr (congrArg Core.gate hcore)]
    rcases GateStack.cons_cases hstack with ⟨hno, -, hrest⟩ | ⟨-, hgated, -⟩ |
      ⟨hyes, _, more, -, rfl, hmore⟩
    · rw [hno]
      exact GateStack.outside hrest
    · cases hgated
    · have hleave := GateStack.inside .leaving hmore
      rw [hyes]
      exact hleave
  | leave hcore =>
    have hgate : s'.gate = none := congrArg Core.gate hcore
    obtain ⟨-, hrest⟩ := gate_of_isGated hs h.before rfl
    have hno : s'.holds t = false := by rw [holds, hgate]; rfl
    rw [h.after, hno]
    exact GateStack.outside hrest
  | _ =>
    have hcore := ‹s'.core = _›
    exact h.outside hs rfl (by simp) (congrArg Core.gate hcore) (by simp [Task.isGated])

theorem Turn.holds_ne (h : Turn s s' t popped pushed rest events)
    (hs : GateStack (s.holds t) (s.tasks t)) {u : ThreadId} (hu : u ≠ t) :
    s'.holds u = s.holds u := by
  have hne {v : Option ThreadId} (hv : v = none ∨ v = some t) : (v == some u) = false := by
    rcases hv with rfl | rfl
    · rfl
    · simpa using Ne.symm hu
  unfold holds
  cases h.effect with
  | enter hfree hcore =>
    have hgate : s'.gate = some t := congrArg Core.gate hcore
    rw [hgate, hfree, hne (.inr rfl), hne (.inl rfl)]
  | leave hcore =>
    have hgate : s'.gate = none := congrArg Core.gate hcore
    rw [hgate, (gate_of_isGated hs h.before rfl).1, hne (.inr rfl), hne (.inl rfl)]
  | _ =>
    have hcore := ‹s'.core = _›
    have hgate : s'.gate = s.gate := congrArg Core.gate hcore
    rw [hgate]

theorem Gated.turn (hs : Gated s) (hshape : Shaped s)
    (h : Turn s s' t popped pushed rest events) : Gated s' := by
  intro u
  by_cases hu : u = t
  · rw [hu]
    exact h.gateStack (hs t)
  · rw [h.holds_ne (hs t) hu]
    rcases h.others u hu with hsame | ⟨hidle, -, hpopped⟩
    · rw [hsame]
      exact hs u
    · have hstack := hs u
      rw [hidle] at hstack
      rw [hpopped] at h
      cases hb : s.holds u with
      | true =>
        rw [hb] at hstack
        exact absurd rfl hstack.held_ne_nil
      | false =>
        exact GateStack.outside fun x hx => Task.isGated_of_isOpening (hshape.handed h x hx)

theorem Gated.holder_steps (hs : Gated s) (hg : s.gate = some t) : (s.step? t).isSome = true := by
  have hstack := hs t
  rw [holds_iff.mpr hg] at hstack
  generalize hb : s.tasks t = tasks at hstack
  cases hstack with
  | inside hi _ => cases hi <;> rw [step?_eq hb] <;> rfl

theorem Gated.gate_ne (hs : Gated s) {x : Task} (hb : s.tasks t = x :: rest)
    (hx : x.isGated = false) (hlog : ∀ record, x ≠ .log record) : s.gate ≠ some t := by
  have hstack := hs t
  rw [hb] at hstack
  intro hgate
  have hno := (hstack.out hx hlog).1
  rw [holds_iff.mpr hgate] at hno
  cases hno

theorem Reachable.gated {name : String} (hr : Reachable name s) : Gated s := by
  apply hr.induct
  · intro u
    apply GateStack.outside
    intro x hx
    rw [(mem_tasks_start hx).2]
    rfl
  · intro s s' hprior hs hm
    obtain ⟨t, popped, pushed, rest, events, h⟩ := hm.turn
    exact hs.turn hprior.shaped h

theorem Reachable.gate_ne {name : String} (hr : Reachable name s) {x : Task}
    (hb : s.tasks t = x :: rest) (hx : x.isGated = false) (hlog : ∀ record, x ≠ .log record) :
    s.gate ≠ some t :=
  hr.gated.gate_ne hb hx hlog

end Bridge
end HostBridge
