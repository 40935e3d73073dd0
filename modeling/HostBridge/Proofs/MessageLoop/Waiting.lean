import HostBridge.Proofs.MessageLoop.Gate
import HostBridge.Proofs.MessageLoop.Quitting

/-!
# Waiting

A thread waits for the gate, and whoever holds that can go on. When the flag is up, nothing
else keeps the loop thread from its end than a callback that does not return.
-/
namespace HostBridge

/-- The tasks of code that has not returned: a callback that is held up, and what it waits
for itself. -/
def Task.isHeld : Task → Bool
  | .invoke .. | .await _ | .awaitHelper _ => true
  | _ => false

namespace Bridge

variable {name : String} {s s' : Bridge} {t : ThreadId} {rest : List Task}

theorem Reachable.holder_steps (hr : Reachable name s) (hg : s.gate = some t) :
    (s.step? t).isSome = true :=
  hr.gated.holder_steps hg

theorem perform?_eq_none {x : Task} (h : s.perform? t x = none) :
    x.isHeld = true ∨ (x = .receive ∧ s.queue = []) ∨
      ((∃ errand, x = .enter errand) ∧ ∃ u, s.gate = some u) ∨
      (x = .awaitLoop ∧ t ≠ .loop ∧ s.hasStopped = false) := by
  cases x with
  | abort callback =>
    simp only [perform?] at h
    split at h <;> cases h
  | enter errand =>
    simp only [perform?] at h
    split at h
    · next hg =>
      obtain ⟨u, hu⟩ := Option.isSome_iff_exists.mp hg
      exact .inr (.inr (.inl ⟨⟨errand, rfl⟩, u, hu⟩))
    · cases h
  | receive =>
    simp only [perform?, receive?] at h
    split at h
    · next hq => exact .inr (.inl ⟨rfl, hq⟩)
    · cases h
    · cases h
  | awaitLoop =>
    simp only [perform?] at h
    split at h
    · cases h
    · next hw =>
      simp only [Bool.or_eq_true, decide_eq_true_eq, not_or, Bool.not_eq_true] at hw
      exact .inr (.inr (.inr ⟨rfl, hw.1, hw.2⟩))
  | invoke | await | awaitHelper => exact .inl rfl
  | _ => cases h

/-- When nobody can go on after a quit, the loop thread has stopped, or it is in a callback
that does not return. -/
theorem Reachable.at_rest (hr : Reachable name s) (hq : s.quitting = true)
    (hrest : ∀ u, s.step? u = none) :
    s.hasStopped = true ∨ ∃ x more, s.tasks .loop = x :: more ∧ x.isHeld = true := by
  cases hb : s.tasks .loop with
  | nil => exact .inl (hasStopped_iff.mpr hb)
  | cons x more =>
    right
    refine ⟨x, more, rfl, ?_⟩
    have hrun : s.hasStopped = false := hasStopped_of_cons hb
    have hnone := hrest .loop
    rw [step?_eq hb] at hnone
    rcases perform?_eq_none hnone with hheld | ⟨-, hqueue⟩ | ⟨-, u, hu⟩ | ⟨-, hne, -⟩
    · exact hheld
    · have hmark := hr.quitting.marked hq hrun
      rw [queue_setTasks] at hqueue
      rw [hqueue] at hmark
      exact absurd hmark not_marked_nil
    · rw [gate_setTasks] at hu
      have hstep := hr.holder_steps hu
      rw [hrest u] at hstep
      cases hstep
    · exact absurd rfl hne

end Bridge
end HostBridge
