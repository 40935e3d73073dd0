import HostBridge.Proofs.Completion.Receivers
import HostBridge.Proofs.MessageLoop.Shutdown

/-!
# Waiters

Whoever waits for a callback that was handed to a loop is told something when the loop has
stopped: the callback has been dispatched by then, or it was turned away and called as aborted.
Only a callback that its request is answered for at once is let go, and its channel with it.
-/
namespace HostBridge

namespace Event

def completedOk (channel : Nat) : Event → Bool
  | .answered .complete callback 0 (.named .ok) => callback.sender? == some channel
  | _ => false

theorem exists_of_completedOk {channel : Nat} {e : Event}
    (h : e.completedOk channel = true) :
    ∃ callback, e = .answered .complete callback 0 .ok ∧ callback.sender? = some channel := by
  unfold completedOk at h
  split at h
  · next callback => exact ⟨callback, rfl, beq_iff_eq.mp h⟩
  · cases h

end Event

namespace Bridge

variable {name : String} {s s' : Bridge} {t : ThreadId} {channel : Nat}
  {history more : List Moment} {callback : Callback} {result : Int32}

theorem Reachable.gone_of_waived (hr : Reachable name s) (he : (t, .waived callback) ∈ s.trace) :
    ∀ other ∈ s.callbacks, other.serial ≠ callback.serial := by
  intro other ho hserial
  have hleaves : 0 < (Event.waived callback).leaves .due other.serial := by
    simp [Event.leaves, hserial]
  have hreleased := hr.released .due other.serial he hleaves
  rcases mem_callbacks.mp ho with ⟨u, task, htask, hc⟩ | ⟨entry, hentry, rfl⟩ |
    ⟨item, hitem, hc⟩ | ⟨u, number, hcalled⟩
  · exact hr.not_held he hleaves htask hc
  · have hzero := hreleased.slots entry hentry
    simp [Callback.heldAt, Stage.upTo] at hzero
  · have hzero := hreleased.queue item hitem
    cases item with
    | run queued delay number =>
      rw [List.mem_singleton.mp hc] at hzero
      simp [Item.holds, Callback.heldAt, Stage.upTo] at hzero
    | quit => cases hc
  · have honce := hr.leaves_once .due other.serial he hcalled hleaves (by simp [Event.leaves])
    cases honce.2

theorem Faithful.mute_of_waived (hf : Faithful name s) (he : (t, .waived callback) ∈ s.trace)
    (hsender : callback.sender? = some channel) : Mute channel s := by
  revert he
  apply Later.induct (P := fun m => (t, .waived callback) ∈ m.trace → Mute channel m) hf
  · intro he
    cases he
  · intro a b m hprior hmute hmoved hfaithful he
    have ha : Faithful name a := hprior
    obtain ⟨u, popped, pushed, rest, events, h⟩ := hmoved.move.turn
    rcases h.mem_trace_iff.mp he with hold | ⟨rfl, hnew⟩
    · exact (hmute hold).moved hmoved hfaithful
    · obtain ⟨order, rfl⟩ := h.effect.noted hnew
      have hc : callback ∈ a.callbacks :=
        mem_callbacks_of_task (h.mem_popped (List.mem_singleton.mpr rfl))
          (List.mem_singleton.mpr rfl)
      -- The callback was on the stack until it was let go, and is nowhere since.
      refine .of_lost ha (.single ⟨m, hmoved, hfaithful⟩) hc hsender fun other ho hserial => ?_
      exact absurd hserial ((ha.moved hmoved hfaithful).reachable.gone_of_waived he other ho)

theorem Reachable.called_of_stopped (hr : Reachable name s) (hstop : s.hasStopped = true)
    {request : Request} {code : Code} (he : (t, .answered request callback result code) ∈ s.trace)
    (hlater : callback.answeredAtOnce request result = none) :
    code = acceptance request ∧ (.loop, .invoked callback result) ∈ s.trace ∨
      code = .failed ∧ (t, .invoked callback NamedCode.aborted.number) ∈ s.trace := by
  cases hr.settled he with
  | waived hnow => cases hnow.symm.trans hlater
  | queued _ ha =>
    have hfinished := (hr.drained_of_stopped hstop).finished callback result
      (mem_accepted.mpr ⟨t, ha⟩)
    exact .inl ⟨rfl, hfinished.1⟩
  | rejected _ _ _ hrun => exact .inr ⟨rfl, hrun⟩

/-- What becomes of a channel whose callback was handed to the loop. When the loop thread has
stopped, the callback has been called with its result or as aborted, and whoever asks is told so. An
optional one that was completed is never called, and its receiver waits for ever. -/
structure WaiterLaw (channel : Nat) (history : List Moment) (s : Bridge) : Prop where
  resolved : s.hasStopped = true → ∀ t request callback result code,
    (t, .answered request callback result code) ∈ s.trace →
      (request = .complete → callback.isOptional = false) →
        callback.sender? = some channel →
          history.filterMap Moment.ran? =
              [if code = .failed then NamedCode.aborted.number else result] ∧
            Receipt.due history ≠ .pending ∧
              ∀ later s', Watch channel s later s' →
                ∀ receipt, .asked receipt ∈ later → receipt ≠ .pending
  swallowed : ∀ t callback result code,
    (t, .answered .complete callback result code) ∈ s.trace → callback.isOptional = true →
      callback.sender? = some channel → code = (Code.receive result).1 ∧
        ∀ later s', Watch channel s later s' →
          ∀ receipt, .asked receipt ∈ history ++ later → receipt = .pending
  next : ∀ t receiver rest, s.tasks t = .act (.tryTake receiver) :: rest →
    s.receivers.get? receiver = some channel →
      ∃ s', s.step? t = some s' ∧ s'.receipt? t = some (.due history)

theorem stopped_loop_resolves (hw : Watch channel (fresh.startLoop name) history s) :
    WaiterLaw channel history s := by
  have hf : Faithful name s := hw.later
  have hr := hf.reachable
  constructor
  · intro hstop t request callback result code he hflag hsender
    have hblocking := Callback.isBlocking_of_sender? hsender
    have hlater : callback.answeredAtOnce request result = none := by
      cases request with
      | post => simp [Callback.answeredAtOnce, hblocking]
      | complete => simp [Callback.answeredAtOnce, hblocking, hflag rfl]
    have hruns : history.filterMap Moment.ran? =
        [if code = .failed then NamedCode.aborted.number else result] := by
      rcases hr.called_of_stopped hstop he hlater with ⟨rfl, hcalled⟩ | ⟨rfl, hcalled⟩
      · rw [hw.ran hcalled hsender]
        cases request <;> rfl
      · exact hw.ran hcalled hsender
    have hran (later : List Moment) :
        .ran (if code = .failed then NamedCode.aborted.number else result) ∈ history ++ later := by
      refine List.mem_append_left _ (Moment.mem_filterMap_ran?.mp ?_)
      rw [hruns]
      exact List.mem_singleton.mpr rfl
    refine ⟨hruns, ?_, fun later s' hl receipt hm => ?_⟩
    · have hdue := Receipt.due_of_ran (hran [])
      rwa [List.append_nil] at hdue
    · obtain ⟨before, after, rfl⟩ := List.append_of_mem hm
      have htold := (hw.trans hl).heard.told (history ++ before) (.asked receipt) after (by simp)
        receipt rfl
      rw [htold]
      exact Receipt.due_of_ran (hran before)
  · intro t callback result code he hflag hsender
    cases hr.settled he with
    | waived hnow hwaived =>
      have hmute := hf.mute_of_waived hwaived hsender
      refine ⟨?_, fun later s' hl receipt hm => hmute.pending hw hl hm⟩
      simp only [Callback.answeredAtOnce, hflag, Bool.or_true, if_true, Option.some.injEq] at hnow
      exact hnow.symm
    | queued hlater => simp [Callback.answeredAtOnce, hflag] at hlater
    | rejected hlater => simp [Callback.answeredAtOnce, hflag] at hlater
  · intro t receiver rest hb hreceiver
    obtain ⟨s', hstep, -, htold⟩ := hw.step?_tryTake hb hreceiver
    exact ⟨s', hstep, htold⟩

/-- One callback is dispatched, and another is turned away after the quit; their loop stops. -/
theorem stopped_loop_resolves_both : ∃ history s, Watch 1 (fresh.startLoop "loop") history s ∧
    s.hasStopped = true ∧ history = [.ran (-3)] ∧ WaiterLaw 1 history s := by
  have hstart : Watch 1 (fresh.startLoop "loop") [] (fresh.startLoop "loop") := .start
  have hpost := hstart.call .main
    (.act (.post ⟨.complete, .poster, 0, 7⟩ false (.channel "first" 1)))
    (List.replicate 8 .main) (by decide) (by decide) (by decide) (by simp)
  have hquit := hpost.call .main (.act (.quit .poster))
    (List.replicate 5 .main ++ List.replicate 4 .loop) (by decide +kernel) (by decide)
    (by decide +kernel) (by simp)
  have hlate := hquit.call .main
    (.act (.post ⟨.post, .poster, 0, 7⟩ true (.channel "second" 2)))
    (List.replicate 9 .main) (by decide +kernel) (by decide) (by decide +kernel) (by simp)
  exact ⟨_, _, hlate, by decide +kernel, by decide +kernel, stopped_loop_resolves hlate⟩

/-- A callback that is completed as optional is let go: its loop has been joined, and whoever asks
for its code then is told to go on waiting. -/
theorem optional_completion_left_pending : ∃ history s callback,
    Watch 0 (fresh.startLoop "loop") history s ∧
      (.main, .answered .complete callback 0 .ok) ∈ s.trace ∧ callback.sender? = some 0 ∧
        s.hasStopped = true ∧
          (Motion.step .main).moment? s (s.advance .main) = some (0, .asked .pending) := by
  have hstart : Watch 0 (fresh.startLoop "loop") [] (fresh.startLoop "loop") := .start
  have hcomplete := hstart.call .main
    (.act (.post ⟨.complete, .poster, 0, 0⟩ true (.channel "answer" 1)))
    (List.replicate 4 .main) (by decide) (by decide) (by decide) (by simp)
  have hjoin := hcomplete.call .main (.act .joinLoop)
    (List.replicate 5 .main ++ [.loop] ++ List.replicate 6 .main)
    (by decide +kernel) (by decide) (by decide +kernel) (by simp)
  have hask := hjoin.call .main (.act (.tryTake 1)) [] (by decide +kernel) (by decide)
    (by decide +kernel) (by simp)
  have hanswered {history : List Moment} {s : Bridge}
      (_ : Watch 0 (fresh.startLoop "loop") history s)
      (hany : (s.trace.any fun entry => entry.1 == .main && entry.2.completedOk 0) = true) :
      ∃ callback, (.main, .answered .complete callback 0 .ok) ∈ s.trace ∧
        callback.sender? = some 0 := by
    obtain ⟨⟨t, e⟩, he, hboth⟩ := List.any_eq_true.mp hany
    obtain ⟨ht, hcompleted⟩ := Bool.and_eq_true_iff.mp hboth
    obtain ⟨callback, rfl, hsender⟩ := Event.exists_of_completedOk hcompleted
    cases beq_iff_eq.mp ht
    exact ⟨callback, he, hsender⟩
  obtain ⟨callback, he, hsender⟩ := hanswered hask (by decide +kernel)
  exact ⟨_, _, callback, hask, he, hsender, by decide +kernel, by decide +kernel⟩

end Bridge
end HostBridge
