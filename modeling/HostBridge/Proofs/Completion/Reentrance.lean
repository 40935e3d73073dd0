import HostBridge.Proofs.Completion.Return
import HostBridge.Proofs.Completion.Starts
import Mathlib.Data.List.Nodup

/-!
# Re-entrance

Bodies run slots, their own included, and post callbacks whose bodies do the same. All of this
comes to an end: a slot is emptied before its callback is called, and what a body posts is a part
of that body. When the loop has been quit, what is posted is run in its place.
-/
namespace HostBridge

namespace Bridge

variable {name : String} {s s' : Bridge} {t : ThreadId}

theorem Reachable.called_once_of_failed (hr : Reachable name s) {request : Request}
    {callback : Callback} {result : Int32} {code : Code}
    (he : (t, .answered request callback result code) ∈ s.trace) (hfailed : code = .named .failed)
    (hlater : callback.answeredAtOnce request result = none) :
    (s.trace.filterMap (·.2.called?)).count callback.serial = 1 := by
  have hcalled : (t, .invoked callback NamedCode.aborted.number) ∈ s.trace := by
    cases hr.settled he with
    | waived hnow => cases hnow.symm.trans hlater
    | queued => cases request <;> cases hfailed
    | rejected _ _ _ hrun => exact hrun
  exact List.count_eq_one_of_mem hr.nodup_called (List.mem_filterMap.mpr ⟨_, hcalled, rfl⟩)

/-- What calls of callbacks come to, wherever they are made. A call returns in whatever order the
threads step, unless a callback at hand waits for the loop thread. After the quit, the runs of what
is posted are parts of the run of the body, in the order of its text, and whoever is turned away is
called once. No more closures start than there were in slots, in the queue and on stacks, and have
been posted since. -/
structure ReentranceLaw (s : Bridge) : Prop where
  returns : ∀ t callback result rest, s.tasks t = .invoke callback result :: rest →
    callback.isTame = true → s.TameSlots → Inevitably (Within t rest s) s
  bounded : ∀ (schedule : List ThreadId) (s' : Bridge), schedule.foldlM step? s = some s' →
    schedule.length + s'.work ≤ s.work
  calls : s.quitting = true → ∀ t callback result rest,
    s.tasks t = .invoke callback result :: rest → ∀ P s', WithinWhile P t rest s s' →
      s'.tasks t = rest ∧ ∃ events, CallTells P callback result events ∧
        s'.noted t = s.noted t ++ events
  offers : s.quitting = true → ∀ t order callback rest,
    s.tasks t = .offer order callback :: rest → ∀ P s', WithinWhile P t rest s s' →
      s'.tasks t = rest ∧ ∃ events, OfferTells P order callback events ∧
        s'.noted t = s.noted t ++ events
  waits : ∀ t index rest, s.tasks t = .awaitHelper index :: rest → t ≠ .helper index →
    ((s.step? t).isSome = true ↔ s.tasks (.helper index) = [])
  order : s.quitting = true → ∀ t callback result rest,
    s.tasks t = .invoke callback result :: rest → callback.isPlain = true →
      ∀ s', WithinWhile (fun m => ∀ via, m.isReachable via = true) t rest s s' →
        ∃ events : List Event, s'.noted t = s.noted t ++ events ∧
          events.filterMap Event.startedName? = callback.starts result
  once : ∀ s', s.Leads s' → ∀ t request callback result,
    (t, .answered request callback result (.named .failed)) ∈ s'.trace →
      callback.answeredAtOnce request result = none →
        (s'.trace.filterMap (·.2.called?)).count callback.serial = 1
  counted : ∀ made s', Makes s made s' → (s'.startsSince s).length ≤
    (s.slots.map (·.2)).countP Callback.isClosure +
      (s.queue.flatMap Item.callbacks).countP Callback.isClosure +
        s.stacked.countP Callback.isClosure + made.countP Callback.isClosure

theorem reentrant_calls_end (hr : Reachable name s) : ReentranceLaw s where
  returns _ _ _ _ hb hc hslots := hr.returns hb hc hslots
  bounded _ _ := length_add_work_le
  calls hq t callback result rest hb P s' h := by
    obtain ⟨hback, events, htells, hnoted⟩ :=
      h.tells hq (show s.tasks t = [.invoke callback result] ++ rest from hb)
    exact ⟨hback, events, tasksTell_singleton htells, hnoted⟩
  offers hq t order callback rest hb P s' h := by
    obtain ⟨hback, events, htells, hnoted⟩ :=
      h.tells hq (show s.tasks t = [.offer order callback] ++ rest from hb)
    exact ⟨hback, events, tasksTell_singleton htells, hnoted⟩
  waits _ _ _ hb hne := step?_awaitHelper hb hne
  order hq t callback result rest hb hplain s' h := by
    obtain ⟨-, events, htells, hnoted⟩ :=
      h.tells hq (show s.tasks t = [.invoke callback result] ++ rest from hb)
    exact ⟨events, hnoted, (tasksTell_singleton htells).starts (fun _ hm => hm) hplain⟩
  once _ hl _ _ _ _ he hlater := (hr.leads hl).called_once_of_failed he rfl hlater
  counted _ _ h := Nat.le_trans h.starts_sublist.length_le (h.closures_le hr)

/-- The loop has been quit. A body posts a callback that posts another one, runs its own slot,
where there is the sentinel now, and posts again. -/
theorem reentrant_calls_end_after_quit : ∃ s callback, Reachable "loop" s ∧ s.quitting = true ∧
    s.tasks .main = [.invoke callback 0] ∧ callback.isTame = true ∧ s.TameSlots ∧
      ((s.follow (List.replicate 60 .main)).since s).filterMap Event.startedName? =
        ["outer", "first", "inner", "second"] ∧ ReentranceLaw s := by
  let post (recipe : Recipe) : Action := .post ⟨.post, .poster, 0, 0⟩ false recipe
  let outer : Recipe := .closure .always "outer"
    [post (.closure .always "first" [post (.closure .always "inner" [])]), .run 1 0,
      post (.closure .always "second" [])]
  have hquit := (Reachable.start "loop").act .main (.quit .poster) (List.replicate 5 .main)
    (by decide) (by decide) (by decide)
  have hput := hquit.move (.call (t := .main) (.put 1 false outer)
    (isFree_of_isIdle (by decide +kernel) (by decide) (by decide +kernel)))
  have hcall := hput.move (.call (t := .main) (.invoke 1 0)
    (isFree_of_isIdle (by decide +kernel) (by decide) (by decide +kernel)))
  refine ⟨_, _, hcall, by decide +kernel, rfl, by decide +kernel, ?_, by decide +kernel,
    reentrant_calls_end hcall⟩
  unfold TameSlots
  decide +kernel

end Bridge
end HostBridge
