import HostBridge.Proofs.Completion.Once
import HostBridge.Proofs.Completion.Rejection
import Mathlib.Data.List.Perm.Subperm

/-!
# Closures that start

A closure notes its start when it is called and its trigger admits the code. After the quit, bodies
that do no more than post start what they post in the order of the text, and the closures that a
posted body posts come before the next action. In any state, a closure that starts was in a slot,
in the queue or on a stack, or it has been posted since, and it starts once.
-/
namespace HostBridge

def Event.startedName? : Event → Option String
  | .started _ name _ => some name
  | _ => none

mutual

def Recipe.isPlain : Recipe → Bool
  | .closure _ _ body => plainBody body
  | _ => true

def Action.isPlain : Action → Bool
  | .run .. => false
  | .post order _ recipe => order.via != .helper && recipe.isPlain
  | _ => true

def plainBody : List Action → Bool
  | [] => true
  | action :: rest => action.isPlain && plainBody rest

end

mutual

/-- The closures that start when the callback of a recipe is aborted: its own, and then those of
its body from the first to the last. -/
def Recipe.starts : Recipe → List String
  | .closure .always name body => name :: bodyStarts body
  | _ => []

def Action.starts : Action → List String
  | .post order optional recipe =>
    if order.request = .complete ∧ optional = true then [] else recipe.starts
  | _ => []

def bodyStarts : List Action → List String
  | [] | .panic _ :: _ => []
  | action :: rest => action.starts ++ bodyStarts rest

end

namespace Callback

def isPlain (callback : Callback) : Bool :=
  match callback.target with
  | .closure (some ⟨_, .perform _ body⟩) => plainBody body
  | _ => true

def starts (callback : Callback) (result : Int32) : List String :=
  match callback.target with
  | .closure (some ⟨name, .perform trigger body⟩) =>
    if trigger.admits (Code.receive result).1 then name :: bodyStarts body else []
  | _ => []

variable {callback : Callback} {result : Int32}

theorem target_of_opens {serial : Nat} {name : String} {actions : List Action}
    (h : callback.opens result = [.body serial name actions]) :
    ∃ trigger : Trigger, callback.target = .closure (some ⟨name, .perform trigger actions⟩) ∧
      trigger.admits (Code.receive result).1 = true := by
  simp only [opens] at h
  split at h
  · next closure htarget =>
    obtain ⟨closureName, duty⟩ := closure
    cases duty with
    | send channel => cases h
    | perform trigger body =>
      simp only [Closure.opens] at h
      split at h
      · next hadmits =>
        cases h
        exact ⟨trigger, htarget, hadmits⟩
      · cases h
  · cases h

theorem startedName_notes (callback : Callback) (result : Int32) :
    (callback.notes result).filterMap Event.startedName? = (callback.starts result).take 1 := by
  have hlogged (records : List Log.Record) :
      (records.map Event.logged).filterMap Event.startedName? = [] :=
    Bridge.filterMap_logged (fun _ => rfl) records
  obtain ⟨serial, target, flags⟩ := callback
  rcases target with _ | _ | _ | _ | ⟨name, ⟨trigger, body⟩ | channel⟩
  case closure.some.perform =>
    rw [notes, List.filterMap_cons_none rfl, List.filterMap_append, hlogged]
    simp only [Closure.notes, starts]
    split <;> rfl
  case closure.some.send =>
    rw [notes, List.filterMap_cons_none rfl, List.filterMap_append, hlogged]
    rfl
  all_goals rfl

theorem starts_of_opens_nil (h : callback.opens result = []) : callback.starts result = [] := by
  simp only [starts]
  split
  · next name trigger body htarget =>
    simp only [opens, htarget, Closure.opens] at h
    split at h
    · cases h
    · next hadmits => rw [if_neg hadmits]
  · rfl

theorem starts_of_opens {serial : Nat} {name : String} {actions : List Action}
    (h : callback.opens result = [.body serial name actions]) :
    callback.starts result = name :: bodyStarts actions ∧
      (callback.isPlain = true → plainBody actions = true) := by
  obtain ⟨trigger, htarget, hadmits⟩ := target_of_opens h
  simp [starts, isPlain, htarget, hadmits]

end Callback

namespace Bridge

variable {P : Bridge → Prop} {name : String} {s s' : Bridge}

theorem starts_make (s : Bridge) (optional : Bool) (recipe : Recipe) :
    (s.make optional recipe).1.starts NamedCode.aborted.number = recipe.starts := by
  cases recipe with
  | closure trigger name body => cases optional <;> cases trigger <;> rfl
  | _ => cases optional <;> rfl

theorem isPlain_make (s : Bridge) (optional : Bool) (recipe : Recipe) :
    (s.make optional recipe).1.isPlain = recipe.isPlain := by
  cases recipe <;> cases optional <;> rfl

theorem isOptional_make (s : Bridge) (optional : Bool) (recipe : Recipe) :
    (s.make optional recipe).1.isOptional = optional := by
  have hunmarked : ((0 : Int32) &&& Callback.optionalFlag != 0) = false := by decide
  have hmarked :
      (((0 : Int32) ||| Callback.optionalFlag) &&& Callback.optionalFlag != 0) = true := by
    decide
  cases recipe <;> cases optional <;> first | exact hunmarked | exact hmarked

theorem bodyStarts_cons {action : Action} {rest : List Action} (h : action.isPanic = false) :
    bodyStarts (action :: rest) = action.starts ++ bodyStarts rest := by
  cases action <;> first | rfl | cases h

theorem starts_offered (s : Bridge) (order : Order) (optional : Bool) (recipe : Recipe) :
    (if (s.make optional recipe).1.answeredAtOnce order.request order.result = none then
      (s.make optional recipe).1.starts NamedCode.aborted.number else []) =
      (Action.post order optional recipe).starts := by
  have hsentinel (hb : (s.make optional recipe).1.isBlocking = true) : recipe.starts = [] := by
    rw [← s.starts_make optional recipe, Callback.starts, Callback.target_of_isBlocking hb]
  rw [starts_make, Action.starts]
  cases hb : (s.make optional recipe).1.isBlocking with
  | true => simp [hsentinel hb]
  | false =>
    cases order.request with
    | post => simp [Callback.answeredAtOnce, hb]
    | complete => cases optional <;> simp [Callback.answeredAtOnce, hb, isOptional_make]

theorem starts_of_actTasks {action : Action} (hreach : ∀ via, s.isReachable via = true)
    (hnone : s.actTasks action = []) : action.starts = [] := by
  cases action with
  | post order optional recipe =>
    simp only [actTasks, hreach, if_true] at hnone
    cases hvia : order.via <;> rw [hvia] at hnone <;> cases hnone
  | _ => rfl

mutual

theorem CallTells.starts (hP : ∀ m, P m → ∀ via, m.isReachable via = true)
    {callback : Callback} {result : Int32} {events : List Event} :
    CallTells P callback result events → callback.isPlain = true →
      events.filterMap Event.startedName? = callback.starts result
  | .over hnone, _ => by
    rw [Callback.startedName_notes, Callback.starts_of_opens_nil hnone]
    rfl
  | .body hbody hinner, hplain => by
    obtain ⟨hstarts, hrest⟩ := Callback.starts_of_opens hbody
    rw [List.filterMap_append, Callback.startedName_notes, hstarts,
      BodyTells.starts hP hinner (hrest hplain)]
    rfl

theorem BodyTells.starts (hP : ∀ m, P m → ∀ via, m.isReachable via = true)
    {serial : Nat} {closureName : String} {actions : List Action} {events : List Event} :
    BodyTells P serial closureName actions events → plainBody actions = true →
      events.filterMap Event.startedName? = bodyStarts actions
  | .finished _ _, _ => rfl
  | .panicked _ _ _ _, _ => rfl
  | .next reply hp haction hrest, hplain => by
    rw [plainBody, Bool.and_eq_true] at hplain
    rw [List.filterMap_append, List.filterMap_append, ActionTells.starts hP haction hplain.1,
      BodyTells.starts hP hrest hplain.2, bodyStarts_cons hp]
    split <;> simp [Event.startedName?]

theorem ActionTells.starts (hP : ∀ m, P m → ∀ via, m.isReachable via = true)
    {action : Action} {events : List Event} :
    ActionTells P action events → action.isPlain = true →
      events.filterMap Event.startedName? = action.starts
  | .nothing hp hnone, _ => by rw [starts_of_actTasks (hP _ hp) hnone]; rfl
  | .quit _, _ => rfl
  | .handed _ _ hvia, hplain => by
    simp [Action.isPlain, hvia] at hplain
  | .run _ _ _, hplain => by cases hplain
  | @ActionTells.post _ order optional recipe m _ hp hreach hvia hoffer, hplain => by
    have hrecipe : recipe.isPlain = true := by
      rw [Action.isPlain, Bool.and_eq_true] at hplain
      exact hplain.2
    rw [OfferTells.starts hP hoffer ((m.isPlain_make optional recipe).trans hrecipe),
      starts_offered]
  | .shut hshut, _ => by
    rcases hshut with rfl | rfl <;> rfl

theorem OfferTells.starts (hP : ∀ m, P m → ∀ via, m.isReachable via = true)
    {order : Order} {callback : Callback} {events : List Event} :
    OfferTells P order callback events → callback.isPlain = true →
      events.filterMap Event.startedName? =
        if callback.answeredAtOnce order.request order.result = none then
          callback.starts NamedCode.aborted.number else []
  | .waived records hnow, _ => by
    rw [hnow, List.filterMap_append, filterMap_logged (fun _ => rfl)]
    rfl
  | .rejected _ _ hlater hcall, hplain => by
    rw [if_pos hlater, List.filterMap_append, List.filterMap_append,
      CallTells.starts hP hcall hplain, List.append_assoc]
    exact List.append_nil _

end

end Bridge

def Callback.isClosure (callback : Callback) : Bool :=
  match callback.target with
  | .closure (some _) => true
  | _ => false

def Event.callsClosure : Event → Bool
  | .invoked callback _ => callback.isClosure
  | _ => false

def Event.started? : Event → Option Nat
  | .started serial _ _ => some serial
  | _ => none

namespace Bridge

def since (s' s : Bridge) : List Event := (s'.trace.drop s.trace.length).map (·.2)

def startsSince (s' s : Bridge) : List Nat := (s'.since s).filterMap Event.started?

def closuresSince (s' s : Bridge) : List Nat :=
  ((s'.since s).filter Event.callsClosure).filterMap Event.called?

def stacked (s : Bridge) : List Callback :=
  callbacksOf s.main.tasks ++ callbacksOf s.loopThread.tasks ++
    s.helpers.flatMap (callbacksOf ·.tasks)

def makes (s : Bridge) (t : ThreadId) : List Callback :=
  match s.tasks t with
  | .act (.post order optional recipe) :: _ =>
    if s.isReachable order.via then [(s.make optional recipe).1] else []
  | _ => []

/-- Steps lead on, and the actions that post make callbacks on the way. -/
inductive Makes (s : Bridge) : List Callback → Bridge → Prop
  | start : Makes s [] s
  | step {made : List Callback} {m s' : Bridge} {t : ThreadId} : Makes s made m →
      m.step? t = some s' → Makes s (made ++ m.makes t) s'

variable {name : String} {s s' : Bridge} {made : List Callback} {callback : Callback}
  {t : ThreadId}

theorem Makes.leads (h : Makes s made s') : s.Leads s' := by
  induction h with
  | start => exact .refl
  | step _ hstep ih => exact ih.tail (.step hstep)

theorem since_eq {later : List (ThreadId × Event)} (h : s'.trace = s.trace ++ later) :
    s'.since s = later.map (·.2) := by
  rw [since, h, List.drop_left]

theorem Makes.mem_callbacks (h : Makes s made s') (hc : callback ∈ s'.callbacks) :
    callback ∈ s.callbacks ∨ callback ∈ made ∨ callback.isBlocking = true := by
  induction h with
  | start => exact .inl hc
  | @step made m s' t _ hstep ih =>
    have hgrow (hm : callback ∈ s.callbacks ∨ callback ∈ made ∨ callback.isBlocking = true) :
        callback ∈ s.callbacks ∨ callback ∈ made ++ m.makes t ∨ callback.isBlocking = true :=
      hm.imp id (Or.imp (List.mem_append_left _) id)
    rcases new_callback_step? hstep hc with
      hold | ⟨order, optional, recipe, rest, hb, hreach, rfl⟩ | ⟨rfl, -⟩
    · exact hgrow (ih hold)
    · exact .inr (.inl (List.mem_append_right _ (by simp [makes, hb, hreach])))
    · exact .inr (.inr rfl)

theorem mem_held_or_called (hc : callback ∈ s.callbacks) :
    callback ∈ s.stacked ++ s.slots.map (·.2) ++ s.queue.flatMap Item.callbacks ∨
      ∃ u result, (u, .invoked callback result) ∈ s.trace := by
  rcases List.mem_append.mp hc with hheld | hcalled
  · exact .inl hheld
  · obtain ⟨⟨u, e⟩, he, hcallback⟩ := List.mem_flatMap.mp hcalled
    cases e with
    | invoked other result =>
      obtain rfl := List.mem_singleton.mp hcallback
      exact .inr ⟨u, result, he⟩
    | _ => cases hcallback

theorem called_sublist (events : List Event) :
    ((events.filter Event.callsClosure).filterMap Event.called?).Sublist
      (events.filterMap Event.called?) :=
  List.filter_sublist.filterMap _

theorem started_sublist_notes (callback : Callback) (result : Int32) :
    ((callback.notes result).filterMap Event.started?).Sublist
      (((callback.notes result).filter Event.callsClosure).filterMap Event.called?) := by
  have hlogged (records : List Log.Record) :
      (records.map Event.logged).filterMap Event.started? = [] ∧
        (records.map Event.logged).filter Event.callsClosure = [] :=
    ⟨filterMap_logged (fun _ => rfl) records, by simp [Event.callsClosure]⟩
  obtain ⟨serial, target, flags⟩ := callback
  rcases target with _ | _ | _ | _ | ⟨closureName, duty⟩
  case closure.some =>
    rw [Callback.notes, List.filterMap_cons_none rfl, List.filter_cons_of_pos rfl,
      List.filterMap_append, List.filter_append, (hlogged _).1, (hlogged _).2]
    cases duty with
    | send channel => exact List.nil_sublist _
    | perform trigger body =>
      simp only [Closure.notes]
      split
      · exact .refl _
      · exact List.nil_sublist _
  all_goals exact List.nil_sublist _

theorem started_sublist {task : Task} {rest pushed : List Task} {events : List Event}
    (h : Deed s s' t rest task pushed events) : (events.filterMap Event.started?).Sublist
      ((events.filter Event.callsClosure).filterMap Event.called?) := by
  rcases h.entered_cases with hnone | ⟨callback, result, -, rfl⟩
  · have hnil : events.filterMap Event.started? = [] := by
      refine List.filterMap_eq_nil_iff.mpr fun e he => ?_
      have hentered := hnone e he
      cases e <;> first | rfl | cases hentered
    rw [hnil]
    exact List.nil_sublist _
  · exact started_sublist_notes callback result

theorem Makes.starts_sublist (h : Makes s made s') :
    (s'.startsSince s).Sublist (s'.closuresSince s) := by
  induction h with
  | start =>
    rw [startsSince, closuresSince, since_eq (List.append_nil _).symm]
    exact .slnil
  | @step made m s' t hmakes hstep ih =>
    obtain ⟨task, rest, hb⟩ := exists_task hstep
    obtain ⟨pushed, events, hturn, hdeed⟩ := deed_step? hb hstep
    obtain ⟨later, htrace⟩ := hmakes.leads.trace
    have hafter : s'.trace = s.trace ++ (later ++ events.map (t, ·)) := by
      rw [hturn.trace, htrace, List.append_assoc]
    have hsince : s'.since s = m.since s ++ events := by
      simp [since_eq hafter, since_eq htrace, Function.comp_def]
    rw [startsSince, closuresSince, hsince, List.filterMap_append, List.filter_append,
      List.filterMap_append]
    exact ih.append (started_sublist hdeed)

theorem Makes.mem_closures (hr : Reachable name s) (h : Makes s made s') {serial : Nat}
    (hserial : serial ∈ s'.closuresSince s) : ∃ callback, callback.serial = serial ∧
      callback.isClosure = true ∧ callback ∈
        s.stacked ++ s.slots.map (·.2) ++ s.queue.flatMap Item.callbacks ++ made := by
  obtain ⟨later, htrace⟩ := h.leads.trace
  rw [closuresSince, since_eq htrace] at hserial
  obtain ⟨e, he, hcalled⟩ := List.mem_filterMap.mp hserial
  obtain ⟨he, hcloses⟩ := List.mem_filter.mp he
  obtain ⟨⟨u, e'⟩, hentry, heq⟩ := List.mem_map.mp he
  obtain rfl : e' = e := heq
  cases e' with
  | invoked callback result =>
    obtain rfl : callback.serial = serial := Option.some.inj hcalled
    have hclosure : callback.isClosure = true := hcloses
    refine ⟨callback, rfl, hclosure, List.mem_append.mpr ?_⟩
    have hinvoked : (u, .invoked callback result) ∈ s'.trace := by
      rw [htrace]
      exact List.mem_append_right _ hentry
    rcases h.mem_callbacks (mem_callbacks_of_invoked hinvoked) with hold | hnew | hblocking
    · rcases mem_held_or_called hold with hheld | ⟨v, number, hbefore⟩
      · exact .inl hheld
      · -- It was called before, and is not called twice.
        have hnodup := (hr.leads h.leads).nodup_called
        rw [htrace, List.filterMap_append] at hnodup
        exact absurd rfl ((List.nodup_append.mp hnodup).2.2 _
          (List.mem_filterMap.mpr ⟨_, hbefore, rfl⟩) _
          (List.mem_filterMap.mpr ⟨_, hentry, rfl⟩))
    · exact .inr hnew
    · rw [Callback.isClosure, Callback.target_of_isBlocking hblocking] at hclosure
      cases hclosure
  | _ => cases hcalled

theorem Makes.nodup_closures (hr : Reachable name s) (h : Makes s made s') :
    (s'.closuresSince s).Nodup := by
  obtain ⟨later, htrace⟩ := h.leads.trace
  have hnodup := (hr.leads h.leads).nodup_called
  rw [htrace, List.filterMap_append] at hnodup
  rw [closuresSince, since_eq htrace]
  refine List.Nodup.sublist (called_sublist _) ?_
  rw [List.filterMap_map]
  exact (List.nodup_append.mp hnodup).2.1

/-- No more closures are called than there were in slots, in the queue and on stacks, and have been
posted since. -/
theorem Makes.closures_le (hr : Reachable name s) (h : Makes s made s') :
    (s'.closuresSince s).length ≤
      (s.slots.map (·.2)).countP Callback.isClosure +
        (s.queue.flatMap Item.callbacks).countP Callback.isClosure +
          s.stacked.countP Callback.isClosure + made.countP Callback.isClosure := by
  let held := s.stacked ++ s.slots.map (·.2) ++ s.queue.flatMap Item.callbacks
  have hsub : s'.closuresSince s ⊆
      ((held ++ made).filter Callback.isClosure).map Callback.serial := by
    intro serial hserial
    obtain ⟨callback, rfl, hclosure, hmem⟩ := h.mem_closures hr hserial
    exact List.mem_map_of_mem (List.mem_filter.mpr ⟨hmem, hclosure⟩)
  have hle := ((h.nodup_closures hr).subperm hsub).length_le
  rw [List.length_map, ← List.countP_eq_length_filter] at hle
  simp only [held, List.countP_append] at hle
  omega

end Bridge
end HostBridge
