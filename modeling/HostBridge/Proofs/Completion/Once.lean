import HostBridge.Proofs.Completion.Lineage

/-!
# Once

A callback is called once at most, whoever runs, posts or aborts what, and however deep in the
calls of others. To run a slot takes the callback out before the call begins, so whoever comes
to the slot later finds the sentinel, the body of that very callback included.
-/
namespace HostBridge

def Event.called? : Event → Option Nat
  | .invoked callback _ => some callback.serial
  | _ => none

def Event.entered? : Event → Option Nat
  | .started serial .. | .native serial .. => some serial
  | _ => none

/-- What begins when a callback is called: its native function, or the body of its closure. -/
inductive Callback.Enters (callback : Callback) (result : Int32) : Event → Prop
  | native {context : UInt64} : callback.target = .native context →
      callback.Enters result (.native callback.serial context result)
  | closure {name : String} {trigger : Trigger} {body : List Action} :
      callback.target = .closure (some ⟨name, .perform trigger body⟩) →
      callback.Enters result
        (.started callback.serial name (trigger.told (Code.receive result).1))

namespace Bridge

variable {name : String} {s s' : Bridge} {t : ThreadId} {rest pushed : List Task} {task : Task}
  {events : List Event}

theorem filterMap_logged {α : Type} {pick : Event → Option α}
    (h : ∀ record, pick (.logged record) = none)
    (records : List Log.Record) : (records.map Event.logged).filterMap pick = [] := by
  simp [h]

theorem called_notes {callback : Callback} (h : callback.isBlocking = false) (result : Int32) :
    (callback.notes result).filterMap Event.called? = [callback.serial] := by
  have hlogged (records : List Log.Record) :
      (records.map Event.logged).filterMap Event.called? = [] :=
    filterMap_logged (fun _ => rfl) records
  simp only [Callback.notes]
  split
  · next htarget => simp [Callback.isBlocking, htarget] at h
  · rfl
  · rfl
  · rfl
  · next closure _ =>
    have hclosure (code : Code) :
        (closure.notes callback.serial code).filterMap Event.called? = [] := by
      simp only [Closure.notes]
      split
      · rfl
      · split <;> rfl
    rw [List.filterMap_cons, List.filterMap_append, hlogged, hclosure]
    rfl

theorem entered_notes (callback : Callback) (result : Int32) :
    ((callback.notes result).filterMap Event.entered?).Sublist
      ((callback.notes result).filterMap Event.called?) := by
  cases hb : callback.isBlocking with
  | true =>
    simp [Callback.notes, Callback.target_of_isBlocking hb]
  | false =>
    rw [called_notes hb]
    have hlogged (records : List Log.Record) :
        (records.map Event.logged).filterMap Event.entered? = [] :=
      filterMap_logged (fun _ => rfl) records
    simp only [Callback.notes]
    split
    · exact .cons _ .slnil
    · exact .refl _
    · exact .cons _ .slnil
    · exact .cons _ .slnil
    · next closure _ =>
      rw [List.filterMap_cons_none rfl, List.filterMap_append, hlogged]
      simp only [Closure.notes]
      split
      · exact .cons _ .slnil
      · split
        · exact .refl _
        · exact .cons _ .slnil

theorem Deed.entered_cases (h : Deed s s' t rest task pushed events) :
    (∀ e ∈ events, e.entered? = none) ∨
      ∃ callback result, task = .invoke callback result ∧ events = callback.notes result := by
  cases h with
  | invoke callback result => exact .inr ⟨callback, result, rfl, rfl⟩
  | body serial name actions =>
    left
    cases actions with
    | nil => simp [bodyNotes, Event.entered?]
    | cons action more => cases action <;> simp [bodyNotes, Event.entered?]
  | waive =>
    left
    intro e he
    rcases List.mem_append.mp he with he | he
    · obtain ⟨record, -, rfl⟩ := List.mem_map.mp he
      rfl
    · rw [List.mem_singleton.mp he]
      rfl
  | other hq hr he =>
    cases he with
    | ordinary hquiet => cases hquiet.symm.trans hq
    | shutDown => cases hq
    | invoke | waive | ask => cases hr
    | _ => exact .inl (by simp [Event.entered?])
  | _ => exact .inl (by simp [Event.entered?])

theorem Reachable.entered (hr : Reachable name s) :
    (s.trace.filterMap (·.2.entered?)).Sublist (s.trace.filterMap (·.2.called?)) := by
  apply hr.induct (P := fun m =>
    (m.trace.filterMap (·.2.entered?)).Sublist (m.trace.filterMap (·.2.called?)))
  · exact .slnil
  · intro a b _ ha hm
    obtain ⟨m, hmoved⟩ := hm.moved
    rcases hmoved.trace with hsame | ⟨t, task, rest, pushed, events, -, -, hdeed, htrace⟩
    · rwa [hsame]
    · rw [htrace, List.filterMap_append, List.filterMap_append, List.filterMap_map,
        List.filterMap_map]
      refine ha.append ?_
      rcases hdeed.entered_cases with hnone | ⟨callback, result, -, rfl⟩
      · have hnil : events.filterMap ((fun entry => entry.2.entered?) ∘ (t, ·)) = [] :=
          List.filterMap_eq_nil_iff.mpr hnone
        rw [hnil]
        exact List.nil_sublist _
      · exact entered_notes callback result

theorem mem_notes {callback : Callback} {result : Int32} {e : Event}
    (he : e ∈ callback.notes result) (hentered : e.entered? ≠ none) :
    .invoked callback result ∈ callback.notes result ∧ callback.Enters result e := by
  simp only [Callback.notes] at he ⊢
  split at he
  · cases he
  · next context htarget =>
    simp only [List.mem_cons, List.not_mem_nil, or_false] at he
    rcases he with rfl | rfl
    · exact absurd rfl hentered
    · exact ⟨List.mem_cons_self, .native htarget⟩
  · rw [List.mem_singleton.mp he] at hentered
    exact absurd rfl hentered
  · simp only [List.mem_cons, List.not_mem_nil, or_false] at he
    rcases he with rfl | rfl <;> exact absurd rfl hentered
  · next closure htarget =>
    refine ⟨List.mem_cons_self, ?_⟩
    obtain ⟨closureName, duty⟩ := closure
    rcases List.mem_cons.mp he with rfl | he
    · exact absurd rfl hentered
    · rcases List.mem_append.mp he with he | he
      · obtain ⟨record, -, rfl⟩ := List.mem_map.mp he
        exact absurd rfl hentered
      · cases duty with
        | send channel => cases he
        | perform trigger body =>
          simp only [Closure.notes] at he
          split at he
          · rw [List.mem_singleton.mp he]
            exact .closure htarget
          · rw [List.mem_singleton.mp he] at hentered
            exact absurd rfl hentered

theorem Reachable.entered_by (hr : Reachable name s) {e : Event} (he : (t, e) ∈ s.trace)
    (hentered : e.entered? ≠ none) : ∃ callback result, (t, .invoked callback result) ∈ s.trace ∧
      callback.Enters result e := by
  revert he
  apply hr.induct (P := fun m => (t, e) ∈ m.trace → ∃ callback result,
    (t, .invoked callback result) ∈ m.trace ∧ callback.Enters result e)
  · intro he
    cases he
  · intro a b _ ha hm he
    obtain ⟨m, hmoved⟩ := hm.moved
    rcases hmoved.trace with hsame | ⟨u, task, rest, pushed, events, -, -, hdeed, htrace⟩
    · rw [hsame] at he ⊢
      exact ha he
    · rw [htrace] at he ⊢
      rcases List.mem_append.mp he with he | he
      · obtain ⟨callback, result, hinvoked, hcase⟩ := ha he
        exact ⟨callback, result, List.mem_append_left _ hinvoked, hcase⟩
      · obtain ⟨e', he', heq⟩ := List.mem_map.mp he
        cases heq
        rcases hdeed.entered_cases with hnone | ⟨callback, result, -, rfl⟩
        · exact absurd (hnone _ he') hentered
        · obtain ⟨hinvoked, hcase⟩ := mem_notes he' hentered
          exact ⟨callback, result, List.mem_append_right _ (List.mem_map_of_mem hinvoked), hcase⟩

theorem Reachable.called_not_isBlocking (hr : Reachable name s) {callback : Callback}
    {result : Int32} (he : (t, .invoked callback result) ∈ s.trace) :
    callback.isBlocking = false := by
  revert he
  apply hr.induct (P := fun m => (t, .invoked callback result) ∈ m.trace →
    callback.isBlocking = false)
  · intro he
    cases he
  · intro a b _ ha hm he
    obtain ⟨u, popped, pushed, rest, events, h⟩ := hm.turn
    rcases h.mem_trace_iff.mp he with hold | ⟨rfl, hnew⟩
    · exact ha hold
    · have hpopped : popped = [.invoke callback result] := h.effect.noted hnew
      subst hpopped
      cases h.effect with
      | ordinary _ _ _ hplain => cases hplain _ hnew
      | invoke hb => exact hb

theorem Leads.tally_le (hl : s.Leads s') (limit : Stage) (serial : Nat) :
    s'.tally (.custody limit serial) ≤ s.tally (.custody limit serial) := by
  unfold Leads at hl
  induction hl with
  | refl => exact Nat.le_refl _
  | tail _ hm ih => exact Nat.le_trans (tally_move_le hm) ih

theorem Leads.never_called {serial : Nat} (hl : s.Leads s')
    (hlost : s.tally (.custody .due serial) = 0) {u : ThreadId} {called : Callback}
    {result : Int32} (he : (u, .invoked called result) ∈ s'.trace) : called.serial ≠ serial := by
  intro hserial
  have hle := hl.tally_le .due serial
  have hevent : (Weight.custody .due serial).event (.invoked called result) ≤
      s'.tally (.custody .due serial) := event_le_tally _ he
  have hself : (Weight.custody .due serial).event (.invoked called result) = 1 := by
    simp [Weight.custody, Event.leaves, hserial]
  omega

theorem Leads.never_found {serial : Nat} (hl : s.Leads s')
    (hlost : s.tally (.custody .offered serial) = 0) {entry : Nat × Callback}
    (he : entry ∈ s'.slots) : entry.2.serial ≠ serial := by
  intro hserial
  have hle := hl.tally_le .offered serial
  have hslot := callback_le_tally (.custody .offered serial) he
  have hself : (Weight.custody .offered serial).callback entry.2 = 1 := by
    simp [Weight.custody, Callback.heldAt, Stage.upTo, hserial]
  omega

section slots
variable {slot : Nat} {callback : Callback}

theorem Reachable.slot_lt_made (hr : Reachable name s) (hs : s.slots.get? slot = some callback) :
    callback.serial < s.made :=
  hr.serial_lt_made (mem_callbacks_of_slot (Table.mem_of_get? hs))

theorem callback_custody (limit : Stage) (serial : Nat) (callback : Callback) :
    (Weight.custody limit serial).callback callback = if callback.serial = serial then 1 else 0 :=
  callback.heldAt_offered limit serial

theorem unmade_custody_of_lt {limit : Stage} {serial made : Nat} (h : serial < made) :
    (Weight.custody limit serial).unmade made = 0 :=
  if_neg (by omega)

theorem Reachable.forgotten (hr : Reachable name s) (hs : s.slots.get? slot = some callback) :
    (s.call t (.forget slot)).tally (.custody .due callback.serial) = 0 := by
  have hone := hr.custody .due callback.serial
  have herase := tally_erase (.custody .due callback.serial) hs
  have hpush := tally_push_le (.custody .due callback.serial)
    { s with slots := s.slots.erase slot } t []
  rw [callback_custody, if_pos rfl] at herase
  simp only [Bridge.call, takeOut, hs, Weight.tasks_nil] at hpush ⊢
  omega

theorem Reachable.replaced (hr : Reachable name s) (hs : s.slots.get? slot = some callback)
    (optional : Bool) (recipe : Recipe) :
    (s.call t (.put slot optional recipe)).tally (.custody .due callback.serial) = 0 := by
  have hlt := hr.slot_lt_made hs
  have hone := hr.custody .due callback.serial
  have hmake := s.tally_make (.custody .due callback.serial) optional recipe
  rw [← slots_make optional recipe] at hs
  have hput := tally_put (.custody .due callback.serial) (s.make optional recipe).1 hs
  rw [callback_custody, callback_custody, if_pos rfl, (s.serial_make optional recipe).1,
    if_neg (by omega)] at hput
  rw [unmade_custody_of_lt hlt, unmade_custody_of_lt (Nat.lt_succ_of_lt hlt)] at hmake
  simp only [Bridge.call]
  omega

theorem tally_unload (w : Weight) (hs : s.slots.get? slot = some callback) :
    (s.unload slot).tally w + w.callback callback + w.unmade s.made ≤
      s.tally w + w.callback (.sentinel s.made) + w.unmade (s.made + 1) := by
  have htaken := Table.totalOf_erase_of_get? w.callback hs
  simp only [unload, hs, tally, Table.put, totalOf_cons]
  omega

theorem act_run (result : Int32) (hs : s.slots.get? slot = some callback) :
    s.act t (.run slot result) =
      (s.unload slot).push t [.invoke callback result, .reply .nothing] := by
  simp only [act, unload, hs]

theorem Reachable.run_slot (hr : Reachable name s) {result : Int32}
    (hb : s.tasks t = .act (.run slot result) :: rest)
    (hs : s.slots.get? slot = some callback) :
    ∃ s', s.step? t = some s' ∧ s'.tasks t = .invoke callback result :: .reply .nothing :: rest ∧
      s'.slots = s.slots.put slot (.sentinel s.made) ∧ s'.made = s.made + 1 ∧
      s'.trace = s.trace ∧ s'.tally (.custody .offered callback.serial) = 0 := by
  have hstep : s.step? t = some ((s.setTasks t rest).act t (.run slot result)) := step?_eq hb
  obtain ⟨pushed, events, hturn, hdeed⟩ := deed_step? hb hstep
  obtain ⟨rfl, rfl⟩ := hdeed.act_eq
  have hstore := store_step? hb hstep
  simp only [storeAfter, unload, hs] at hstore
  refine ⟨_, hstep, ?_, congrArg Store.slots hstore, congrArg Store.made hstore,
    by simpa using hturn.trace, ?_⟩
  · simpa [actTasks, hs] using hturn.after
  · -- The one that the number counts for moves from the slot to the call, and the sentinel
    -- that comes into the slot has another number.
    have hlt := hr.slot_lt_made hs
    have hone := hr.custody .offered callback.serial
    have hset := tally_setTasks (.custody .offered callback.serial) hb
    have hslot : (s.setTasks t rest).slots.get? slot = some callback := by
      rwa [slots_setTasks]
    have hunload := tally_unload (.custody .offered callback.serial) hslot
    have hpush := tally_push_le (.custody .offered callback.serial)
      ((s.setTasks t rest).unload slot) t [.invoke callback result, .reply .nothing]
    have hpushed : (Weight.custody .offered callback.serial).tasks
        [.invoke callback result, .reply .nothing] = 0 := by
      simp [Weight.custody, Task.holds, Callback.heldAt, Stage.upTo]
    have hnew : (Callback.sentinel s.made).serial ≠ callback.serial := Nat.ne_of_gt hlt
    rw [made_setTasks, callback_custody, callback_custody, if_pos rfl, if_neg hnew,
      unmade_custody_of_lt hlt, unmade_custody_of_lt (Nat.lt_succ_of_lt hlt)] at hunload
    rw [act_run result hslot]
    omega

theorem slots_moved {m : Motion} (h : Moved s m s') (hm : m.IsFaithful s) {entry : Nat × Callback}
    (he : entry ∈ s'.slots) :
    (∃ old, (entry.1, old) ∈ s.slots ∧ entry.2.Descends old) ∨ entry.2.serial = s.made := by
  have hsame (hold : entry ∈ s.slots) :
      ∃ old, (entry.1, old) ∈ s.slots ∧ entry.2.Descends old := ⟨entry.2, hold, .refl _⟩
  cases h with
  | step h =>
    obtain ⟨task, rest, hb⟩ := exists_task h
    rw [show s'.slots = _ from congrArg Store.slots (store_step? hb h)] at he
    rcases mem_slots_storeAfter he with hold | ⟨hsentinel, -⟩
    · exact .inl (hsame hold)
    · exact .inr (congrArg Callback.serial hsentinel)
  | @call t call hfree =>
    rw [show (s.call t call).slots = _ from congrArg Store.slots (store_call call)] at he
    rcases mem_slots_storeCalled he with hold | ⟨slot, optional, recipe, -, rfl⟩ |
      ⟨slot, target, flags, found, rfl, hslot, rfl⟩
    · exact .inl (hsame hold)
    · exact .inr (s.serial_make optional recipe).1
    · exact .inl ⟨found, Table.mem_of_get? hslot, rfl,
        hm t slot target flags found rfl hslot⟩
  | enlist => exact .inl (hsame he)

theorem Later.emptied (hl : s.Later s') {bound : Nat} (hmade : bound < s.made)
    (hslot : ∀ entry ∈ s.slots, entry.1 = slot →
      entry.2.isBlocking = true ∨ bound < entry.2.serial) :
    ∀ entry ∈ s'.slots, entry.1 = slot → entry.2.isBlocking = true ∨ bound < entry.2.serial := by
  refine hl.induct (P := fun m => ∀ entry ∈ m.slots, entry.1 = slot →
    entry.2.isBlocking = true ∨ bound < entry.2.serial) hslot ?_
  intro a b m hprior hall hmoved hfaithful entry he hkey
  rcases slots_moved hmoved hfaithful he with ⟨old, hold, hdescends⟩ | hnew
  · -- A sentinel whose flags are changed is a sentinel.
    rw [hdescends.isBlocking, hdescends.serial]
    exact hall _ hold hkey
  · exact .inr (hnew ▸ Nat.lt_of_lt_of_le hmade hprior.grows.made)

theorem step?_sentinel {result : Int32} (hc : callback.isBlocking = true)
    (hb : s.tasks t = .invoke callback result :: rest ∨ s.tasks t = .abort callback :: rest) :
    s.step? t = some (s.setTasks t rest) := by
  rcases hb with hb | hb
  · rw [step?_eq hb]
    simp only [perform?, invoke?, Callback.target_of_isBlocking hc]
  · rw [step?_eq hb]
    simp only [perform?, hc, if_true]

theorem Reachable.run_sentinel (hr : Reachable name s) {result : Int32}
    (hb : s.tasks t = .act (.run slot result) :: rest)
    (hs : s.slots.get? slot = some callback) (hc : callback.isBlocking = true) :
    ∃ s', Relation.ReflTransGen (fun a b => a.step? t = some b) s s' ∧ s'.tasks t = rest ∧
      s'.trace = s.trace ∧ s'.errorSlots = s.errorSlots ∧ s'.channels = s.channels ∧
      s'.slots = s.slots.put slot (.sentinel s.made) := by
  obtain ⟨a, hrun, htasks, hslots, -, htrace, -⟩ := hr.run_slot hb hs
  have hcall := step?_sentinel hc (.inl htasks)
  have ht := mem_threads_of_tasks a t htasks
  have htasks' : (a.setTasks t (.reply .nothing :: rest)).tasks t = .reply .nothing :: rest :=
    tasks_setTasks_self ht
  have hreply := step?_eq htasks'
  let b := (a.setTasks t (.reply .nothing :: rest)).setTasks t rest
  have hframe : Frame b (b.reply t .nothing) t [] [] := frame_reply _
  have hstore : (b.reply t .nothing).store = (s.unload slot).store := by
    rw [store_reply, store_setTasks, store_setTasks]
    exact store_step? hb hrun
  simp only [unload, hs] at hstore
  refine ⟨b.reply t .nothing, .tail (.tail (.single hrun) hcall) hreply, ?_, ?_, ?_,
    congrArg Store.channels hstore, congrArg Store.slots hstore⟩
  · rw [hframe.own, tasks_setTasks_of_cons htasks']
    rfl
  · rw [hframe.trace, trace_setTasks, trace_setTasks, htrace]
    exact List.append_nil _
  · rw [errorSlots_reply, errorSlots_setTasks, errorSlots_setTasks, errorSlots_step? hb hrun]
    exact Function.update_eq_self t s.errorSlots

theorem Reachable.nodup_called (hr : Reachable name s) :
    (s.trace.filterMap (·.2.called?)).Nodup := by
  have hpick := hr.nodup_serials .due (fun entry => entry.2.called?) id
    fun entry serial hpick => ?_
  · rwa [List.map_id] at hpick
  · obtain ⟨t, e⟩ := entry
    cases e with
    | invoked callback result =>
      cases hpick
      simp [Event.leaves]
    | _ => cases hpick

/-- A callback is called once, with its own function and context and with one result. To run a slot
is to leave the sentinel in it before the callback is called: to run it again does nothing, and
whatever else is in it later was made later. Callbacks that are forgotten or replaced are never
called. -/
structure OnceLaw (s : Bridge) : Prop where
  called : (s.trace.filterMap (·.2.called?)).Nodup
  entered : (s.trace.filterMap (·.2.entered?)).Nodup
  started : ∀ t serial name told, (t, .started serial name told) ∈ s.trace →
    ∃ callback result trigger body, (t, .invoked callback result) ∈ s.trace ∧
      callback.serial = serial ∧ callback.target = .closure (some ⟨name, .perform trigger body⟩) ∧
      told = trigger.told (Code.receive result).1
  native : ∀ t serial context result, (t, .native serial context result) ∈ s.trace →
    ∃ callback, (t, .invoked callback result) ∈ s.trace ∧ callback.serial = serial ∧
      callback.target = .native context
  own : ∀ callback ∈ s.callbacks, ∀ s', s.Later s' → ∀ t called result,
    (t, .invoked called result) ∈ s'.trace → called.serial = callback.serial →
      called.target = callback.target ∨ called.target = callback.nullContext.target
  run : ∀ t slot result callback rest, s.tasks t = .act (.run slot result) :: rest →
    s.slots.get? slot = some callback →
    ∃ s', s.step? t = some s' ∧ s'.tasks t = .invoke callback result :: .reply .nothing :: rest ∧
      s'.slots.get? slot = some (.sentinel s.made) ∧ s'.trace = s.trace ∧
      (∀ s'', s'.Leads s'' → ∀ entry ∈ s''.slots, entry.2.serial ≠ callback.serial) ∧
      ∀ s'', s'.Later s'' → ∀ found, s''.slots.get? slot = some found →
        found.isBlocking = true ∨ s.made < found.serial
  rerun : ∀ t slot result callback rest, s.tasks t = .act (.run slot result) :: rest →
    s.slots.get? slot = some callback → callback.isBlocking = true →
    ∃ s', Relation.ReflTransGen (fun a b => a.step? t = some b) s s' ∧ s'.tasks t = rest ∧
      s'.trace = s.trace ∧ s'.errorSlots = s.errorSlots ∧ s'.channels = s.channels ∧
      s'.slots = s.slots.put slot (.sentinel s.made)
  call : ∀ t callback result rest s', s.tasks t = .invoke callback result :: rest →
    s.step? t = some s' → s'.tasks t = callback.opens result ++ rest ∧
      s'.trace = s.trace ++ (callback.notes result).map (t, ·)
  sentinel : ∀ t callback result, (t, .invoked callback result) ∈ s.trace →
    callback.isBlocking = false
  forgotten : ∀ t slot callback, s.slots.get? slot = some callback →
    ∀ s', (s.call t (.forget slot)).Leads s' → ∀ u called result,
      (u, .invoked called result) ∈ s'.trace → called.serial ≠ callback.serial
  replaced : ∀ t slot callback optional recipe, s.slots.get? slot = some callback →
    ∀ s', (s.call t (.put slot optional recipe)).Leads s' → ∀ u called result,
      (u, .invoked called result) ∈ s'.trace → called.serial ≠ callback.serial

theorem callbacks_run_once (hs : Faithful name s) : OnceLaw s := by
  have hr := hs.reachable
  refine ⟨hr.nodup_called, hr.nodup_called.sublist hr.entered, ?_, ?_, ?_, ?_, ?_, ?_, ?_, ?_, ?_⟩
  · intro t serial name told he
    obtain ⟨callback, result, hinvoked, henters⟩ := hr.entered_by he (by simp [Event.entered?])
    cases henters with
    | closure htarget => exact ⟨callback, result, _, _, hinvoked, rfl, htarget, rfl⟩
  · intro t serial context result he
    obtain ⟨callback, result, hinvoked, henters⟩ := hr.entered_by he (by simp [Event.entered?])
    cases henters with
    | native htarget => exact ⟨callback, hinvoked, rfl, htarget⟩
  · intro callback hc s' hl t called result he hserial
    exact (hl.descends hr hc (mem_callbacks_of_invoked he)
      hserial).target
  · intro t slot result callback rest hb hslot
    obtain ⟨s', hstep, htasks, hslots, hmade, htrace, hlost⟩ := hr.run_slot hb hslot
    have hr' : Reachable name s' := hr.move (.step hstep)
    refine ⟨s', hstep, htasks, by rw [hslots, Table.get?_put], htrace,
      fun s'' hl entry he => hl.never_found hlost he, fun s'' hl found hfound => ?_⟩
    refine hl.emptied (show s.made < s'.made by omega) (fun entry he hkey => ?_) _
      (Table.mem_of_get? hfound) rfl
    rw [hslots] at he
    rcases Table.mem_put.mp he with rfl | ⟨-, hne⟩
    · exact .inl rfl
    · exact absurd hkey hne
  · exact fun t slot result callback rest hb hslot hc => hr.run_sentinel hb hslot hc
  · intro t callback result rest s' hb hstep
    obtain ⟨pushed, events, hturn, hdeed⟩ := deed_step? hb hstep
    obtain ⟨rfl, rfl⟩ := hdeed.invoke_eq
    exact ⟨hturn.after, hturn.trace⟩
  · exact fun t callback result he => hr.called_not_isBlocking he
  · exact fun t slot callback hslot s' hl u called result he =>
      hl.never_called (hr.forgotten hslot) he
  · exact fun t slot callback optional recipe hslot s' hl u called result he =>
      hl.never_called (hr.replaced hslot optional recipe) he

end slots

/-- The body of a callback runs its own slot, and the callback is not called again. -/
theorem callbacks_run_once_reentrant : ∃ s, Faithful "loop" s ∧
    s.trace.filterMap (·.2.entered?) = [0] ∧ (s.tasks .main).isEmpty = true ∧ OnceLaw s := by
  have hput := (Faithful.start "loop").call .main
    (.put 1 false (.closure .always "again" [.run 1 5, .panic .other])) [] (by decide) (by decide)
    (by decide) (by simp)
  have hrun := hput.call .main (.act (.run 1 7)) (List.replicate 12 .main) (by decide +kernel)
    (by decide) (by decide +kernel) (by simp)
  exact ⟨_, hrun, by decide +kernel, by decide +kernel, callbacks_run_once hrun⟩

end Bridge
end HostBridge
