import HostBridge.Proofs.Completion.History

/-!
# Receivers

A receiver is told nothing until the callback of its channel has been called, then the code of
that call, once, and after that no code will come. It makes no difference who calls the callback
and on which thread, what other receivers are told, or in which order all of this happens.
-/
namespace HostBridge

/-- A receiver goes away: it is dropped, or that of a new channel gets its number. -/
inductive Motion.Drops (s : Bridge) (receiver : Nat) : Motion → Prop
  | dropped (t : ThreadId) : Drops s receiver (.call t (.dropReceiver receiver))
  | replaced (t : ThreadId) (slot : Nat) (optional : Bool) (name : String) :
      Drops s receiver (.call t (.put slot optional (.channel name receiver)))
  | reposted {t : ThreadId} {order : Order} {optional : Bool} {name : String}
      {rest : List Task} :
      s.tasks t = .act (.post order optional (.channel name receiver)) :: rest →
      s.isReachable order.via = true → Drops s receiver (.step t)

namespace Bridge

variable {name : String} {s s' s'' : Bridge} {t u : ThreadId} {channel receiver : Nat}
  {history more : List Moment} {m : Motion} {callback : Callback} {result : Int32}
  {rest : List Task}

theorem Deaf.of_drops (hr : Reachable name s) (hreceiver : s.receivers.get? receiver = some channel)
    (hd : m.Drops s receiver) (h : Moved s m s') : Deaf channel s' := by
  have hopen := hr.attended.open (get?_listeners hreceiver)
  have hmade : channel < s.channels.length := by
    by_contra hle
    exact hopen (channelOf_of_length_le (Nat.le_of_not_lt hle))
  have hgone : (s.abandon receiver).channelOf channel = .abandoned := by
    rw [channelOf_abandon, if_pos hreceiver]
  have hopened (hchannels : s'.channels = (s.abandon receiver).channels ++ [.pending]) :
      s'.channelOf channel = .abandoned := by
    rw [channelOf_opened (s := s.abandon receiver) hchannels, length_channels_abandon,
      if_neg (by omega), hgone]
  refine ⟨Nat.lt_of_lt_of_le hmade (grows_moved h).channels, ?_⟩
  cases hd with
  | dropped t =>
    cases h
    exact hgone
  | replaced t slot optional name =>
    cases h
    exact hopened rfl
  | reposted hb hreach =>
    cases h with
    | step h =>
      have hchannels := congrArg Store.channels (store_step? hb h)
      simp only [storeAfter, hreach, if_true] at hchannels
      exact hopened hchannels

theorem Faithful.mute_of_forgotten (hf : Faithful name s) {slot : Nat} (hfree : s.IsFree t)
    (hslot : s.slots.get? slot = some callback) (hsender : callback.sender? = some channel) :
    Mute channel (s.call t (.forget slot)) := by
  have hlater : s.Later (s.call t (.forget slot)) :=
    .single ⟨_, .call (.forget slot) hfree, Motion.isFaithful_call s t (by simp)⟩
  refine .of_lost hf hlater (mem_callbacks_of_slot (Table.mem_of_get? hslot)) hsender ?_
  intro other ho hserial
  -- Nobody has the number any more.
  have hle := totalOf_callbacks_le (s := s.call t (.forget slot)) callback.serial
  have hcount := le_totalOf (Callback.counts callback.serial) ho
  rw [hf.reachable.forgotten hslot] at hle
  simp only [Callback.counts, hserial, beq_self_eq_true, if_true] at hcount
  omega

theorem Faithful.mute_of_hasNullContext (hf : Faithful name s) (hl : s.Later s')
    (hc : callback ∈ s.callbacks) (hsender : callback.sender? = some channel) {other : Callback}
    (ho : other ∈ s'.callbacks) (hserial : other.serial = callback.serial)
    (hnull : other.hasNullContext = true) : Mute channel s' := by
  have hr' : Reachable name s' := hf.reachable.leads hl.leads
  refine .of_lost hf hl hc hsender fun found hfound hsame => ?_
  rw [hr'.callbacks_unique hfound ho (hsame.trans hserial.symm)]
  exact Callback.sender?_of_hasNullContext hnull

theorem Faithful.sent_le_one (hf : Faithful name s) :
    (s.trace.filterMap (·.2.sent? channel)).length ≤ 1 := by
  cases hruns : s.trace.filterMap (·.2.sent? channel) with
  | nil => exact Nat.zero_le _
  | cons result runs =>
    have hmem : result ∈ s.trace.filterMap (·.2.sent? channel) := by
      rw [hruns]
      exact List.mem_cons_self
    obtain ⟨⟨u, e⟩, he, hsent⟩ := List.mem_filterMap.mp hmem
    obtain ⟨callback, rfl, hsender⟩ := sent?_eq_some hsent
    have hle : (s.trace.filterMap (·.2.sent? channel)).length ≤
        totalOf (fun entry => entry.2.leaves .due callback.serial) s.trace := by
      refine length_filterMap_le_totalOf _ _ fun ⟨v, e⟩ ho hpick => ?_
      obtain ⟨number, hnumber⟩ := Option.isSome_iff_exists.mp hpick
      obtain ⟨other, rfl, hother⟩ := sent?_eq_some hnumber
      -- Each run of the channel is a run of the one callback that sends to it.
      have hserial := hf.senders.unique other (mem_callbacks_of_invoked ho) callback
        (mem_callbacks_of_invoked he) channel hother hsender
      simp [Event.leaves, hserial]
    have hone := hf.reachable.custody .due callback.serial
    simp only [tally, Weight.custody, Weight.events, totalOf_map] at hone
    rw [← hruns]
    omega

theorem Reachable.not_held (hr : Reachable name s) {e : Event} (he : (u, e) ∈ s.trace)
    (hl : 0 < e.leaves .due callback.serial) {task : Task} (htask : task ∈ s.tasks t) :
    callback ∉ task.callbacks := by
  intro hc
  have hzero := (hr.released .due callback.serial he hl).tasks t task htask
  have hcount := le_totalOf (Callback.counts callback.serial) hc
  rw [totalOf_callbacks, hzero] at hcount
  simp [Callback.counts] at hcount

theorem Watch.not_ran (hw : Watch channel (fresh.startLoop name) history s) {task : Task}
    (htask : task ∈ s.tasks t) (hc : callback ∈ task.callbacks)
    (hsender : callback.sender? = some channel) : history.filterMap Moment.ran? = [] := by
  have hf : Faithful name s := hw.later
  rw [hw.heard.runs, List.filterMap_eq_nil_iff]
  intro ⟨u, e⟩ he
  cases hsent : e.sent? channel with
  | none => rfl
  | some result =>
    obtain ⟨other, rfl, hother⟩ := sent?_eq_some hsent
    have hserial := hf.senders.unique other (mem_callbacks_of_invoked he) callback
      (mem_callbacks_of_task htask hc) channel hother hsender
    exact absurd hc (hf.reachable.not_held he (by simp [Event.leaves, hserial]) htask)

theorem Watch.ran (hw : Watch channel (fresh.startLoop name) history s)
    (he : (u, .invoked callback result) ∈ s.trace) (hsender : callback.sender? = some channel) :
    history.filterMap Moment.ran? = [result] := by
  have hf : Faithful name s := hw.later
  have hmem : result ∈ s.trace.filterMap (·.2.sent? channel) :=
    List.mem_filterMap.mpr ⟨_, he, if_pos hsender⟩
  have hone : (s.trace.filterMap (·.2.sent? channel)).length ≤ 1 := hf.sent_le_one
  rw [hw.heard.runs]
  cases hruns : s.trace.filterMap (·.2.sent? channel) with
  | nil =>
    rw [hruns] at hmem
    cases hmem
  | cons number runs =>
    rw [hruns] at hmem hone
    have hnil : runs = [] := List.eq_nil_of_length_eq_zero (by simpa using hone)
    subst hnil
    rw [List.mem_singleton.mp hmem]

theorem Turn.aborting {popped pushed : List Task} {events : List Event}
    (h : Turn s s' u popped pushed rest events) (hb : callback.isBlocking = false)
    (hab : Aborting s.trace t (s.tasks t) callback) :
    Aborting s'.trace t (s'.tasks t) callback := by
  by_cases hu : t = u
  · subst hu
    rw [h.before] at hab
    rw [h.after]
    cases hab with
    | pending hm => exact h.aborting_of_abort hb hm
    | calling hnoted hm => exact h.aborting_of_invoke hb (h.mem_trace hnoted) hm
    | called hnoted hrun => exact .called (h.mem_trace hnoted) (h.mem_trace hrun)
  · -- A thread that still has something to do is not given anything else by another.
    have hkeep {x : Task} (hx : x ∈ s.tasks t) : x ∈ s'.tasks t := by
      rcases h.others t hu with hsame | ⟨hidle, -⟩
      · rwa [hsame]
      · rw [hidle] at hx
        cases hx
    cases hab with
    | pending hm => exact .pending (hkeep hm)
    | calling hnoted hm => exact .calling (h.mem_trace hnoted) (hkeep hm)
    | called hnoted hrun => exact .called (h.mem_trace hnoted) (h.mem_trace hrun)

theorem Reachable.aborting (hr : Reachable name s) : ∀ t callback,
    (t, .refused callback) ∈ s.trace ∨ (t, .aborted callback) ∈ s.trace →
      callback.isBlocking = false ∧ Aborting s.trace t (s.tasks t) callback := by
  apply hr.induct (P := fun m => ∀ t callback,
    (t, .refused callback) ∈ m.trace ∨ (t, .aborted callback) ∈ m.trace →
      callback.isBlocking = false ∧ Aborting m.trace t (m.tasks t) callback)
  · intro t callback he
    rcases he with he | he <;> cases he
  · intro a b hprior ha hm t callback he
    obtain ⟨u, popped, pushed, rest, events, h⟩ := hm.turn
    have hrefused (he : .refused callback ∈ events) :
        Aborting b.trace u (b.tasks u) callback := by
      obtain ⟨request, delay, result, rfl⟩ := h.effect.noted he
      rw [h.after]
      cases h.effect with
      | ordinary hq => cases hq
      | accept => simp at he
      | refuse => exact .pending (by simp)
    have haborted (he : .aborted callback ∈ events) : callback.isBlocking = false ∧
        Aborting b.trace u (b.tasks u) callback := by
      have hpopped : popped = [.abort callback] := h.effect.noted he
      subst hpopped
      rw [h.after]
      cases h.effect with
      | ordinary _ _ _ hplain => cases hplain _ he
      | abort hb => exact ⟨hb, .calling (h.mem_trace_iff.mpr (.inr ⟨rfl, he⟩)) (by simp)⟩
    rcases he with he | he
    · have hb := (hprior.move hm).not_isBlocking t _ callback he (.inr rfl)
      rcases h.mem_trace_iff.mp he with he | ⟨rfl, he⟩
      · exact ⟨hb, h.aborting hb (ha t callback (.inl he)).2⟩
      · exact ⟨hb, hrefused he⟩
    · rcases h.mem_trace_iff.mp he with he | ⟨rfl, he⟩
      · obtain ⟨hb, hab⟩ := ha t callback (.inr he)
        exact ⟨hb, h.aborting hb hab⟩
      · exact haborted he

/-- What the receiver of a channel is told, with the history of the channel so far: what is due, at
once. It is told the code once, and only then that none will come. The callback is called once at
most, with the result that it was dispatched with or as aborted, and does nothing but send. Nothing
comes from a callback that is forgotten or has lost its context, and a receiver that has gone is not
asked. -/
structure ReceiverLaw (channel : Nat) (history : List Moment) (s : Bridge) : Prop where
  told : ∀ before receipt after, history = before ++ .asked receipt :: after →
    receipt = .due before
  next : ∀ t receiver rest, s.tasks t = .act (.tryTake receiver) :: rest →
    s.receivers.get? receiver = some channel →
      ∃ s', s.step? t = some s' ∧ s'.tasks t = rest ∧ s'.receipt? t = some (.due history)
  once : ∀ before code after, history = before ++ .asked (.delivered code) :: after →
    ∀ receipt, .asked receipt ∈ after → receipt = .released
  released : ∀ before after, history = before ++ .asked .released :: after →
    ∃ code, .asked (.delivered code) ∈ before
  runs : history.filterMap Moment.ran? = s.trace.filterMap (·.2.sent? channel) ∧
    (history.filterMap Moment.ran?).length ≤ 1
  dispatched : ∀ t callback result, (t, .dispatched callback result) ∈ s.trace →
    callback.sender? = some channel → history.filterMap Moment.ran? = [result] ∨
      history.filterMap Moment.ran? = [] ∧ .invoke callback result ∈ s.tasks t
  aborted : ∀ t callback, (t, .aborted callback) ∈ s.trace → callback.sender? = some channel →
    history.filterMap Moment.ran? = [NamedCode.aborted.number] ∨
      history.filterMap Moment.ran? = [] ∧ .invoke callback NamedCode.aborted.number ∈ s.tasks t
  refused : ∀ t callback, (t, .refused callback) ∈ s.trace → callback.sender? = some channel →
    history.filterMap Moment.ran? = [NamedCode.aborted.number] ∨
      history.filterMap Moment.ran? = [] ∧ (.abort callback ∈ s.tasks t ∨
        .invoke callback NamedCode.aborted.number ∈ s.tasks t)
  forgotten : ∀ t slot callback, s.IsFree t → s.slots.get? slot = some callback →
    callback.sender? = some channel → ∀ later s', Watch channel (s.call t (.forget slot)) later s' →
      ∀ receipt, .asked receipt ∈ history ++ later → receipt = .pending
  lost : ∀ callback ∈ s.callbacks, callback.sender? = some channel →
    ∀ between s', Watch channel s between s' → ∀ other ∈ s'.callbacks,
      other.serial = callback.serial → other.hasNullContext = true →
        ∀ later s'', Watch channel s' later s'' →
          ∀ receipt, .asked receipt ∈ history ++ between ++ later → receipt = .pending
  dropped : ∀ receiver m s', s.receivers.get? receiver = some channel → m.Drops s receiver →
    Moved s m s' → ∀ later s'', Watch channel s' later s'' → ∀ receipt, .asked receipt ∉ later
  run : ∀ t callback result rest, s.tasks t = .invoke callback result :: rest →
    callback.sender? = some channel → ∃ s', s.step? t = some s' ∧ s'.tasks t = rest ∧
      s'.slots = s.slots ∧ s'.receivers = s.receivers ∧ s'.errorSlots = s.errorSlots ∧
        ∀ other, other ≠ channel → s'.channelOf other = s.channelOf other

theorem step?_send (hb : s.tasks t = .invoke callback result :: rest)
    (hsender : callback.sender? = some channel) : ∃ s', s.step? t = some s' ∧
      s'.tasks t = rest ∧ s'.slots = s.slots ∧ s'.receivers = s.receivers ∧
        s'.errorSlots = s.errorSlots ∧
          ∀ other, other ≠ channel → s'.channelOf other = s.channelOf other := by
  obtain ⟨closureName, htarget⟩ := Callback.target_of_sender? hsender
  obtain ⟨s', hstep⟩ : ∃ s', s.step? t = some s' := by
    rw [step?_eq hb]
    simp only [perform?, invoke?, htarget, Option.some.injEq, exists_eq']
  obtain ⟨pushed, events, hturn, hdeed⟩ := deed_step? hb hstep
  obtain ⟨rfl, rfl⟩ := hdeed.invoke_eq
  have hstore := store_step? hb hstep
  simp only [storeAfter, deliver, hsender] at hstore
  refine ⟨s', hstep, ?_, congrArg Store.slots hstore, congrArg Store.receivers hstore, ?_,
    fun other hne => ?_⟩
  · simpa [Callback.opens, htarget, Closure.opens] using hturn.after
  · rw [errorSlots_step? hb hstep]
    exact Function.update_eq_self t s.errorSlots
  · rw [channelOf_modify channel _ rfl (congrArg Store.channels hstore), if_neg (Ne.symm hne)]

theorem Watch.step?_tryTake (hw : Watch channel (fresh.startLoop name) history s)
    (hb : s.tasks t = .act (.tryTake receiver) :: rest)
    (hreceiver : s.receivers.get? receiver = some channel) :
    ∃ s', s.step? t = some s' ∧ s'.tasks t = rest ∧ s'.receipt? t = some (.due history) := by
  have hf : Faithful name s := hw.later
  have hstep : s.step? t = some ((s.setTasks t rest).act t (.tryTake receiver)) := step?_eq hb
  obtain ⟨pushed, events, hturn, hdeed⟩ := deed_step? hb hstep
  obtain ⟨rfl, rfl⟩ := hdeed.act_eq
  refine ⟨_, hstep, hturn.after, ?_⟩
  rw [act_tryTake (by rwa [receivers_setTasks])]
  refine (receipt?_reply_receipt (s := (s.setTasks t rest).collect channel)
    (mem_threads_setTasks hb)).trans ?_
  have hopen := hf.reachable.attended.open (get?_listeners hreceiver)
  have hsame : (s.setTasks t rest).channelOf channel = .after history := by
    rw [← hw.heard.holds hopen]
    simp only [channelOf, channels_setTasks]
  rw [hsame, Channel.tryTake_after]

theorem receipts_follow_runs (hw : Watch channel (fresh.startLoop name) history s) :
    ReceiverLaw channel history s := by
  have hf : Faithful name s := hw.later
  have hr := hf.reachable
  have hheard := hw.heard
  constructor
  · exact fun before receipt after hsplit => hheard.told before _ after hsplit receipt rfl
  · exact fun t receiver rest hb hreceiver => hw.step?_tryTake hb hreceiver
  · intro before code after hsplit receipt hm
    obtain ⟨first, second, rfl⟩ := List.append_of_mem hm
    have hdelivered := hheard.told before _ _ hsplit _ rfl
    have htold := hheard.told (before ++ .asked (.delivered code) :: first) (.asked receipt) second
      (by rw [hsplit]; simp) receipt rfl
    rw [htold, Receipt.due_of_delivered hdelivered.symm]
  · intro before after hsplit
    have htold := hheard.told before _ after hsplit _ rfl
    have hbefore : Guarded ToldGuard before := by
      have hguard := hheard.told
      rw [hsplit] at hguard
      exact (guarded_append.mp hguard).1
    exact hbefore.delivered_of_released htold.symm
  · exact ⟨hheard.runs, by rw [hheard.runs]; exact hf.sent_le_one⟩
  · intro t callback result he hsender
    obtain ⟨rfl, hcalled | htasks⟩ := hr.called t callback result he
    · exact .inl (hw.ran hcalled hsender)
    · have hmem : .invoke callback result ∈ s.tasks .loop := by
        rw [htasks]
        exact List.mem_cons_self
      exact .inr ⟨hw.not_ran hmem (List.mem_singleton.mpr rfl) hsender, hmem⟩
  · intro t callback he hsender
    cases (hr.aborting t callback (.inr he)).2 with
    | pending hm =>
      -- To note the abort was to take the callback off the stack.
      have hzero := (hr.released .decided callback.serial he (by simp [Event.leaves])).tasks t _ hm
      simp [Task.holds, Callback.heldAt, Stage.upTo] at hzero
    | calling _ hm => exact .inr ⟨hw.not_ran hm (List.mem_singleton.mpr rfl) hsender, hm⟩
    | called _ hrun => exact .inl (hw.ran hrun hsender)
  · intro t callback he hsender
    cases (hr.aborting t callback (.inl he)).2 with
    | pending hm => exact .inr ⟨hw.not_ran hm (List.mem_singleton.mpr rfl) hsender, .inl hm⟩
    | calling _ hm => exact .inr ⟨hw.not_ran hm (List.mem_singleton.mpr rfl) hsender, .inr hm⟩
    | called _ hrun => exact .inl (hw.ran hrun hsender)
  · intro t slot callback hfree hslot hsender later s' hl receipt hm
    have hfaithful : (Motion.call t (.forget slot)).IsFaithful s :=
      Motion.isFaithful_call s t (by simp)
    have hnext := hw.next (.call (.forget slot) hfree) hfaithful
    have hnone : (Motion.call t (.forget slot)).moments channel s (s.call t (.forget slot)) = [] :=
      rfl
    rw [hnone, List.append_nil] at hnext
    exact (hf.mute_of_forgotten hfree hslot hsender).pending hnext hl hm
  · intro callback hc hsender between s' hbetween other ho hserial hnull later s'' hl receipt hm
    have hmute := hf.mute_of_hasNullContext hbetween.later hc hsender ho hserial hnull
    exact hmute.pending (hw.trans hbetween) hl hm
  · exact fun receiver m s' hreceiver hdrops hmoved later s'' hl =>
      ((Deaf.of_drops hr hreceiver hdrops hmoved).watch (hr.move hmoved.move) hl).2
  · exact fun t callback result rest hb hsender => step?_send hb hsender

/-- The callback is posted and dispatched, and its receiver asks before and twice after that. -/
theorem receipts_follow_runs_posted : ∃ history s,
    Watch 0 (fresh.startLoop "loop") history s ∧
      history = [.asked .pending, .ran 7, .asked (.delivered (.bytes 7)), .asked .released] ∧
        ReceiverLaw 0 history s := by
  have hstart : Watch 0 (fresh.startLoop "loop") [] (fresh.startLoop "loop") := .start
  have hput := hstart.call .main (.put 1 false (.channel "answer" 1)) [] (by decide) (by decide)
    (by decide) (by simp)
  have hearly := hput.call .main (.act (.tryTake 1)) [.main] (by decide +kernel) (by decide)
    (by decide +kernel) (by simp)
  have hpost := hearly.call .main (.offer 1 ⟨.post, .poster, 0, 7⟩)
    (List.replicate 6 .main ++ List.replicate 4 .loop) (by decide +kernel) (by decide)
    (by decide +kernel) (by simp)
  have hfirst := hpost.call .main (.act (.tryTake 1)) [.main] (by decide +kernel) (by decide)
    (by decide +kernel) (by simp)
  have hagain := hfirst.call .main (.act (.tryTake 1)) [.main] (by decide +kernel) (by decide)
    (by decide +kernel) (by simp)
  exact ⟨_, _, hagain, by decide +kernel, receipts_follow_runs hagain⟩

end Bridge
end HostBridge
