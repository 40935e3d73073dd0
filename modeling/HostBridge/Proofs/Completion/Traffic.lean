import HostBridge.Proofs.Completion.Once

/-!
# Traffic on the channels

What a move does to the channels and to those who listen to them, and what it comes to for one
channel: its callback is called, or its receiver is told something. A channel has one listener at
most, and none when its receiver has gone.
-/
namespace HostBridge

inductive Moment
  | ran (result : Int32)
  | asked (receipt : Receipt)
  deriving DecidableEq

def Moment.listAt (channel : Nat) : Option (Nat × Moment) → List Moment
  | some (other, moment) => if other = channel then [moment] else []
  | none => []

def Channel.pass (channel : Channel) : Moment → Channel
  | .ran result => channel.send (Code.receive result).1
  | .asked _ => channel.tryTake.2

theorem Channel.pass_eq_abandoned (channel : Channel) (moment : Moment) :
    channel.pass moment = .abandoned ↔ channel = .abandoned := by
  cases channel <;> cases moment <;> simp [pass, send, tryTake]

mutual

def Task.listens (channel : Nat) : Task → Nat
  | .await other => if other = channel then 1 else 0
  | .delegate tasks => tasksListen channel tasks
  | _ => 0

def tasksListen (channel : Nat) : List Task → Nat
  | [] => 0
  | task :: rest => task.listens channel + tasksListen channel rest

end

namespace Weight

def listening (channel : Nat) : Weight where
  task := Task.listens channel
  callback _ := 0
  item _ := 0
  event := Function.const Event 0
  unmade _ := 0
  event_plain _ _ := rfl

theorem tasks_listening (channel : Nat) (tasks : List Task) :
    (listening channel).tasks tasks = tasksListen channel tasks := by
  induction tasks with
  | nil => simp [tasksListen]
  | cons task rest ih => simp only [tasks_cons, tasksListen, ih]; rfl

theorem declines_listening (channel : Nat) : (listening channel).Declines 0 where
  least _ := Nat.zero_le _
  invoke _ _ := Nat.zero_le _
  enterBody _ _ _ _ _ _ := Nat.zero_le _
  abort _ := Nat.zero_le _
  body _ _ _ _ := by simp [listening, Task.listens]
  run _ _ _ _ := Nat.zero_le _
  post _ _ _ _ := by simp [listening, Task.listens, tasksListen]
  quit _ := by simp [listening, Task.listens, tasksListen]
  joinLoop := by simp [listening, Bridge.joinTasks, Task.listens]
  dropLoop := by simp [listening, Bridge.dropTasks, Task.listens]
  waive _ _ _ := Nat.zero_le _
  ask _ _ _ := Nat.zero_le _
  enter _ := Nat.zero_le _
  accept _ _ _ _ := by simp [listening, Task.listens]
  refuse _ _ _ _ _ := by simp [listening, Task.listens]
  decideQuit := Nat.zero_le _
  answer _ _ _ _ := Nat.zero_le _
  take _ _ _ := Nat.zero_le _
  dispatch _ _ _ := Nat.zero_le _
  delegate tasks _ := by
    rw [tasks_listening]
    simp [listening, Task.listens]
  discard := Nat.zero_le _

end Weight

namespace Bridge

def channelOf (s : Bridge) (channel : Nat) : Channel := s.channels.getD channel .abandoned

def listeners (s : Bridge) (channel : Nat) : Nat :=
  totalOf (fun entry => if entry.2 = channel then 1 else 0) s.receivers +
    s.tally (.listening channel)

def Calmer (s s' : Bridge) : Prop :=
  ∀ channel, s'.tally (.listening channel) ≤ s.tally (.listening channel)

def receipt? (s : Bridge) (t : ThreadId) : Option Receipt :=
  match (s.thread t).reply with
  | .receipt receipt => some receipt
  | _ => none

def told? (s : Bridge) (t : ThreadId) (channel? : Option Nat) : Option (Nat × Moment) :=
  channel?.bind fun channel => (s.receipt? t).map fun receipt => (channel, .asked receipt)

end Bridge

open Bridge

/-- What a task comes to, and at which channel. What a receiver is told is the reply to the
thread that asks. -/
def Task.moment? (s s' : Bridge) (t : ThreadId) : Task → Option (Nat × Moment)
  | .invoke callback result => callback.sender?.map (·, .ran result)
  | .act (.tryTake receiver) => s'.told? t (s.receivers.get? receiver)
  | .await channel => s'.told? t (some channel)
  | _ => none

def Motion.moment? (s s' : Bridge) : Motion → Option (Nat × Moment)
  | .step t => (s.tasks t).head?.bind (Task.moment? s s' t)
  | .call t (.poll receiver) => s'.told? t (s.receivers.get? receiver)
  | _ => none

namespace Bridge

inductive Traffic (s s' : Bridge) : Option (Nat × Moment) → Prop
  | quiet : s'.receivers = s.receivers → s'.channels = s.channels → s.Calmer s' →
      Traffic s s' none
  | ran {callback : Callback} {channel : Nat} {result : Int32} : callback ∈ s.callbacks →
      callback.sender? = some channel → s'.receivers = s.receivers →
      s'.channels = s.channels.modify channel (·.send (Code.receive result).1) → s.Calmer s' →
      Traffic s s' (some (channel, .ran result))
  | asked {channel : Nat} : 0 < s.listeners channel → s'.receivers = s.receivers →
      s'.channels = s.channels.set channel (s.channelOf channel).tryTake.2 → s.Calmer s' →
      Traffic s s' (some (channel, .asked (s.channelOf channel).tryTake.1))
  | handed {receiver channel : Nat} : s.receivers.get? receiver = some channel →
      s'.receivers = s.receivers.erase receiver → s'.channels = s.channels →
      (∀ other, s'.tally (.listening other) ≤
        s.tally (.listening other) + if channel = other then 1 else 0) → Traffic s s' none
  | dropped (receiver : Nat) : s'.receivers = (s.abandon receiver).receivers →
      s'.channels = (s.abandon receiver).channels → s.Calmer s' → Traffic s s' none
  | opened (receiver : Nat) :
      s'.receivers = (s.abandon receiver).receivers.put receiver s.channels.length →
      s'.channels = (s.abandon receiver).channels ++ [.pending] → s.Calmer s' → Traffic s s' none

variable {name : String} {s s' : Bridge} {t : ThreadId} {channel receiver : Nat}

theorem receipt?_reply_receipt {receipt : Receipt} (ht : t ∈ s.threads) :
    (s.reply t (.receipt receipt)).receipt? t = some receipt := by
  have hself := s.thread_updateThread_self t
    (fun thread => { thread with reply := .receipt receipt }) ht
  simp only [receipt?, Bridge.reply, hself]

theorem receipt?_reply_panicked {message : Option String} (ht : t ∈ s.threads) :
    (s.reply t (.panicked message)).receipt? t = none := by
  have hself := s.thread_updateThread_self t
    (fun thread => { thread with reply := .panicked message }) ht
  simp only [receipt?, Bridge.reply, hself]

theorem told?_receipt {receipt : Receipt} (h : s.receipt? t = some receipt) :
    s.told? t (some channel) = some (channel, .asked receipt) := by
  simp only [told?, h, Option.bind_some, Option.map_some]

theorem told?_none (h : s.receipt? t = none) : s.told? t (some channel) = none := by
  simp only [told?, h, Option.bind_some, Option.map_none]

theorem get?_listeners (h : s.receivers.get? receiver = some channel) :
    0 < s.listeners channel := by
  have hle := le_totalOf (fun entry : Nat × Nat => if entry.2 = channel then 1 else 0)
    (Table.mem_of_get? h)
  simp only [if_true] at hle
  unfold listeners
  omega

theorem await_listeners {rest : List Task} (h : s.tasks t = .await channel :: rest) :
    0 < s.listeners channel := by
  have hle := s.tasks_add_events_le_tally (.listening channel) t
  have hself : (Weight.listening channel).task (.await channel) = 1 := by
    simp [Weight.listening, Task.listens]
  rw [show (s.thread t).tasks = .await channel :: rest from h, Weight.tasks_cons] at hle
  unfold listeners
  omega

theorem await?_cases (h : s.await? t channel = some s') :
    s' = s.reply t (.panicked (some Channel.spentMessage)) ∨
      s' = (s.collect channel).reply t (.receipt (s.channelOf channel).tryTake.1) := by
  unfold await? at h
  split at h
  · cases h
  · next receipt resolved _ hpoll =>
    cases h
    simp only [Channel.poll] at hpoll
    split at hpoll <;> cases hpoll
    exact .inr rfl
  · cases h
    exact .inl rfl

theorem poll_cases (h : s.receivers.get? receiver = some channel) :
    s.poll receiver = (.panicked (some Channel.spentMessage), s) ∨
      s.poll receiver = (.receipt (s.channelOf channel).tryTake.1, s.collect channel) := by
  unfold poll
  rw [h]
  dsimp only
  split
  · next receipt resolved hpoll =>
    simp only [Channel.poll] at hpoll
    split at hpoll <;> cases hpoll
    exact .inr rfl
  · exact .inl rfl

theorem act_tryTake (h : s.receivers.get? receiver = some channel) :
    s.act t (.tryTake receiver) =
      (s.collect channel).reply t (.receipt (s.channelOf channel).tryTake.1) := by
  simp only [act, Bridge.tryTake, h, channelOf, collect]

theorem traffic_make {optional : Bool} {recipe : Recipe}
    (hreceivers : s'.receivers = (s.make optional recipe).2.receivers)
    (hchannels : s'.channels = (s.make optional recipe).2.channels) (hcalm : s.Calmer s') :
    Traffic s s' none := by
  cases recipe with
  | channel name receiver =>
    refine .opened receiver (hreceivers.trans ?_) hchannels hcalm
    rw [← s.length_channels_abandon receiver]
    rfl
  | _ => exact .quiet hreceivers hchannels hcalm

theorem traffic_step? (h : s.step? t = some s') :
    Traffic s s' ((Motion.step t).moment? s s') := by
  obtain ⟨task, rest, hb⟩ := exists_task h
  have hstore := store_step? hb h
  have hreceivers := congrArg Store.receivers hstore
  have hchannels := congrArg Store.channels hstore
  have hcalm : s.Calmer s' := fun channel =>
    tally_step?_le (Weight.declines_listening channel) h
  have ht : t ∈ (s.setTasks t rest).threads := mem_threads_setTasks hb
  have hp : (s.setTasks t rest).perform? t task = some s' := step?_eq hb ▸ h
  simp only [Motion.moment?, hb, List.head?_cons, Option.bind_some]
  cases task with
  | invoke callback result =>
    simp only [storeAfter, deliver] at hreceivers hchannels
    simp only [Task.moment?]
    cases hsender : callback.sender? with
    | none =>
      rw [hsender] at hreceivers hchannels
      exact .quiet hreceivers hchannels hcalm
    | some channel =>
      rw [hsender] at hreceivers hchannels
      have htask : .invoke callback result ∈ s.tasks t := by
        rw [hb]
        exact List.mem_cons_self
      have hmem := mem_callbacks_of_task htask (List.mem_singleton.mpr rfl)
      exact .ran hmem hsender hreceivers hchannels hcalm
  | act action =>
    cases action with
    | run slot result =>
      simp only [storeAfter, unload] at hreceivers hchannels
      cases hslot : s.slots.get? slot <;> rw [hslot] at hreceivers hchannels <;>
        exact .quiet hreceivers hchannels hcalm
    | tryTake receiver =>
      simp only [storeAfter, Bridge.tryTake] at hreceivers hchannels
      simp only [Task.moment?]
      cases hr : s.receivers.get? receiver with
      | none =>
        rw [hr] at hreceivers hchannels
        exact .quiet hreceivers hchannels hcalm
      | some channel =>
        rw [hr] at hreceivers hchannels
        have htold : s'.receipt? t = some (s.channelOf channel).tryTake.1 := by
          cases hp
          rw [act_tryTake (by rwa [receivers_setTasks])]
          refine (receipt?_reply_receipt (s := (s.setTasks t rest).collect channel) ht).trans ?_
          simp only [channelOf, channels_setTasks]
        rw [told?_receipt htold]
        exact .asked (get?_listeners hr) hreceivers hchannels hcalm
    | post order optional recipe =>
      simp only [storeAfter] at hreceivers hchannels
      split at hreceivers
      · next hreach =>
        rw [if_pos hreach] at hchannels
        exact traffic_make hreceivers hchannels hcalm
      · next hreach =>
        rw [if_neg hreach] at hchannels
        exact .quiet hreceivers hchannels hcalm
    | _ => exact .quiet hreceivers hchannels hcalm
  | await channel =>
    simp only [Task.moment?]
    rcases await?_cases hp with hs | hs
    · -- To wait for a code that has been collected is to panic, and tells the receiver nothing.
      have htold : s'.receipt? t = none := by
        rw [hs]
        exact receipt?_reply_panicked ht
      have hsame : s'.store = s.store := by rw [hs, store_reply, store_setTasks]
      rw [told?_none htold]
      exact .quiet (congrArg Store.receivers hsame) (congrArg Store.channels hsame) hcalm
    · have htold : s'.receipt? t = some (s.channelOf channel).tryTake.1 := by
        rw [hs]
        refine (receipt?_reply_receipt (s := (s.setTasks t rest).collect channel) ht).trans ?_
        simp only [channelOf, channels_setTasks]
      rw [told?_receipt htold]
      exact .asked (await_listeners hb) hreceivers hchannels hcalm
  | _ => exact .quiet hreceivers hchannels hcalm

theorem Calmer.push {m : Bridge} (hm : s.Calmer m) (tasks : List Task)
    (h : ∀ channel, (Weight.listening channel).tasks tasks = 0) : s.Calmer (m.push t tasks) := by
  intro channel
  have hle := m.tally_push_le (.listening channel) t tasks
  rw [h channel] at hle
  exact Nat.le_trans hle (hm channel)

theorem Calmer.reply {m : Bridge} (hm : s.Calmer m) (reply : Reply) :
    s.Calmer (m.reply t reply) :=
  fun channel => Nat.le_trans (m.tally_reply_le _ t reply) (hm channel)

theorem calmer_make (optional : Bool) (recipe : Recipe) : s.Calmer (s.make optional recipe).2 :=
  fun channel => Nat.le_of_eq (s.tally_make (.listening channel) optional recipe)

theorem calmer_takeOut (slot : Nat) (tasks : Callback → List Task)
    (h : ∀ callback channel, (Weight.listening channel).tasks (tasks callback) = 0) :
    s.Calmer (s.takeOut t slot tasks) := by
  have hrefl : s.Calmer s := fun channel => Nat.le_refl _
  unfold takeOut
  split
  · exact hrefl.reply _
  · next callback hslot =>
    have herase : s.Calmer { s with slots := s.slots.erase slot } := fun channel =>
      Nat.le_of_add_right_le (tally_erase (.listening channel) hslot)
    exact herase.push _ (h callback)

theorem tally_listening_slots (slots : Table Callback) :
    { s with slots }.tally (.listening channel) = s.tally (.listening channel) := by
  simp only [tally, Weight.listening, totalOf_zero]

theorem calmer_call {call : Call} (h : ∀ receiver, call ≠ .await receiver) :
    s.Calmer (s.call t call) := by
  have hrefl : s.Calmer s := fun channel => Nat.le_refl _
  cases call with
  | put slot optional recipe =>
    intro channel
    exact Nat.le_trans (Nat.le_of_eq (tally_listening_slots _))
      (calmer_make optional recipe channel)
  | change slot target flags =>
    simp only [Bridge.call]
    split
    · exact hrefl.reply _
    · exact fun channel => Nat.le_of_eq (tally_listening_slots _)
  | await receiver => exact absurd rfl (h receiver)
  | poll receiver =>
    cases hr : s.receivers.get? receiver with
    | none =>
      simp only [Bridge.call, poll, hr]
      exact hrefl.reply _
    | some channel =>
      rcases poll_cases hr with hpoll | hpoll
      · simp only [Bridge.call, hpoll]
        exact hrefl.reply _
      · simp only [Bridge.call, hpoll]
        have hsame : s.Calmer (s.collect channel) := hrefl
        exact hsame.reply _
  | dropReceiver receiver => exact fun channel => Nat.le_of_eq (tally_abandon ..)
  | slotCall call =>
    have hset : s.Calmer (s.setSlot t ((s.thread t).slot.answer call).2) :=
      fun channel => s.tally_setSlot_le _ t _
    exact hset.reply _
  | closeLatch => exact hrefl
  | offer | invoke | abort | forget => exact calmer_takeOut _ _ fun _ _ => rfl
  | act | clonePoster | dropPoster | openLatch => exact hrefl.push _ fun _ => rfl

theorem traffic_call (hfree : s.IsFree t) (call : Call) :
    Traffic s (s.call t call) ((Motion.call t call).moment? s (s.call t call)) := by
  have hstore := store_call (s := s) (t := t) call
  have hreceivers := congrArg Store.receivers hstore
  have hchannels := congrArg Store.channels hstore
  have hquiet (hcalm : s.Calmer (s.call t call)) (hsame : (s.storeCalled call).receivers =
      s.receivers ∧ (s.storeCalled call).channels = s.channels) : Traffic s (s.call t call) none :=
    .quiet (hreceivers.trans hsame.1) (hchannels.trans hsame.2) hcalm
  have htaken (slot : Nat) (hcalm : s.Calmer (s.call t call))
      (hcall : s.storeCalled call = s.storeWithout slot) : Traffic s (s.call t call) none := by
    refine hquiet hcalm ?_
    rw [hcall]
    unfold storeWithout
    split <;> exact ⟨rfl, rfl⟩
  cases call with
  | put slot optional recipe => exact traffic_make hreceivers hchannels (calmer_call (by simp))
  | change slot target flags =>
    refine hquiet (calmer_call (by simp)) ?_
    simp only [storeCalled]
    cases s.slots.get? slot <;> exact ⟨rfl, rfl⟩
  | offer slot order => exact htaken slot (calmer_call (by simp)) rfl
  | invoke slot result => exact htaken slot (calmer_call (by simp)) rfl
  | abort slot => exact htaken slot (calmer_call (by simp)) rfl
  | forget slot => exact htaken slot (calmer_call (by simp)) rfl
  | poll receiver =>
    have hcalm : s.Calmer (s.call t (.poll receiver)) := calmer_call (by simp)
    simp only [storeCalled] at hreceivers hchannels
    simp only [Motion.moment?]
    cases hr : s.receivers.get? receiver with
    | none =>
      simp only [poll, hr] at hreceivers hchannels
      exact .quiet hreceivers hchannels hcalm
    | some channel =>
      rcases poll_cases hr with hpoll | hpoll
      · rw [hpoll] at hreceivers hchannels
        have htold : (s.call t (.poll receiver)).receipt? t = none := by
          simp only [Bridge.call, hpoll]
          exact receipt?_reply_panicked hfree.mem_threads
        rw [told?_none htold]
        exact .quiet hreceivers hchannels hcalm
      · rw [hpoll] at hreceivers hchannels
        have htold : (s.call t (.poll receiver)).receipt? t =
            some (s.channelOf channel).tryTake.1 := by
          simp only [Bridge.call, hpoll]
          exact receipt?_reply_receipt (s := s.collect channel) hfree.mem_threads
        rw [told?_receipt htold]
        exact .asked (get?_listeners hr) hreceivers hchannels hcalm
  | await receiver =>
    simp only [storeCalled] at hreceivers hchannels
    cases hr : s.receivers.get? receiver with
    | none =>
      simp only [hr] at hreceivers hchannels
      have hcalm : s.Calmer (s.call t (.await receiver)) := by
        simp only [Bridge.call, hr]
        exact fun channel => s.tally_reply_le _ t _
      exact .quiet hreceivers hchannels hcalm
    | some channel =>
      simp only [hr] at hreceivers hchannels
      refine .handed hr hreceivers hchannels fun other => ?_
      simp only [Bridge.call, hr]
      have hle := tally_push_le (.listening other)
        { s with receivers := s.receivers.erase receiver } t [.await channel]
      have hsame : { s with receivers := s.receivers.erase receiver }.tally (.listening other) =
        s.tally (.listening other) := rfl
      rw [hsame] at hle
      simpa [Weight.listening, Task.listens] using hle
  | dropReceiver receiver => exact .dropped receiver hreceivers hchannels (calmer_call (by simp))
  | act | slotCall | clonePoster | dropPoster | closeLatch | openLatch =>
    exact hquiet (calmer_call (by simp)) ⟨rfl, rfl⟩

theorem traffic {m : Motion} (h : Moved s m s') : Traffic s s' (m.moment? s s') := by
  cases h with
  | step h => exact traffic_step? h
  | call call hfree => exact traffic_call hfree call
  | enlist => exact .quiet rfl rfl fun channel => Nat.le_of_eq (tally_enlist _ s [])

theorem channelOf_modify (other : Nat) (f : Channel → Channel) (hf : f .abandoned = .abandoned)
    (hs : s'.channels = s.channels.modify other f) :
    s'.channelOf channel = if other = channel then f (s.channelOf channel)
      else s.channelOf channel := by
  simp only [channelOf, hs, List.getD_eq_getElem?_getD, List.getElem?_modify]
  split
  · next heq =>
    subst heq
    cases s.channels[other]? with
    | none => exact hf.symm
    | some c => simp
  · simp

theorem channelOf_set (other : Nat) (f : Channel → Channel) (hf : f .abandoned = .abandoned)
    (hs : s'.channels = s.channels.set other (f (s.channelOf other))) :
    s'.channelOf channel = if other = channel then f (s.channelOf channel)
      else s.channelOf channel := by
  simp only [channelOf, hs, List.getD_eq_getElem?_getD, List.getElem?_set]
  split
  · next heq =>
    subst heq
    split
    · rfl
    · next hlt =>
      rw [List.getElem?_eq_none (by omega)]
      exact hf.symm
  · rfl

theorem channelOf_abandon (receiver channel : Nat) : (s.abandon receiver).channelOf channel =
    if s.receivers.get? receiver = some channel then .abandoned else s.channelOf channel := by
  unfold abandon
  cases hr : s.receivers.get? receiver with
  | none => rfl
  | some other =>
    simp only [Option.some.injEq]
    exact channelOf_modify other .abandon rfl rfl

theorem channelOf_opened (hs : s'.channels = s.channels ++ [.pending]) :
    s'.channelOf channel = if channel = s.channels.length then .pending
      else s.channelOf channel := by
  simp only [channelOf, hs, List.getD_eq_getElem?_getD]
  rcases Nat.lt_trichotomy channel s.channels.length with hlt | heq | hgt
  · rw [List.getElem?_append_left hlt, if_neg (by omega)]
  · rw [if_pos heq, heq]
    simp
  · rw [List.getElem?_eq_none (by simp; omega), List.getElem?_eq_none (by omega),
      if_neg (by omega)]

theorem Traffic.channelOf {moment? : Option (Nat × Moment)} (h : Traffic s s' moment?)
    (channel : Nat) : s'.channelOf channel = .abandoned ∨
      channel = s.channels.length ∧ s'.channelOf channel = .pending ∧ moment? = none ∨
      s'.channelOf channel =
        (Moment.listAt channel moment?).foldl Channel.pass (s.channelOf channel) := by
  cases h with
  | quiet _ hchannels => exact .inr (.inr (by simp only [Bridge.channelOf, hchannels]; rfl))
  | handed _ _ hchannels => exact .inr (.inr (by simp only [Bridge.channelOf, hchannels]; rfl))
  | @ran _ other result _ _ _ hchannels =>
    right; right
    rw [channelOf_modify other _ rfl hchannels, Moment.listAt]
    split <;> rfl
  | @asked other _ _ hchannels =>
    right; right
    rw [channelOf_set other (·.tryTake.2) rfl hchannels, Moment.listAt]
    split <;> rfl
  | dropped receiver _ hchannels =>
    rw [show s'.channelOf channel = (s.abandon receiver).channelOf channel by
      simp only [Bridge.channelOf, hchannels], channelOf_abandon]
    split
    · exact .inl rfl
    · exact .inr (.inr rfl)
  | opened receiver _ hchannels =>
    rw [channelOf_opened (s := s.abandon receiver) hchannels, length_channels_abandon,
      channelOf_abandon]
    split
    · next heq => exact .inr (.inl ⟨heq, rfl, rfl⟩)
    · split
      · exact .inl rfl
      · exact .inr (.inr rfl)

/-- A channel has one listener at most, and none when it is abandoned. -/
def Attended (s : Bridge) : Prop :=
  ∀ channel, s.listeners channel ≤ if s.channelOf channel = .abandoned then 0 else 1

theorem Attended.abandon (hs : Attended s) (receiver : Nat) : Attended (s.abandon receiver) := by
  intro channel
  have hle := hs channel
  rw [channelOf_abandon]
  unfold listeners at hle ⊢
  rw [tally_abandon]
  unfold Bridge.abandon
  cases hr : s.receivers.get? receiver with
  | none => simpa using hle
  | some other =>
    have herase := Table.totalOf_erase_of_get? (fun c => if c = channel then 1 else 0) hr
    simp only [Option.some.injEq]
    split
    · next heq =>
      rw [if_pos heq] at herase
      split at hle <;> omega
    · next hne =>
      rw [if_neg hne] at herase
      omega

theorem Attended.traffic {moment? : Option (Nat × Moment)} (hs : Attended s)
    (h : Traffic s s' moment?) : Attended s' := by
  have hsame (hreceivers : s'.receivers = s.receivers) (hcalm : s.Calmer s')
      (habandoned : ∀ channel, s'.channelOf channel = .abandoned ↔
        s.channelOf channel = .abandoned) : Attended s' := by
    intro channel
    have hle := hs channel
    have htally := hcalm channel
    unfold listeners at hle ⊢
    simp only [habandoned, hreceivers]
    omega
  cases h with
  | quiet hreceivers hchannels hcalm =>
    exact hsame hreceivers hcalm fun channel => by simp only [channelOf, hchannels]
  | @ran _ other result _ _ hreceivers hchannels hcalm =>
    refine hsame hreceivers hcalm fun channel => ?_
    rw [channelOf_modify other _ rfl hchannels]
    split
    · exact (s.channelOf channel).pass_eq_abandoned (.ran result)
    · rfl
  | @asked other _ hreceivers hchannels hcalm =>
    refine hsame hreceivers hcalm fun channel => ?_
    rw [channelOf_set other (·.tryTake.2) rfl hchannels]
    split
    · exact (s.channelOf channel).pass_eq_abandoned (.asked .pending)
    · rfl
  | @handed receiver other hr hreceivers hchannels hcalm =>
    -- The thread counts from now on where the receiver did.
    intro channel
    have hle := hs channel
    have htally := hcalm channel
    have herase := Table.totalOf_erase_of_get? (fun c => if c = channel then 1 else 0) hr
    rw [show s'.channelOf channel = s.channelOf channel by simp only [channelOf, hchannels]]
    unfold listeners at hle ⊢
    rw [hreceivers]
    omega
  | dropped receiver hreceivers hchannels hcalm =>
    intro channel
    have hle := hs.abandon receiver channel
    have htally := hcalm channel
    rw [show s'.channelOf channel = (s.abandon receiver).channelOf channel by
      simp only [channelOf, hchannels]]
    unfold listeners at hle ⊢
    rw [tally_abandon] at hle
    rw [hreceivers]
    omega
  | opened receiver hreceivers hchannels hcalm =>
    intro channel
    have hle := hs.abandon receiver channel
    have htally := hcalm channel
    have herase := Table.totalOf_erase_le (fun c => if c = channel then 1 else 0)
      (s.abandon receiver).receivers receiver
    rw [channelOf_opened (s := s.abandon receiver) hchannels, length_channels_abandon]
    unfold listeners at hle ⊢
    rw [tally_abandon] at hle
    simp only [hreceivers, Table.put, totalOf_cons]
    by_cases heq : channel = s.channels.length
    · -- Nobody has listened to the new channel before.
      have hnew : (s.abandon receiver).channelOf channel = .abandoned := by
        rw [channelOf, List.getD_eq_getElem?_getD, List.getElem?_eq_none]
        · rfl
        · exact Nat.le_of_eq ((s.length_channels_abandon receiver).trans heq.symm)
      rw [if_pos hnew] at hle
      simp only [heq, if_true, reduceCtorEq, if_false] at hle herase htally ⊢
      omega
    · rw [if_neg heq, if_neg (Ne.symm heq)]
      omega

theorem Reachable.attended (hr : Reachable name s) : Attended s := by
  apply hr.induct (P := Attended)
  · exact fun channel => Nat.zero_le _
  · intro a b _ ha hm
    obtain ⟨m, hmoved⟩ := hm.moved
    exact ha.traffic (traffic hmoved)

theorem Attended.open (hs : Attended s) (h : 0 < s.listeners channel) :
    s.channelOf channel ≠ .abandoned := by
  intro habandoned
  have hle := hs channel
  rw [if_pos habandoned] at hle
  omega

end Bridge
end HostBridge
