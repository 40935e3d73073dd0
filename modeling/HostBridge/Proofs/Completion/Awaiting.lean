import HostBridge.Proofs.Completion.Receivers

/-!
# Waiting for a code

To wait with a receiver is to be told what is due as soon as anything is, with one exception: a
receiver that has been told the code already must not be waited with. Asking such a receiver again
is answered, waiting with it is a mistake that ends in a panic.
-/
namespace HostBridge

theorem Table.get?_erase {α : Type} (table : Table α) (key : Nat) :
    (table.erase key).get? key = none := by
  rw [get?, List.lookup_eq_none_iff]
  intro entry hentry
  simpa using Ne.symm (mem_erase.mp hentry).2

def Reply.ofWait? : Receipt → Option Reply
  | .pending => none
  | .delivered answer => some (.receipt (.delivered answer))
  | .released => some (.panicked (some Channel.spentMessage))

theorem Channel.poll_after {history : List Moment} (h : after history ≠ .abandoned) :
    (after history).poll = match Receipt.due history with
      | .released => (none, .taken)
      | receipt => (some receipt, (after history).tryTake.2) := by
  rw [← tryTake_after history]
  cases hc : after history with
  | abandoned => exact absurd hc h
  | _ => rfl

namespace Receipt

variable {history : List Moment} {code : Code} {result : Int32}

theorem due_of_untold (hg : Guarded ToldGuard history)
    (hran : history.filterMap Moment.ran? = [result])
    (huntold : ∀ code, .asked (.delivered code) ∉ history) :
    due history = .delivered (Code.receive result).1 := by
  rcases due_cases history with hnone | ⟨asks, first, later, rfl, hasks⟩
  · have hmem : result ∈ history.filterMap Moment.ran? := by simp [hran]
    exact absurd (Moment.mem_filterMap_ran?.mp hmem) (hnone result)
  · have hfirst : first = result := by
      have hmem : first ∈ (asks ++ .ran first :: later).filterMap Moment.ran? :=
        Moment.mem_filterMap_ran?.mpr (by simp)
      rw [hran] at hmem
      exact List.mem_singleton.mp hmem
    subst hfirst
    rw [due_ran hasks]
    split
    · next hany =>
      -- The first to ask after the call would have been told the code.
      obtain ⟨before, receipt, after, rfl, hnone⟩ := first_asked hany
      have htold := hg (asks ++ .ran first :: before) (.asked receipt) after (by simp) receipt rfl
      rw [due_ran hasks, hnone, if_neg Bool.false_ne_true] at htold
      exact absurd (by simp [htold]) (huntold (Code.receive first).1)
    · rfl

theorem due_of_told (hg : Guarded ToldGuard history) (htold : .asked (.delivered code) ∈ history) :
    due history = .released := by
  obtain ⟨before, after, rfl⟩ := List.append_of_mem htold
  have hdelivered := hg before (.asked (.delivered code)) after rfl _ rfl
  exact due_of_delivered hdelivered.symm _

end Receipt

namespace Bridge

variable {name : String} {s s' : Bridge} {t : ThreadId} {channel receiver : Nat}
  {history : List Moment} {rest : List Task}

theorem reply_of_receipt? {receipt : Receipt} (h : s.receipt? t = some receipt) :
    (s.thread t).reply = .receipt receipt := by
  unfold receipt? at h
  split at h
  · next hreply =>
    cases h
    exact hreply
  · cases h

theorem thread_reply {reply : Reply} (ht : t ∈ s.threads) :
    ((s.reply t reply).thread t).reply = reply := by
  have hself := s.thread_updateThread_self t (fun thread => { thread with reply }) ht
  simp only [Bridge.reply, hself]

section waiting
variable (hw : Watch channel (fresh.startLoop name) history s)
  (hb : s.tasks t = .await channel :: rest)

include hw hb

theorem Watch.polled : (s.setTasks t rest).await? t channel = s.step? t ∧
    (s.setTasks t rest).channels.getD channel .abandoned = .after history ∧
      Channel.after history ≠ .abandoned := by
  have hf : Faithful name s := hw.later
  have hopen := hf.reachable.attended.open (await_listeners hb)
  refine ⟨(step?_eq hb).symm, ?_, by rwa [← hw.heard.holds hopen]⟩
  rw [← hw.heard.holds hopen]
  simp only [channelOf, channels_setTasks]

theorem Watch.step?_await_eq_none (hdue : Receipt.due history = .pending) : s.step? t = none := by
  obtain ⟨hstep, hholds, hopen⟩ := hw.polled hb
  have hpoll := Channel.poll_after hopen
  rw [hdue] at hpoll
  simp only [← hstep, await?, hholds, hpoll]

theorem Watch.step?_await {reply : Reply} (hdue : Reply.ofWait? (.due history) = some reply) :
    ∃ s', s.step? t = some s' ∧ s'.tasks t = rest ∧ (s'.thread t).reply = reply := by
  obtain ⟨hstep, hholds, hopen⟩ := hw.polled hb
  have hpoll := Channel.poll_after hopen
  have ht := mem_threads_setTasks hb
  -- What is left to do is the same however the wait ends.
  have hends {s' : Bridge} (h : (s.setTasks t rest).await? t channel = some s')
      (hreply : (s'.thread t).reply = reply) :
      ∃ s', s.step? t = some s' ∧ s'.tasks t = rest ∧ (s'.thread t).reply = reply := by
    refine ⟨s', hstep ▸ h, ?_, hreply⟩
    rw [(frame_await? h).own, tasks_setTasks_of_cons hb]
    rfl
  cases h : Receipt.due history with
  | pending =>
    rw [h] at hdue
    cases hdue
  | delivered code =>
    rw [h] at hdue hpoll
    cases hdue
    have hawait : (s.setTasks t rest).await? t channel = some (({ s.setTasks t rest with
        channels := (s.setTasks t rest).channels.set channel (Channel.after history).tryTake.2 } :
          Bridge).reply t (.receipt (.delivered code))) := by
      simp only [await?, hholds, hpoll]
    exact hends hawait (thread_reply ht)
  | released =>
    rw [h] at hdue hpoll
    cases hdue
    have hawait : (s.setTasks t rest).await? t channel =
        some ((s.setTasks t rest).reply t (.panicked (some Channel.spentMessage))) := by
      simp only [await?, hholds, hpoll]
    exact hends hawait (thread_reply ht)

end waiting

/-- What a thread comes to that waits with a receiver, which nobody else can ask any more, after a
history of its channel. Nothing is told before the callback has been called, and a code that nobody
has been told is told at once. To wait for a code that has been told is to panic. Whoever asks
instead is told the same code, or then that none will come. -/
structure WaitLaw (channel : Nat) (history : List Moment) (s : Bridge) : Prop where
  begun : ∀ t receiver, s.IsFree t → s.receivers.get? receiver = some channel →
    (s.call t (.await receiver)).tasks t = .await channel :: s.tasks t ∧
      (s.call t (.await receiver)).receivers.get? receiver = none ∧
        Watch channel s [] (s.call t (.await receiver))
  waiting : ∀ t rest, s.tasks t = .await channel :: rest → history.filterMap Moment.ran? = [] →
    s.step? t = none
  delivered : ∀ t rest, s.tasks t = .await channel :: rest →
    ∀ result ∈ history.filterMap Moment.ran?,
      (∀ code, .asked (.delivered code) ∉ history) →
        history.filterMap Moment.ran? = [result] ∧ ∃ s', s.step? t = some s' ∧
          s'.tasks t = rest ∧ (s'.thread t).reply = .receipt (.delivered (Code.receive result).1)
  spent : ∀ t rest, s.tasks t = .await channel :: rest →
    ∀ code, .asked (.delivered code) ∈ history → ∃ s', s.step? t = some s' ∧ s'.tasks t = rest ∧
      (s'.thread t).reply = .panicked (some Channel.spentMessage)
  asking : ∀ t receiver rest, s.tasks t = .act (.tryTake receiver) :: rest →
    s.receivers.get? receiver = some channel → ∀ result ∈ history.filterMap Moment.ran?,
      ∃ s', s.step? t = some s' ∧ s'.tasks t = rest ∧
        ((∀ code, .asked (.delivered code) ∉ history) →
          (s'.thread t).reply = .receipt (.delivered (Code.receive result).1)) ∧
        ∀ code, .asked (.delivered code) ∈ history → (s'.thread t).reply = .receipt .released

theorem waiting_agrees_with_asking (hw : Watch channel (fresh.startLoop name) history s) :
    WaitLaw channel history s := by
  have hf : Faithful name s := hw.later
  have htold := hw.heard.told
  have hone {result : Int32} (hm : result ∈ history.filterMap Moment.ran?) :
      history.filterMap Moment.ran? = [result] := by
    have hle : (history.filterMap Moment.ran?).length ≤ 1 := by
      rw [hw.heard.runs]
      exact hf.sent_le_one
    cases hruns : history.filterMap Moment.ran? with
    | nil => simp [hruns] at hm
    | cons first more =>
      rw [hruns] at hm hle
      have hnil : more = [] := List.eq_nil_of_length_eq_zero (by simpa using hle)
      rw [hnil] at hm ⊢
      rw [List.mem_singleton.mp hm]
  constructor
  · intro t receiver hfree hreceiver
    have htasks := tasks_call hfree.mem_threads (.await receiver)
    have hstore := store_call (s := s) (t := t) (.await receiver)
    simp only [callTasks, hreceiver, Option.elim_some] at htasks
    simp only [storeCalled, hreceiver] at hstore
    refine ⟨htasks, ?_, ?_⟩
    · rw [show (s.call t (.await receiver)).receivers = s.receivers.erase receiver from
        congrArg Store.receivers hstore]
      exact Table.get?_erase s.receivers receiver
    · exact (Watch.start (s := s)).next (.call (.await receiver) hfree)
        (Motion.isFaithful_call s t (by simp))
  · intro t rest hb hnone
    have hpending : Receipt.due history = .pending := by
      refine Receipt.due_of_not_ran fun result hm => ?_
      rw [← Moment.mem_filterMap_ran?, hnone] at hm
      cases hm
    exact hw.step?_await_eq_none hb hpending
  · intro t rest hb result hm huntold
    have hdue := Receipt.due_of_untold htold (hone hm) huntold
    refine ⟨hone hm, ?_⟩
    exact hw.step?_await hb (by rw [hdue]; rfl)
  · intro t rest hb code hm
    have hdue := Receipt.due_of_told htold hm
    exact hw.step?_await hb (by rw [hdue]; rfl)
  · intro t receiver rest hb hreceiver result hm
    obtain ⟨s', hstep, hrest, hreceipt⟩ := hw.step?_tryTake hb hreceiver
    refine ⟨s', hstep, hrest, fun huntold => ?_, fun code hcode => ?_⟩
    · rw [reply_of_receipt? hreceipt, Receipt.due_of_untold htold (hone hm) huntold]
    · rw [reply_of_receipt? hreceipt, Receipt.due_of_told htold hcode]

theorem waiting_agrees_with_asking_at_first : ∃ history s,
    Watch 0 (fresh.startLoop "loop") history s ∧ history = [.asked .pending, .ran 7] ∧
      (∃ s', s.step? .main = some s' ∧ (s'.thread .main).reply = .receipt (.delivered (.bytes 7))) ∧
        WaitLaw 0 history s := by
  have hstart : Watch 0 (fresh.startLoop "loop") [] (fresh.startLoop "loop") := .start
  have hput := hstart.call .main (.put 1 false (.channel "answer" 1)) [] (by decide) (by decide)
    (by decide) (by simp)
  have hearly := hput.call .main (.act (.tryTake 1)) [.main] (by decide +kernel) (by decide)
    (by decide +kernel) (by simp)
  have hrun := hearly.call .main (.invoke 1 7) [.main] (by decide +kernel) (by decide)
    (by decide +kernel) (by simp)
  have hwait := hrun.call .main (.await 1) [] (by decide +kernel) (by decide)
    (by decide +kernel) (by simp)
  obtain ⟨history, hw, rfl⟩ : ∃ history, Watch 0 (fresh.startLoop "loop") history _ ∧
      history = [.asked .pending, .ran 7] := ⟨_, hwait, by decide +kernel⟩
  have hlaw := waiting_agrees_with_asking hw
  obtain ⟨-, s', hstep, -, hreply⟩ := hlaw.delivered .main [] rfl 7 (by decide) (by simp)
  exact ⟨_, _, hw, rfl, ⟨s', hstep, hreply⟩, hlaw⟩

theorem spent_receiver_panics_waiter : ∃ history s s',
    Watch 0 (fresh.startLoop "loop") history s ∧
      history = [.ran 0, .asked (.delivered .ok)] ∧ s.tasks .main = [.await 0] ∧
        s.step? .main = some s' ∧
          (s'.thread .main).reply = .panicked (some "called after complete") ∧
            (s'.thread .main).reply ≠ .receipt .released := by
  have hstart : Watch 0 (fresh.startLoop "loop") [] (fresh.startLoop "loop") := .start
  have hput := hstart.call .main (.put 1 false (.channel "answer" 1)) [] (by decide) (by decide)
    (by decide) (by simp)
  have hrun := hput.call .main (.invoke 1 0) [.main] (by decide +kernel) (by decide)
    (by decide +kernel) (by simp)
  have hask := hrun.call .main (.act (.tryTake 1)) [.main] (by decide +kernel) (by decide)
    (by decide +kernel) (by simp)
  have hwait := hask.call .main (.await 1) [] (by decide +kernel) (by decide)
    (by decide +kernel) (by simp)
  exact ⟨_, _, _, hwait, by decide +kernel, rfl, rfl, rfl, fun h => nomatch h⟩

end Bridge
end HostBridge
