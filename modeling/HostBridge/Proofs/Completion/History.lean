import HostBridge.Proofs.Completion.Traffic

/-!
# The history of a channel

Move by move a channel gets a history: when its callback was called, and what its receiver was
told. What the channel holds is what the history has made of it, so it is the history that says
what the receiver is told next. A channel whose callback has gone, or has lost its context, stays
silent; a channel whose receiver has gone is never asked for.
-/
namespace HostBridge

namespace Moment

def ran? : Moment → Option Int32
  | ran result => some result
  | asked _ => none

def isAsked : Moment → Bool
  | ran _ => false
  | asked _ => true

theorem mem_filterMap_ran? {history : List Moment} {result : Int32} :
    result ∈ history.filterMap ran? ↔ .ran result ∈ history := by
  rw [List.mem_filterMap]
  constructor
  · intro ⟨moment, hm, hran⟩
    cases moment <;> cases hran
    exact hm
  · exact fun hm => ⟨_, hm, rfl⟩

end Moment

/-- What a receiver is told after a history: nothing before the callback has been called, then the
code of that first call, and once it has been told that, that no code will come. -/
def Receipt.due (history : List Moment) : Receipt :=
  match history.dropWhile Moment.isAsked with
  | .ran result :: later =>
    if later.any Moment.isAsked then .released else .delivered (Code.receive result).1
  | _ => .pending

def Event.sent? (channel : Nat) : Event → Option Int32
  | .invoked callback result => if callback.sender? = some channel then some result else none
  | _ => none

namespace Channel

def after (history : List Moment) : Channel := history.foldl pass .pending

theorem after_append (first second : List Moment) :
    after (first ++ second) = second.foldl pass (after first) := List.foldl_append

theorem foldl_taken (history : List Moment) : history.foldl pass .taken = .taken := by
  induction history with
  | nil => rfl
  | cons moment history ih => cases moment <;> exact ih

theorem foldl_abandoned (history : List Moment) : history.foldl pass .abandoned = .abandoned := by
  induction history with
  | nil => rfl
  | cons moment history ih => cases moment <;> exact ih

theorem foldl_ready (code : Code) (history : List Moment) :
    history.foldl pass (.ready code) =
      if history.any Moment.isAsked then .taken else .ready code := by
  induction history with
  | nil => rfl
  | cons moment history ih =>
    cases moment with
    | ran result => exact ih
    | asked receipt => exact foldl_taken history

theorem tryTake_after (history : List Moment) : (after history).tryTake.1 = .due history := by
  -- Asking leaves a pending channel as it is, so the first call is what counts.
  induction history with
  | nil => rfl
  | cons moment history ih =>
    cases moment with
    | asked receipt => exact ih
    | ran result =>
      have hready : after (.ran result :: history) =
        if history.any Moment.isAsked then .taken else .ready (Code.receive result).1 :=
          foldl_ready _ history
      rw [hready, Receipt.due, List.dropWhile_cons_of_neg (by simp [Moment.isAsked])]
      dsimp only
      split <;> rfl

end Channel

namespace Receipt

variable {first second history : List Moment}

theorem due_of_not_ran (h : ∀ result, .ran result ∉ history) : due history = .pending := by
  induction history with
  | nil => rfl
  | cons moment history ih =>
    cases moment with
    | ran result => exact absurd List.mem_cons_self (h result)
    | asked receipt => exact ih fun result hm => h result (List.mem_cons_of_mem _ hm)

theorem due_cases (history : List Moment) :
    (∀ result, .ran result ∉ history) ∨
      ∃ asks result later, history = asks ++ .ran result :: later ∧
      ∀ moment ∈ asks, moment.isAsked = true := by
  induction history with
  | nil => exact .inl (by simp)
  | cons moment history ih =>
    cases moment with
    | ran result => exact .inr ⟨[], result, history, rfl, by simp⟩
    | asked receipt =>
      rcases ih with hnone | ⟨asks, result, later, rfl, hasks⟩
      · left
        intro result hm
        rcases List.mem_cons.mp hm with hm | hm
        · cases hm
        · exact hnone result hm
      · refine .inr ⟨.asked receipt :: asks, result, later, rfl, ?_⟩
        intro moment hm
        rcases List.mem_cons.mp hm with rfl | hm
        · rfl
        · exact hasks moment hm

theorem due_ran {asks later : List Moment} {result : Int32}
    (h : ∀ moment ∈ asks, moment.isAsked = true) : due (asks ++ .ran result :: later) =
      if later.any Moment.isAsked then .released else .delivered (Code.receive result).1 := by
  have hdrop : (asks ++ .ran result :: later).dropWhile Moment.isAsked = .ran result :: later := by
    rw [List.dropWhile_append_of_pos h, List.dropWhile_cons_of_neg (by simp [Moment.isAsked])]
  rw [due, hdrop]

theorem due_of_ran {result : Int32} (h : .ran result ∈ history) : due history ≠ .pending := by
  rcases due_cases history with hnone | ⟨asks, first, later, rfl, hasks⟩
  · exact absurd h (hnone result)
  · rw [due_ran hasks]
    split <;> simp

theorem due_of_delivered {code : Code} (h : due first = .delivered code) (receipt : Receipt) :
    due (first ++ .asked receipt :: second) = .released := by
  rcases due_cases first with hnone | ⟨asks, result, later, rfl, hasks⟩
  · rw [due_of_not_ran hnone] at h
    cases h
  · rw [List.append_assoc, List.cons_append, due_ran hasks, if_pos (by simp [Moment.isAsked])]

end Receipt

def ToldGuard (before : List Moment) (moment : Moment) : Prop :=
  ∀ receipt, moment = .asked receipt → receipt = .due before

section told
variable {history : List Moment}

theorem first_asked (h : history.any Moment.isAsked = true) :
    ∃ before receipt after, history = before ++ .asked receipt :: after ∧
      before.any Moment.isAsked = false := by
  induction history with
  | nil => cases h
  | cons moment history ih =>
    cases moment with
    | asked receipt => exact ⟨[], receipt, history, rfl, rfl⟩
    | ran result =>
      obtain ⟨before, receipt, after, rfl, hnone⟩ := ih h
      exact ⟨.ran result :: before, receipt, after, rfl, hnone⟩

theorem Guarded.delivered_of_released (hg : Guarded ToldGuard history)
    (h : .due history = Receipt.released) : ∃ code, .asked (.delivered code) ∈ history := by
  rcases Receipt.due_cases history with hnone | ⟨asks, result, later, rfl, hasks⟩
  · rw [Receipt.due_of_not_ran hnone] at h
    cases h
  · rw [Receipt.due_ran hasks] at h
    split at h
    · next hany =>
      obtain ⟨before, receipt, after, rfl, hnone⟩ := first_asked hany
      -- The first to ask after the call was told the code.
      have htold := hg (asks ++ .ran result :: before) (.asked receipt) after (by simp) receipt rfl
      rw [Receipt.due_ran hasks, hnone, if_neg Bool.false_ne_true] at htold
      exact ⟨_, by rw [← htold]; simp⟩
    · cases h

end told

def Motion.moments (channel : Nat) (s s' : Bridge) (m : Motion) : List Moment :=
  Moment.listAt channel (m.moment? s s')

namespace Bridge

/-- Moves that leave callbacks what they are lead from one state to another, and this is what
they come to at one channel. -/
inductive Watch (channel : Nat) (s : Bridge) : List Moment → Bridge → Prop
  | start : Watch channel s [] s
  | next {history : List Moment} {a b : Bridge} {m : Motion} : Watch channel s history a →
      Moved a m b → m.IsFaithful a → Watch channel s (history ++ m.moments channel a b) b

variable {name : String} {s s' s'' : Bridge} {t : ThreadId} {channel : Nat}
  {history more : List Moment} {m : Motion}

theorem Watch.later (h : Watch channel s history s') : s.Later s' := by
  induction h with
  | start => exact .refl
  | next _ hmoved hfaithful ih => exact ih.tail ⟨_, hmoved, hfaithful⟩

theorem Watch.trans (h : Watch channel s history s') (hl : Watch channel s' more s'') :
    Watch channel s (history ++ more) s'' := by
  induction hl with
  | start => rwa [List.append_nil]
  | next _ hmoved hfaithful ih =>
    rw [← List.append_assoc]
    exact ih.next hmoved hfaithful

def momentsAlong (channel : Nat) (s : Bridge) : List ThreadId → List Moment
  | [] => []
  | t :: rest =>
    (s.step? t).elim [] (fun s' => (Motion.step t).moments channel s s') ++
      (s.advance t).momentsAlong channel rest

theorem Watch.follow (h : Watch channel s history s') (schedule : List ThreadId) :
    Watch channel s (history ++ s'.momentsAlong channel schedule) (s'.follow schedule) := by
  induction schedule generalizing history s' with
  | nil =>
    rw [momentsAlong, List.append_nil]
    exact h
  | cons t rest ih =>
    rw [momentsAlong, ← List.append_assoc]
    refine ih ?_
    unfold advance
    cases hs : s'.step? t with
    | none => simpa using h
    | some next => exact h.next (.step hs) (Motion.isFaithful_step s' t)

theorem Watch.call (h : Watch channel s history s') (t : ThreadId) (call : Call)
    (schedule : List ThreadId) (ht : t ∈ s'.threads) (hl : t ≠ .loop)
    (hi : (s'.thread t).isIdle = true)
    (hc : ∀ slot target flags, call ≠ .change slot target flags) :
    Watch channel s (history ++ (Motion.call t call).moments channel s' (s'.call t call) ++
      (s'.call t call).momentsAlong channel schedule) ((s'.call t call).follow schedule) :=
  (h.next (.call call (isFree_of_isIdle ht hl hi)) (Motion.isFaithful_call s' t hc)).follow schedule

theorem sent?_eq_some {e : Event} {result : Int32} (h : e.sent? channel = some result) :
    ∃ callback, e = .invoked callback result ∧ callback.sender? = some channel := by
  cases e with
  | invoked callback number =>
    simp only [Event.sent?] at h
    split at h
    · next hsender =>
      cases h
      exact ⟨callback, rfl, hsender⟩
    · cases h
  | _ => cases h

theorem sent?_notes (callback : Callback) (result : Int32) :
    (callback.notes result).filterMap (Event.sent? channel) =
      if callback.sender? = some channel then [result] else [] := by
  have hlogged (records : List Log.Record) :
      (records.map Event.logged).filterMap (Event.sent? channel) = [] :=
    filterMap_logged (fun _ => rfl) records
  have hcalled (events : List Event) (hnone : events.filterMap (Event.sent? channel) = []) :
      (Event.invoked callback result :: events).filterMap (Event.sent? channel) =
        if callback.sender? = some channel then [result] else [] := by
    rw [List.filterMap_cons, hnone]
    simp only [Event.sent?]
    split <;> simp_all
  simp only [Callback.notes]
  split
  · next htarget => simp [Callback.sender?, htarget]
  · exact hcalled _ rfl
  · exact hcalled _ rfl
  · exact hcalled _ rfl
  · next closure _ =>
    apply hcalled
    rw [List.filterMap_append, hlogged]
    simp only [Closure.notes]
    split
    · rfl
    · split <;> rfl

theorem filterMap_ran?_told? (channel? : Option Nat) :
    (Moment.listAt channel (s.told? t channel?)).filterMap Moment.ran? = [] := by
  simp only [told?]
  cases channel? with
  | none => rfl
  | some other =>
    cases s.receipt? t with
    | none => rfl
    | some receipt =>
      simp only [Option.bind_some, Option.map_some, Moment.listAt]
      split <;> rfl

theorem filterMap_ran?_moment? {task : Task}
    (h : ∀ callback result, task ≠ .invoke callback result) :
    (Moment.listAt channel (task.moment? s s' t)).filterMap Moment.ran? = [] := by
  cases task with
  | invoke callback result => exact absurd rfl (h callback result)
  | await other => exact filterMap_ran?_told? (some other)
  | act action =>
    cases action with
    | tryTake receiver => exact filterMap_ran?_told? (s.receivers.get? receiver)
    | _ => rfl
  | _ => rfl

theorem sent?_moved (h : Moved s m s') : s'.trace.filterMap (·.2.sent? channel) =
    s.trace.filterMap (·.2.sent? channel) ++
      (m.moments channel s s').filterMap Moment.ran? := by
  cases h with
  | @step _ t h =>
    obtain ⟨task, rest, hb⟩ := exists_task h
    obtain ⟨pushed, events, hturn, hdeed⟩ := deed_step? hb h
    rw [hturn.trace, List.filterMap_append, List.filterMap_map]
    simp only [Motion.moments, Motion.moment?, hb, List.head?_cons, Option.bind_some]
    refine congrArg _ ?_
    show events.filterMap (Event.sent? channel) = _
    by_cases hcall : ∃ callback result, task = .invoke callback result
    · obtain ⟨callback, result, rfl⟩ := hcall
      obtain ⟨-, rfl⟩ := hdeed.invoke_eq
      rw [sent?_notes]
      simp only [Task.moment?]
      cases callback.sender? with
      | none => rfl
      | some other =>
        simp only [Option.map_some, Moment.listAt, Option.some.injEq]
        split <;> rfl
    · have hother : ∀ callback result, task ≠ .invoke callback result :=
        fun callback result he => hcall ⟨callback, result, he⟩
      rw [filterMap_ran?_moment? hother, List.filterMap_eq_nil_iff]
      intro e he
      cases e with
      | invoked callback result =>
        have hpopped : [task] = [.invoke callback result] := hturn.effect.noted he
        cases hpopped
        exact absurd rfl (hother callback result)
      | _ => rfl
  | @call t call hfree =>
    rw [trace_call hfree]
    cases call with
    | poll receiver =>
      rw [show ((Motion.call t (.poll receiver)).moments channel s _).filterMap Moment.ran? = []
        from filterMap_ran?_told? (s.receivers.get? receiver), List.append_nil]
    | _ => exact (List.append_nil _).symm
  | enlist => exact (List.append_nil _).symm

structure Heard (channel : Nat) (history : List Moment) (s : Bridge) : Prop where
  unmade : s.channels.length ≤ channel → history = []
  holds : s.channelOf channel ≠ .abandoned → s.channelOf channel = .after history
  told : Guarded ToldGuard history
  runs : history.filterMap Moment.ran? = s.trace.filterMap (·.2.sent? channel)

theorem channelOf_of_length_le (h : s.channels.length ≤ channel) :
    s.channelOf channel = .abandoned := by
  rw [channelOf, List.getD_eq_getElem?_getD, List.getElem?_eq_none h]
  rfl

theorem Traffic.unmade {moment? : Option (Nat × Moment)} (h : Traffic s s' moment?)
    (ha : Attended s) (hs : Senders s) (hlength : s.channels.length ≤ channel) :
    Moment.listAt channel moment? = [] := by
  cases h with
  | @ran callback other result hc hsender =>
    have hlt := hs.lt callback hc other hsender
    exact if_neg (by omega)
  | @asked other hlisten =>
    refine if_neg fun heq => ?_
    subst heq
    exact ha.open hlisten (channelOf_of_length_le hlength)
  | _ => rfl

theorem Heard.moved (hh : Heard channel history s) (ha : Attended s) (hs : Senders s)
    (h : Moved s m s') : Heard channel (history ++ m.moments channel s s') s' where
  unmade hlength := by
    have hbefore : s.channels.length ≤ channel := Nat.le_trans (grows_moved h).channels hlength
    rw [hh.unmade hbefore, Motion.moments, (traffic h).unmade ha hs hbefore]
    rfl
  holds hopen := by
    -- A channel that is open now is new, or was open before and has gone through the move.
    rcases (traffic h).channelOf channel with habandoned | ⟨hnew, hpending, hnone⟩ | hfold
    · exact absurd habandoned hopen
    · rw [hpending, hh.unmade (Nat.le_of_eq hnew.symm), Motion.moments, hnone]
      rfl
    · have hbefore : s.channelOf channel ≠ .abandoned := fun habandoned => hopen (by
        rw [hfold, habandoned, Channel.foldl_abandoned])
      rw [hfold, hh.holds hbefore, Channel.after_append]
      rfl
  told := by
    rw [guarded_append]
    refine ⟨hh.told, ?_⟩
    have htraffic := traffic h
    rw [Motion.moments]
    generalize m.moment? s s' = moment? at htraffic
    cases htraffic with
    | @ran callback other result =>
      simp only [Moment.listAt]
      split
      · exact guarded_singleton.mpr fun receipt he => by cases he
      · exact guarded_nil
    | @asked other hlisten =>
      simp only [Moment.listAt]
      split
      · next heq =>
        subst heq
        refine guarded_singleton.mpr fun receipt he => ?_
        cases he
        rw [List.append_nil, hh.holds (ha.open hlisten)]
        exact Channel.tryTake_after history
      · exact guarded_nil
    | _ => exact guarded_nil
  runs := by rw [List.filterMap_append, hh.runs, sent?_moved h]

theorem Watch.heard (h : Watch channel (fresh.startLoop name) history s) :
    Heard channel history s := by
  induction h with
  | start => exact ⟨fun _ => rfl, fun hopen => absurd rfl hopen, guarded_nil, rfl⟩
  | next hw hmoved _ ih =>
    have hf : Faithful name _ := hw.later
    exact ih.moved hf.reachable.attended hf.senders hmoved

theorem Heard.mem_ran (hh : Heard channel history s) {result : Int32} :
    .ran result ∈ history ↔ ∃ u callback, (u, .invoked callback result) ∈ s.trace ∧
      callback.sender? = some channel := by
  rw [← Moment.mem_filterMap_ran?, hh.runs, List.mem_filterMap]
  constructor
  · intro ⟨⟨u, e⟩, he, hsent⟩
    obtain ⟨callback, rfl, hsender⟩ := sent?_eq_some hsent
    exact ⟨u, callback, he, hsender⟩
  · intro ⟨u, callback, he, hsender⟩
    exact ⟨_, he, if_pos hsender⟩

theorem Later.sender_serial (hf : Faithful name s) (hl : s.Later s') {callback other : Callback}
    (hc : callback ∈ s.callbacks) (hsender : callback.sender? = some channel)
    (ho : other ∈ s'.callbacks) (hsame : other.sender? = some channel) :
    other.serial = callback.serial := by
  refine hl.induct (P := fun m => ∀ other ∈ m.callbacks,
    other.sender? = some channel → other.serial = callback.serial) ?_ ?_ other ho hsame
  · exact fun other ho hsame =>
      hf.senders.unique other ho callback hc channel hsame hsender
  · intro a b m hprior ha hmoved hfaithful other ho hsame
    rcases callbacks_moved hmoved hfaithful ho with ⟨middle, hmiddle, hdescends⟩ | hborn
    · rw [hdescends.serial]
      exact ha middle hmiddle (hdescends.sender hsame)
    · have hlt := hf.senders.lt callback hc channel hsender
      have hgrown := hprior.grows.channels
      have hnew := hborn.sender channel hsame
      simp only [store] at hgrown
      omega

/-- A channel whose callback is nowhere. -/
structure Mute (channel : Nat) (s : Bridge) : Prop where
  made : channel < s.channels.length
  nobody : ∀ callback ∈ s.callbacks, callback.sender? ≠ some channel

theorem Mute.of_lost (hf : Faithful name s) (hl : s.Later s') {callback : Callback}
    (hc : callback ∈ s.callbacks) (hsender : callback.sender? = some channel)
    (hlost : ∀ other ∈ s'.callbacks, other.serial = callback.serial → other.sender? = none) :
    Mute channel s' where
  made := Nat.lt_of_lt_of_le (hf.senders.lt callback hc channel hsender) hl.grows.channels
  nobody other ho hsame := by
    have hnone := hlost other ho (hl.sender_serial hf hc hsender ho hsame)
    rw [hnone] at hsame
    cases hsame

theorem Mute.moved (hs : Mute channel s) (h : Moved s m s') (hm : m.IsFaithful s) :
    Mute channel s' where
  made := Nat.lt_of_lt_of_le hs.made (grows_moved h).channels
  nobody callback hc hsender := by
    rcases callbacks_moved h hm hc with ⟨other, ho, hdescends⟩ | hborn
    · exact hs.nobody other ho (hdescends.sender hsender)
    · have hnew := hborn.sender channel hsender
      have hmade := hs.made
      omega

theorem Mute.watch (hs : Mute channel s) (h : Watch channel s history s') : Mute channel s' := by
  induction h with
  | start => exact hs
  | next _ hmoved hfaithful ih => exact ih.moved hmoved hfaithful

theorem Mute.pending (hs : Mute channel s)
    (hw : Watch channel (fresh.startLoop name) history s) (hl : Watch channel s more s')
    {receipt : Receipt} (hm : .asked receipt ∈ history ++ more) : receipt = .pending := by
  have hheard := (hw.trans hl).heard
  obtain ⟨before, after, hsplit, htold⟩ := hheard.told.of_mem hm
  rw [htold receipt rfl]
  apply Receipt.due_of_not_ran
  intro result hran
  have hall : .ran result ∈ history ++ more := by
    rw [hsplit]
    exact List.mem_append_left _ hran
  obtain ⟨u, callback, he, hsender⟩ := hheard.mem_ran.mp hall
  exact (hs.watch hl).nobody callback (mem_callbacks_of_invoked he) hsender

/-- A channel whose receiver has gone. -/
structure Deaf (channel : Nat) (s : Bridge) : Prop where
  made : channel < s.channels.length
  abandoned : s.channelOf channel = .abandoned

theorem Deaf.moved (hs : Deaf channel s) (ha : Attended s) (h : Moved s m s') :
    Deaf channel s' ∧ ∀ receipt, .asked receipt ∉ m.moments channel s s' := by
  have hmade := hs.made
  refine ⟨⟨Nat.lt_of_lt_of_le hmade (grows_moved h).channels, ?_⟩, ?_⟩
  · rcases (traffic h).channelOf channel with habandoned | ⟨hnew, -⟩ | hfold
    · exact habandoned
    · omega
    · rw [hfold, hs.abandoned, Channel.foldl_abandoned]
  · intro receipt hm
    have htraffic := traffic h
    rw [Motion.moments] at hm
    generalize m.moment? s s' = moment? at htraffic hm
    cases htraffic with
    | @ran callback other result =>
      simp only [Moment.listAt] at hm
      split at hm <;> simp at hm
    | @asked other hlisten =>
      simp only [Moment.listAt] at hm
      split at hm
      · next heq => exact ha.open hlisten (heq ▸ hs.abandoned)
      · cases hm
    | _ => cases hm

theorem Deaf.watch (hr : Reachable name s) (hs : Deaf channel s)
    (h : Watch channel s history s') : Deaf channel s' ∧ ∀ receipt, .asked receipt ∉ history := by
  induction h with
  | start => exact ⟨hs, by simp⟩
  | next hw hmoved _ ih =>
    obtain ⟨hdeaf, hnever⟩ := ih
    obtain ⟨hdeaf', hnow⟩ := hdeaf.moved (hr.leads hw.later.leads).attended hmoved
    refine ⟨hdeaf', fun receipt hm => ?_⟩
    rcases List.mem_append.mp hm with hm | hm
    · exact hnever receipt hm
    · exact hnow receipt hm

end Bridge
end HostBridge
