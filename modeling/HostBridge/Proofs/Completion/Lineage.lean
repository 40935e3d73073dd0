import HostBridge.Proofs.Completion.Whereabouts

/-!
# Lineage

Along moves that do not tamper with callbacks, a number stands for one callback for ever: it
keeps its function and its context, or has lost the context. A channel has one callback.
-/
namespace HostBridge

namespace Callback

variable {callback ancestor : Callback}

theorem nullContext_nullContext (callback : Callback) :
    callback.nullContext.nullContext.target = callback.nullContext.target := by
  obtain ⟨serial, target, flags⟩ := callback
  cases target <;> rfl

theorem Descends.trans {middle : Callback} (h₁ : callback.Descends middle)
    (h₂ : middle.Descends ancestor) : callback.Descends ancestor where
  serial := h₁.serial.trans h₂.serial
  target := by
    have hnull (htarget : middle.target = ancestor.target) :
        middle.nullContext.target = ancestor.nullContext.target := by
      simp only [nullContext, htarget]
    rcases h₁.target with hsame | hlost <;> rcases h₂.target with hkept | hgone
    · exact .inl (hsame.trans hkept)
    · exact .inr (hsame.trans hgone)
    · exact .inr (hlost.trans (hnull hkept))
    · right
      rw [hlost, ← nullContext_nullContext ancestor]
      simp only [nullContext] at hgone ⊢
      rw [hgone]

theorem Descends.sender {channel : Nat} (h : callback.Descends ancestor)
    (hs : callback.sender? = some channel) : ancestor.sender? = some channel := by
  rcases h.target with htarget | htarget
  · simpa only [sender?, htarget] using hs
  · simp only [sender?, htarget, nullContext] at hs
    cases hc : ancestor.target <;> rw [hc] at hs <;> cases hs

theorem target_of_sender? {channel : Nat} (h : callback.sender? = some channel) :
    ∃ name, callback.target = .closure (some ⟨name, .send channel⟩) := by
  simp only [sender?] at h
  split at h
  · next name other htarget =>
    cases h
    exact ⟨name, htarget⟩
  · cases h

theorem isBlocking_of_sender? {channel : Nat} (h : callback.sender? = some channel) :
    callback.isBlocking = false := by
  obtain ⟨name, htarget⟩ := target_of_sender? h
  simp only [Callback.isBlocking, htarget]

theorem sender?_of_hasNullContext (h : callback.hasNullContext = true) :
    callback.sender? = none := by
  cases hsender : callback.sender? with
  | none => rfl
  | some channel =>
    obtain ⟨name, htarget⟩ := target_of_sender? hsender
    simp [hasNullContext, htarget] at h

theorem target_of_isBlocking (h : callback.isBlocking = true) : callback.target = .blocking := by
  simp only [Callback.isBlocking] at h
  split at h
  · assumption
  · cases h

theorem Descends.isBlocking (h : callback.Descends ancestor) :
    callback.isBlocking = ancestor.isBlocking := by
  rcases h.target with htarget | htarget
  · simp only [Callback.isBlocking, htarget]
  · simp only [Callback.isBlocking, htarget, nullContext]
    cases ancestor.target <;> rfl

end Callback

namespace Bridge

/-- A move that leaves callbacks what they are. -/
def Honest (s s' : Bridge) : Prop := ∃ m, Moved s m s' ∧ m.IsFaithful s

def Later : Bridge → Bridge → Prop := Relation.ReflTransGen Honest

def Faithful (name : String) (s : Bridge) : Prop := (fresh.startLoop name).Later s

variable {name : String} {s s' : Bridge}

theorem Later.induct {P : Bridge → Prop} (h : s.Later s') (h0 : P s)
    (hm : ∀ a b m, s.Later a → P a → Moved a m b → m.IsFaithful a → P b) : P s' := by
  unfold Later at h
  induction h with
  | refl => exact h0
  | tail prior move ih =>
    obtain ⟨m, hmoved, hfaithful⟩ := move
    exact hm _ _ m prior ih hmoved hfaithful

theorem Later.leads (h : s.Later s') : s.Leads s' :=
  h.induct (P := s.Leads) .refl fun _ _ _ _ ha hmoved _ => ha.tail hmoved.move

theorem Faithful.reachable (h : Faithful name s) : Reachable name s := Later.leads h

theorem Faithful.start (name : String) : Faithful name (fresh.startLoop name) :=
  Relation.ReflTransGen.refl

theorem Faithful.moved {m : Motion} (h : Faithful name s) (hm : Moved s m s')
    (hfaithful : m.IsFaithful s) : Faithful name s' :=
  Relation.ReflTransGen.tail h ⟨m, hm, hfaithful⟩

theorem Faithful.follow (h : Faithful name s) (schedule : List ThreadId) :
    Faithful name (s.follow schedule) := by
  induction schedule generalizing s with
  | nil => exact h
  | cons t rest ih =>
    refine ih ?_
    unfold advance
    cases hs : s.step? t with
    | none => exact h
    | some s' => exact h.moved (.step hs) (Motion.isFaithful_step s t)

theorem Faithful.call (h : Faithful name s) (t : ThreadId) (call : Call)
    (schedule : List ThreadId) (ht : t ∈ s.threads) (hl : t ≠ .loop)
    (hi : (s.thread t).isIdle = true)
    (hc : ∀ slot target flags, call ≠ .change slot target flags) :
    Faithful name ((s.call t call).follow schedule) :=
  (h.moved (.call call (isFree_of_isIdle ht hl hi)) (Motion.isFaithful_call s t hc)).follow schedule

structure Grows (s : Bridge) (after : Store) : Prop where
  made : s.made ≤ after.made
  channels : s.channels.length ≤ after.channels.length

theorem Grows.same {after : Store} (hmade : after.made = s.made)
    (hchannels : after.channels = s.channels) : s.Grows after where
  made := Nat.le_of_eq hmade.symm
  channels := Nat.le_of_eq (congrArg List.length hchannels.symm)

theorem grows_make (optional : Bool) (recipe : Recipe) :
    s.Grows (s.make optional recipe).2.store where
  made := by
    show s.made ≤ (s.make optional recipe).2.made
    rw [(s.serial_make optional recipe).2]
    exact Nat.le_succ _
  channels := by
    cases recipe with
    | channel name receiver => simp [make, assemble, store, length_channels_abandon]
    | _ => exact Nat.le_refl _

theorem grows_storeAfter (task : Task) : s.Grows (s.storeAfter task) := by
  cases task with
  | invoke callback result =>
    simp only [storeAfter, deliver]
    split
    · exact ⟨Nat.le_refl _, by simp [store, sendTo]⟩
    · exact .same rfl rfl
  | act action =>
    cases action with
    | run slot result =>
      simp only [storeAfter, unload]
      split
      · exact ⟨Nat.le_succ _, Nat.le_refl _⟩
      · exact .same rfl rfl
    | tryTake receiver =>
      simp only [storeAfter, Bridge.tryTake]
      split
      · exact .same rfl rfl
      · exact ⟨Nat.le_refl _, by simp [store]⟩
    | post order optional recipe =>
      simp only [storeAfter]
      split
      · exact grows_make optional recipe
      · exact .same rfl rfl
    | _ => exact .same rfl rfl
  | await channel => exact ⟨Nat.le_refl _, by simp [storeAfter, collect, store]⟩
  | _ => exact .same rfl rfl

theorem grows_storeCalled (call : Call) : s.Grows (s.storeCalled call) := by
  cases call with
  | put slot optional recipe =>
    have hmake := s.grows_make optional recipe
    exact ⟨hmake.made, hmake.channels⟩
  | offer | invoke | abort | forget =>
    simp only [storeCalled, storeWithout]
    split <;> exact .same rfl rfl
  | change | await =>
    simp only [storeCalled]
    split <;> exact .same rfl rfl
  | poll receiver =>
    simp only [storeCalled, poll]
    split
    · exact .same rfl rfl
    · split
      · exact ⟨Nat.le_refl _, by simp [store]⟩
      · exact .same rfl rfl
  | dropReceiver receiver =>
    exact ⟨Nat.le_of_eq (s.made_abandon receiver).symm,
      Nat.le_of_eq (s.length_channels_abandon receiver).symm⟩
  | _ => exact .same rfl rfl

theorem grows_moved {m : Motion} (h : Moved s m s') : s.Grows s'.store := by
  cases h with
  | step h =>
    obtain ⟨task, rest, hb⟩ := exists_task h
    rw [store_step? hb h]
    exact grows_storeAfter task
  | call call hfree =>
    rw [store_call]
    exact grows_storeCalled call
  | enlist => exact .same rfl rfl

theorem Later.grows (h : s.Later s') : s.Grows s'.store :=
  h.induct (P := fun m => s.Grows m.store) (.same rfl rfl) fun _ _ _ _ ha hmoved _ =>
    ⟨Nat.le_trans ha.made (grows_moved hmoved).made,
      Nat.le_trans ha.channels (grows_moved hmoved).channels⟩

theorem Later.descends (hr : Reachable name s) (hl : s.Later s') {callback other : Callback}
    (hc : callback ∈ s.callbacks) (ho : other ∈ s'.callbacks)
    (hserial : other.serial = callback.serial) : other.Descends callback := by
  refine hl.induct (P := fun m => ∀ other ∈ m.callbacks,
    other.serial = callback.serial → other.Descends callback) ?_ ?_ other ho hserial
  · intro other ho hserial
    rw [hr.callbacks_unique ho hc hserial]
    exact .refl callback
  · intro a b m hprior ha hmoved hfaithful other ho hserial
    rcases callbacks_moved hmoved hfaithful ho with ⟨middle, hmiddle, hdescends⟩ | hborn
    · exact hdescends.trans (ha middle hmiddle (hdescends.serial.symm.trans hserial))
    · -- A new callback has a number that nobody has had.
      have hlt : callback.serial < a.made :=
        Nat.lt_of_lt_of_le (hr.serial_lt_made hc) hprior.grows.made
      have hnew := hborn.serial
      omega

structure Senders (s : Bridge) : Prop where
  lt : ∀ callback ∈ s.callbacks, ∀ channel, callback.sender? = some channel →
    channel < s.channels.length
  unique : ∀ callback ∈ s.callbacks, ∀ other ∈ s.callbacks, ∀ channel,
    callback.sender? = some channel → other.sender? = some channel →
      callback.serial = other.serial

theorem Senders.moved {m : Motion} (hs : Senders s) (h : Moved s m s') (hm : m.IsFaithful s) :
    Senders s' where
  lt callback hc channel hsender := by
    rcases callbacks_moved h hm hc with ⟨other, ho, hdescends⟩ | hborn
    · exact Nat.lt_of_lt_of_le (hs.lt other ho channel (hdescends.sender hsender))
        (grows_moved h).channels
    · have hnew := hborn.sender channel hsender
      omega
  unique callback hc other ho channel hsender hsender' := by
    rcases callbacks_moved h hm hc with ⟨middle, hmiddle, hdescends⟩ | hborn <;>
      rcases callbacks_moved h hm ho with ⟨middle', hmiddle', hdescends'⟩ | hborn'
    · rw [hdescends.serial, hdescends'.serial]
      exact hs.unique middle hmiddle middle' hmiddle' channel (hdescends.sender hsender)
        (hdescends'.sender hsender')
    · have hold := hs.lt middle hmiddle channel (hdescends.sender hsender)
      have hnew := hborn'.sender channel hsender'
      omega
    · have hold := hs.lt middle' hmiddle' channel (hdescends'.sender hsender')
      have hnew := hborn.sender channel hsender
      omega
    · exact hborn.serial.trans hborn'.serial.symm

theorem Faithful.senders (h : Faithful name s) : Senders s := by
  have hstart : (fresh.startLoop name).callbacks = [] := rfl
  refine Later.induct (P := Senders) h ⟨?_, ?_⟩ fun a b m _ ha hmoved hfaithful =>
    ha.moved hmoved hfaithful
  · rw [hstart]
    simp
  · rw [hstart]
    simp

end Bridge
end HostBridge
