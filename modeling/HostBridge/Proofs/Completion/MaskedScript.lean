import HostBridge.Proofs.Completion.Masking

/-!
# Scripts under a mask

The work that is left is the same under a mask, so the threads come to rest by the same steps. Two
scripts whose steps are the same but for flags lead from states that look the same under a mask to
such states.
-/
namespace HostBridge

variable {keep : Bool}

mutual

theorem Recipe.work_mask (recipe : Recipe) : (recipe.mask keep).work = recipe.work := by
  cases recipe with
  | closure trigger name body => simp only [Recipe.mask, Recipe.work, bodyWork_mask body]
  | _ => rfl

theorem Action.work_mask (action : Action) : (action.mask keep).work = action.work := by
  cases action with
  | post order optional recipe => simp only [Action.mask, Action.work, recipe.work_mask]
  | _ => rfl

theorem bodyWork_mask (body : List Action) : bodyWork (maskBody keep body) = bodyWork body := by
  cases body with
  | nil => rfl
  | cons action rest => simp only [maskBody, bodyWork, action.work_mask, bodyWork_mask rest]

end

theorem Callback.work_mask (callback : Callback) (keepOwn : Bool) :
    (callback.maskWith keep keepOwn).work = callback.work := by
  obtain ⟨serial, target, flags⟩ := callback
  rcases target with _ | _ | _ | _ | ⟨_, _ | _⟩
  case closure.some.perform name trigger body =>
    exact congrArg (· + 1) (bodyWork_mask body)
  all_goals rfl

theorem Item.work_mask (item : Item) : (item.mask keep).work = item.work := by
  cases item with
  | run callback delay result => exact congrArg (· + 3) (callback.work_mask keep)
  | quit => rfl

theorem Errand.work_mask (errand : Errand) : (errand.mask keep).work = errand.work := by
  cases errand with
  | post request callback delay result => exact congrArg (· + 6) (callback.work_mask keep)
  | quit => rfl

mutual

theorem Task.work_mask (task : Task) : (task.mask keep).work = task.work := by
  cases task with
  | invoke callback result => exact congrArg (· + 1) (callback.work_mask keep)
  | abort callback => exact congrArg (· + 2) (callback.work_mask keep)
  | body closure name actions => exact congrArg (· + 1) (bodyWork_mask actions)
  | act action => exact congrArg (· - 2) action.work_mask
  | offer order callback => exact congrArg (· + 8) (callback.work_mask _)
  | enter errand => exact congrArg (· + 1) errand.work_mask
  | decide errand => exact errand.work_mask
  | dispatch callback delay result => exact congrArg (· + 2) (callback.work_mask keep)
  | delegate tasks => exact congrArg (· + 2) (tasksWork_mask tasks)
  | _ => rfl

theorem tasksWork_mask (tasks : List Task) :
    tasksWork (maskTasks keep tasks) = tasksWork tasks := by
  cases tasks with
  | nil => rfl
  | cons task rest => simp only [maskTasks, tasksWork, task.work_mask, tasksWork_mask rest]

end

namespace Bridge

variable {s s' : Bridge}

theorem work_mask (s : Bridge) : (s.mask keep).work = s.work := by
  have hthread (thread : Thread) : (thread.mask keep).work = thread.work := tasksWork_mask _
  have hcallback (callback : Callback) : (callback.mask keep).work = callback.work :=
    callback.work_mask keep
  simp only [work, mask, hthread, totalOf_map, hcallback, Item.work_mask]

theorem threads_mask (s : Bridge) : (s.mask keep).threads = s.threads := by
  simp [threads, mask]

theorem mask_next?_eq (hs : s.mask keep = s'.mask keep) :
    s.next?.map (mask keep) = s'.next?.map (mask keep) := by
  have hthreads : s.threads = s'.threads := by rw [← threads_mask, hs, threads_mask]
  unfold next?
  rw [hthreads]
  generalize s'.threads = threads
  induction threads with
  | nil => rfl
  | cons t rest ih =>
    have hstep := mask_step?_eq hs t
    simp only [List.findSome?_cons]
    cases hown : s.step? t <;> cases hother : s'.step? t <;> rw [hown, hother] at hstep
    · exact ih
    · cases hstep
    · cases hstep
    · exact hstep

theorem mask_run_eq (hs : s.mask keep = s'.mask keep) (steps : Nat) :
    (run steps s).mask keep = (run steps s').mask keep := by
  induction steps generalizing s s' with
  | zero => exact hs
  | succ steps ih =>
    have hnext := mask_next?_eq hs
    unfold run
    cases hown : s.next? <;> cases hother : s'.next? <;> rw [hown, hother] at hnext
    · exact hs
    · cases hnext
    · cases hnext
    · exact ih (Option.some.inj hnext)

theorem mask_settle_eq (hs : s.mask keep = s'.mask keep) :
    s.settle.mask keep = s'.settle.mask keep := by
  have hwork : s.work = s'.work := by rw [← work_mask, hs, work_mask]
  unfold settle
  rw [hwork]
  exact mask_run_eq hs _

theorem mask_ask_eq (hs : s.mask keep = s'.mask keep) {tasks tasks' : List Task}
    (ht : maskTasks keep tasks = maskTasks keep tasks') :
    (s.ask tasks).mask keep = (s'.ask tasks').mask keep := by
  apply mask_settle_eq
  simp only [mask_reply, mask_setTasks, hs, ht]

theorem mask_respond_eq (hs : s.mask keep = s'.mask keep) {reply reply' : Reply}
    (hr : reply.mask keep = reply'.mask keep) :
    (s.respond reply).mask keep = (s'.respond reply').mask keep := by
  simp only [respond, mask_reply, hs, hr]

theorem mask_congr (f : Bridge → Bridge) (hf : ∀ a, (f a).mask keep = f (a.mask keep))
    (hs : s.mask keep = s'.mask keep) : (f s).mask keep = (f s').mask keep := by
  rw [hf, hf, hs]

theorem mask_withSlot_eq (hs : s.mask keep = s'.mask keep) (slot : Nat)
    {f f' : Callback → Bridge}
    (hf : ∀ callback callback', callback.mask keep = callback'.mask keep →
      (f callback).mask keep = (f' callback').mask keep) :
    (s.withSlot slot f).mask keep = (s'.withSlot slot f').mask keep := by
  have hget : (s.slots.get? slot).map (·.mask keep) = (s'.slots.get? slot).map (·.mask keep) := by
    rw [← get?_mask, hs, get?_mask]
  unfold withSlot
  cases hown : s.slots.get? slot <;> cases hother : s'.slots.get? slot <;>
    rw [hown, hother] at hget
  · exact mask_respond_eq hs rfl
  · cases hget
  · cases hget
  · exact hf _ _ (Option.some.inj hget)

theorem mask_put_eq (hs : s.mask keep = s'.mask keep) (slot : Nat) {callback callback' : Callback}
    (hc : callback.mask keep = callback'.mask keep) :
    ({ s with slots := s.slots.put slot callback } : Bridge).mask keep =
      ({ s' with slots := s'.slots.put slot callback' } : Bridge).mask keep := by
  rw [mask_put, mask_put, hs, hc]

theorem mask_changeSlot_eq (hs : s.mask keep = s'.mask keep) (slot : Nat)
    {f f' : Callback → Callback}
    (hf : ∀ callback callback', callback.mask keep = callback'.mask keep →
      (f callback).mask keep = (f' callback').mask keep) :
    (s.changeSlot slot f).mask keep = (s'.changeSlot slot f').mask keep :=
  mask_withSlot_eq hs slot fun _ _ hc => mask_respond_eq (mask_put_eq hs slot (hf _ _ hc)) rfl

theorem mask_takeSlot_eq (hs : s.mask keep = s'.mask keep) (slot : Nat)
    {tasks tasks' : Callback → List Task}
    (ht : ∀ callback callback', callback.mask keep = callback'.mask keep →
      maskTasks keep (tasks callback) = maskTasks keep (tasks' callback')) :
    (s.takeSlot slot tasks).mask keep = (s'.takeSlot slot tasks').mask keep :=
  mask_withSlot_eq hs slot fun _ _ hc =>
    mask_ask_eq (by rw [mask_erase, mask_erase, hs]) (ht _ _ hc)

theorem mask_takeReceiver_eq (hs : s.mask keep = s'.mask keep) (receiver : Nat)
    {f f' : Nat → Bridge → Bridge}
    (hf : ∀ channel a a', mask keep a = mask keep a' →
      (f channel a).mask keep = (f' channel a').mask keep) :
    (s.takeReceiver receiver f).mask keep = (s'.takeReceiver receiver f').mask keep := by
  have hreceivers : s.receivers = s'.receivers := (congrArg Bridge.receivers hs :)
  unfold takeReceiver
  rw [hreceivers]
  cases s'.receivers.get? receiver with
  | none => exact mask_respond_eq hs rfl
  | some channel =>
    exact hf channel _ _
      (mask_congr (fun a => { a with receivers := s'.receivers.erase receiver }) (fun _ => rfl) hs)

theorem mask_dropLoop_eq (hs : s.mask keep = s'.mask keep) :
    s.dropLoop.mask keep = s'.dropLoop.mask keep := by
  have howner : s.owner = s'.owner := (congrArg Bridge.owner hs :)
  unfold dropLoop
  rw [howner]
  split
  · exact mask_ask_eq hs rfl
  · exact hs

theorem mask_spawn_eq (hs : s.mask keep = s'.mask keep) (name : String) :
    (s.spawn name).mask keep = (s'.spawn name).mask keep := by
  have hdrop := mask_dropLoop_eq hs
  unfold spawn
  split
  · exact mask_respond_eq (mask_congr (startLoop · name) (fun _ => rfl) hdrop) rfl
  · exact mask_respond_eq hdrop rfl

theorem mask_latch_eq (hs : s.mask keep = s'.mask keep) :
    (match s.main.reply with
      | .code (.named .ok) => s
      | _ => { s with latched := false }).mask keep =
    (match s'.main.reply with
      | .code (.named .ok) => s'
      | _ => { s' with latched := false }).mask keep := by
  have hreply : s.main.reply.mask keep = s'.main.reply.mask keep :=
    (congrArg (fun a : Bridge => a.main.reply) hs :)
  have hfixed (reply : Reply) (h : reply.mask keep = .code (.named .ok)) :
      reply = .code (.named .ok) := by
    cases reply <;> first | exact h | cases h
  have hopen : ({ s with latched := false } : Bridge).mask keep =
      ({ s' with latched := false } : Bridge).mask keep :=
    mask_congr (fun a => { a with latched := false }) (fun _ => rfl) hs
  split
  · next hown =>
    rw [hown] at hreply
    rw [hfixed _ hreply.symm]
    exact hs
  · next hown =>
    split
    · next hother =>
      rw [hother] at hreply
      exact absurd (hfixed _ hreply) hown
    · exact hopen

theorem mask_hold_eq (hs : s.mask keep = s'.mask keep) : s.hold.mask keep = s'.hold.mask keep := by
  have hlatched : s.latched = s'.latched := (congrArg Bridge.latched hs :)
  have hreachable : s.isReachable .poster = s'.isReachable .poster := by
    rw [← isReachable_mask, hs, isReachable_mask]
  have hmake : ((s.assemble false .latch).1.mask keep, (s.assemble false .latch).2.mask keep) =
      ((s'.assemble false .latch).1.mask keep, (s'.assemble false .latch).2.mask keep) := by
    have h := congrArg (fun a : Bridge => a.assemble (keep && false) (Target.latch.mask keep)) hs
    rwa [← mask_assemble, ← mask_assemble] at h
  obtain ⟨hcallback, hstate⟩ := Prod.mk.inj hmake
  unfold hold
  rw [hlatched, hreachable]
  split
  · exact mask_respond_eq hs rfl
  · split
    · refine mask_latch_eq (mask_ask_eq ?_ ?_)
      · exact mask_congr (fun a => { a with latched := true }) (fun _ => rfl) hstate
      · exact congrArg (fun c : Callback => [Task.offer ⟨.post, .poster, 0, 0⟩ c]) hcallback
    · exact mask_respond_eq hs rfl

end Bridge

inductive Step.Resembles (keep : Bool) : Step → Step → Prop
  | same (step : Step) : Resembles keep step step
  | put (slot : Nat) {optional optional' : Bool} {recipe recipe' : Recipe} :
      (keep && optional) = (keep && optional') → recipe.mask keep = recipe'.mask keep →
      Resembles keep (.put slot optional recipe) (.put slot optional' recipe')
  | setFlags (slot : Nat) {flags flags' : Int32} : keptFlags keep flags = keptFlags keep flags' →
      Resembles keep (.setFlags slot flags) (.setFlags slot flags')
  | act {action action' : Action} : action.mask keep = action'.mask keep →
      Resembles keep (.act action) (.act action')

namespace Bridge

variable {s s' : Bridge}

theorem mask_make_eq (hs : s.mask keep = s'.mask keep) {optional optional' : Bool}
    {recipe recipe' : Recipe} (ho : (keep && optional) = (keep && optional'))
    (hr : recipe.mask keep = recipe'.mask keep) :
    (s.make optional recipe).1.mask keep = (s'.make optional' recipe').1.mask keep ∧
      (s.make optional recipe).2.mask keep = (s'.make optional' recipe').2.mask keep := by
  have hown := @mask_make keep s keep optional recipe
  have hother := @mask_make keep s' keep optional' recipe'
  rw [hs, ho, hr, ← hother] at hown
  exact Prod.mk.inj hown

theorem mask_optional_eq {callback callback' : Callback}
    (h : callback.mask keep = callback'.mask keep) :
    callback.optional.mask keep = callback'.optional.mask keep := by
  have hflags (flags : Int32) : (flags ||| Callback.optionalFlag) &&& Callback.optionalFlag =
      Callback.optionalFlag := by
    have hlowest := (Callback.optionalLaw ⟨0, .blocking, flags⟩).lowest
    apply Int32.toBitVec_inj.mp
    rw [Callback.toBitVec_and_optionalFlag]
    exact if_pos hlowest
  simp only [Callback.mask, Callback.maskWith, Callback.mk.injEq, Callback.optional, keptFlags,
    hflags] at h ⊢
  exact ⟨h.1, h.2.1, trivial⟩

theorem mask_nullContext (callback : Callback) :
    callback.nullContext.mask keep = (callback.mask keep).nullContext := by
  obtain ⟨serial, target, flags⟩ := callback
  rcases target with _ | _ | _ | _ | ⟨_, _ | _⟩ <;> rfl

theorem mask_perform_same (hs : s.mask keep = s'.mask keep) (step : Step) :
    (s.perform step).mask keep = (s'.perform step).mask keep := by
  have hreceivers : s.receivers = s'.receivers := (congrArg Bridge.receivers hs :)
  have howner : s.owner = s'.owner := (congrArg Bridge.owner hs :)
  cases step with
  | put slot optional recipe =>
    obtain ⟨hcallback, hstate⟩ := mask_make_eq hs rfl (Eq.refl (recipe.mask keep))
    exact mask_respond_eq (mask_put_eq hstate slot hcallback) rfl
  | makeOptional slot => exact mask_changeSlot_eq hs slot fun _ _ => mask_optional_eq
  | setFlags slot flags =>
    exact mask_changeSlot_eq hs slot fun _ _ h =>
      congrArg (fun c : Callback => { c with flags := keptFlags keep flags }) h
  | nullContext slot =>
    refine mask_changeSlot_eq hs slot fun callback callback' h => ?_
    rw [mask_nullContext, mask_nullContext, h]
  | inspect slot =>
    exact mask_withSlot_eq hs slot fun _ _ h => mask_respond_eq hs (congrArg Reply.callback h)
  | invoke slot result =>
    refine mask_takeSlot_eq hs slot fun _ _ h => ?_
    simp only [maskTasks, Task.mask, h]
  | abort slot =>
    refine mask_takeSlot_eq hs slot fun _ _ h => ?_
    simp only [maskTasks, Task.mask, h]
  | forget slot => exact mask_takeSlot_eq hs slot fun _ _ _ => rfl
  | invokeElsewhere slot result =>
    refine mask_takeSlot_eq hs slot fun _ _ h => ?_
    simp only [maskTasks, Task.mask, h]
  | runNull result => exact mask_respond_eq hs rfl
  | poll receiver =>
    have hpoll := congrArg (fun a : Bridge => a.poll receiver) hs
    simp only [← mask_poll, Prod.mk.injEq] at hpoll
    exact mask_respond_eq hpoll.2 (congrArg (Reply.mask keep) hpoll.1)
  | wait receiver =>
    exact mask_takeReceiver_eq hs receiver fun _ _ _ h => mask_ask_eq h rfl
  | dropReceiver receiver =>
    simp only [perform, hreceivers]
    split
    · exact mask_respond_eq (mask_congr (·.abandon receiver) (mask_abandon · receiver) hs) rfl
    · exact mask_respond_eq hs rfl
  | waitElsewhere slot receiver result =>
    refine mask_withSlot_eq hs slot fun _ _ _ => ?_
    refine mask_takeReceiver_eq hs receiver fun channel a a' ha => ?_
    refine mask_takeSlot_eq ha slot fun _ _ h => ?_
    simp only [maskTasks, Task.mask, h]
  | slotCall call =>
    have hslot : s.main.slot = s'.main.slot := (congrArg (fun a : Bridge => a.main.slot) hs :)
    simp only [perform, hslot]
    exact mask_respond_eq (mask_congr (·.setSlot .main _) (mask_setSlot · .main _) hs) rfl
  | act action => exact mask_ask_eq hs rfl
  | spawn name => exact mask_spawn_eq hs name
  | hold => exact mask_hold_eq hs
  | release =>
    refine mask_respond_eq (mask_ask_eq ?_ rfl) rfl
    exact mask_congr (fun a => { a with latched := false }) (fun _ => rfl) hs
  | describe =>
    have hdescribe : s.describe = s'.describe := (congrArg describe hs :)
    exact mask_respond_eq hs (congrArg (Reply.mask keep) hdescribe)
  | isLoopThread =>
    simp only [perform, howner]
    exact mask_respond_eq hs rfl

theorem mask_perform_eq (hs : s.mask keep = s'.mask keep) {step step' : Step}
    (h : step.Resembles keep step') :
    (s.perform step).mask keep = (s'.perform step').mask keep := by
  cases h with
  | same step => exact mask_perform_same hs step
  | put slot ho hr =>
    obtain ⟨hcallback, hstate⟩ := mask_make_eq hs ho hr
    exact mask_respond_eq (mask_put_eq hstate slot hcallback) rfl
  | setFlags slot hf =>
    refine mask_changeSlot_eq hs slot fun _ _ h => ?_
    simp only [Callback.mask, Callback.maskWith, Callback.mk.injEq] at h ⊢
    exact ⟨h.1, h.2.1, hf⟩
  | act ha =>
    refine mask_ask_eq hs ?_
    simp only [maskTasks, Task.mask, ha]

end Bridge
end HostBridge
