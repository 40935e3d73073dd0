import HostBridge.Proofs.Completion.MaskedScript
import Mathlib.Data.List.Forall2

/-!
# Indifference to flags

Two runs of one script, or of the threads in any one order, that differ in flags of callbacks. They
show the same as long as the lowest flags agree; and those may differ too in callbacks that no
complete call is given.
-/
namespace HostBridge

variable {keep : Bool}

inductive Call.Resembles (keep : Bool) : Call → Call → Prop
  | same (call : Call) : Resembles keep call call
  | act {action action' : Action} : action.mask keep = action'.mask keep →
      Resembles keep (.act action) (.act action')
  | put (slot : Nat) {optional optional' : Bool} {recipe recipe' : Recipe} :
      (keep && optional) = (keep && optional') → recipe.mask keep = recipe'.mask keep →
      Resembles keep (.put slot optional recipe) (.put slot optional' recipe')
  | change (slot : Nat) {target target' : Target} {flags flags' : Int32} :
      target.mask keep = target'.mask keep → keptFlags keep flags = keptFlags keep flags' →
      Resembles keep (.change slot target flags) (.change slot target' flags')

inductive Prompt
  | step (t : ThreadId)
  | call (t : ThreadId) (call : Call)
  | enlist

inductive Prompt.Resembles (keep : Bool) : Prompt → Prompt → Prop
  | step (t : ThreadId) : Resembles keep (.step t) (.step t)
  | call (t : ThreadId) {call call' : Call} : call.Resembles keep call' →
      Resembles keep (.call t call) (.call t call')
  | enlist : Resembles keep .enlist .enlist

namespace Bridge

variable {s s' : Bridge}

def isFree (s : Bridge) (t : ThreadId) : Bool :=
  match (s.thread t).tasks with
  | [] => s.threads.contains t && t != .loop
  | .body .. :: _ => true
  | _ => false

theorem isFree_iff {t : ThreadId} : s.isFree t = true ↔ s.IsFree t := by
  unfold isFree IsFree
  cases (s.thread t).tasks with
  | nil => simp
  | cons task rest => cases task <;> simp

def obey (s : Bridge) : Prompt → Bridge
  | .step t => s.advance t
  | .call t call => if s.isFree t then s.call t call else s
  | .enlist => s.enlist

theorem exists_prompt (m : Move s s') : ∃ prompt, s.obey prompt = s' := by
  cases m with
  | step hstep => exact ⟨.step _, congrArg (·.getD s) hstep⟩
  | call call hfree => exact ⟨.call _ call, if_pos (isFree_iff.mpr hfree)⟩
  | enlist => exact ⟨.enlist, rfl⟩

theorem leads_obey (s : Bridge) (prompt : Prompt) : s.Leads (s.obey prompt) := by
  cases prompt with
  | step t =>
    simp only [obey, advance]
    cases hstep : s.step? t with
    | none => exact .refl
    | some _ => exact .single (.step hstep)
  | call t call =>
    simp only [obey]
    split
    · next hfree => exact .single (.call call (isFree_iff.mp hfree))
    · exact .refl
  | enlist => exact .single (.enlist s)

def obeyAll (s : Bridge) (prompts : List Prompt) : Bridge := prompts.foldl obey s

theorem leads_iff : s.Leads s' ↔ ∃ prompts, s.obeyAll prompts = s' := by
  constructor
  · intro h
    unfold Leads at h
    induction h with
    | refl => exact ⟨[], rfl⟩
    | tail _ m ih =>
      obtain ⟨prompts, rfl⟩ := ih
      obtain ⟨prompt, rfl⟩ := exists_prompt m
      exact ⟨prompts ++ [prompt], List.foldl_append⟩
  · rintro ⟨prompts, rfl⟩
    induction prompts generalizing s with
    | nil => exact .refl
    | cons prompt rest ih => exact (leads_obey s prompt).trans ih

def completes? (s : Bridge) : Call → Option Callback
  | .offer slot order => if order.request = .complete then s.slots.get? slot else none
  | _ => none

def GivenAlike (s s' : Bridge) (call call' : Call) : Prop :=
  ∀ callback callback', s.completes? call = some callback → s'.completes? call' = some callback' →
    callback.isOptional = callback'.isOptional

def GivenAlikeAlong (s s' : Bridge) (prompts prompts' : List Prompt) : Prop :=
  ∀ n t call t' call', prompts[n]? = some (.call t call) → prompts'[n]? = some (.call t' call') →
    (s.obeyAll (prompts.take n)).isFree t = true →
      (s.obeyAll (prompts.take n)).GivenAlike (s'.obeyAll (prompts'.take n)) call call'

theorem givenAlikeAlong_of_posts {prompts prompts' : List Prompt}
    (h : ∀ t slot order, Prompt.call t (.offer slot order) ∈ prompts → order.request = .post) :
    s.GivenAlikeAlong s' prompts prompts' := by
  intro n t call t' call' hn _ _ callback _ hcallback
  cases call with
  | offer slot order =>
    have hpost := h t slot order (List.mem_of_getElem? hn)
    simp [completes?, hpost] at hcallback
  | _ => cases hcallback

theorem mask_advance_eq (hs : s.mask keep = s'.mask keep) (t : ThreadId) :
    (s.advance t).mask keep = (s'.advance t).mask keep := by
  have hstep := mask_step?_eq hs t
  unfold advance
  cases hown : s.step? t <;> cases hother : s'.step? t <;> rw [hown, hother] at hstep
  · exact hs
  · cases hstep
  · cases hstep
  · exact Option.some.inj hstep

theorem isFree_mask (s : Bridge) (t : ThreadId) : (s.mask keep).isFree t = s.isFree t := by
  unfold isFree
  rw [thread_mask, threads_mask]
  match htasks : (s.thread t).tasks with
  | [] => simp only [Thread.mask, htasks, maskTasks]
  | task :: rest => cases task <;> simp only [Thread.mask, htasks, maskTasks, Task.mask]

theorem mask_takeOut_eq (hs : s.mask keep = s'.mask keep) (t : ThreadId) (slot : Nat)
    {tasks : Callback → List Task}
    (ht : ∀ callback callback', s.slots.get? slot = some callback →
      s'.slots.get? slot = some callback' → callback.mask keep = callback'.mask keep →
      maskTasks keep (tasks callback) = maskTasks keep (tasks callback')) :
    (s.takeOut t slot tasks).mask keep = (s'.takeOut t slot tasks).mask keep := by
  have hget : (s.slots.get? slot).map (·.mask keep) = (s'.slots.get? slot).map (·.mask keep) := by
    rw [← get?_mask, hs, get?_mask]
  unfold takeOut
  cases hown : s.slots.get? slot <;> cases hother : s'.slots.get? slot <;>
    rw [hown, hother] at hget
  · simp only [mask_reply, hs]
  · cases hget
  · cases hget
  · simp only [mask_push, mask_erase, hs, ht _ _ hown hother (Option.some.inj hget)]

theorem maskWith_eq_of_isOptional {callback callback' : Callback} (request : Request)
    (h : callback.mask keep = callback'.mask keep)
    (ho : request = .complete → keep = false → callback.isOptional = callback'.isOptional) :
    callback.maskWith keep (request.keeps keep) =
      callback'.maskWith keep (request.keeps keep) := by
  cases request with
  | post => exact h
  | complete =>
    cases keep with
    | true => exact h
    | false =>
      have hflags : keptFlags true callback.flags = keptFlags true callback'.flags := by
        have hbit := Bool.eq_iff_iff.mp (ho rfl rfl)
        rw [Callback.isOptional_iff, Callback.isOptional_iff, ← Bool.eq_iff_iff] at hbit
        apply Int32.toBitVec_inj.mp
        simp only [keptFlags, if_pos, Callback.toBitVec_and_optionalFlag, hbit]
      simp only [Callback.mask, Callback.maskWith, Callback.mk.injEq] at h ⊢
      exact ⟨h.1, h.2.1, hflags⟩

theorem mask_change_eq (hs : s.mask keep = s'.mask keep) (t : ThreadId) (slot : Nat)
    {target target' : Target} {flags flags' : Int32} (ht : target.mask keep = target'.mask keep)
    (hf : keptFlags keep flags = keptFlags keep flags') :
    (s.call t (.change slot target flags)).mask keep =
      (s'.call t (.change slot target' flags')).mask keep := by
  have hget : (s.slots.get? slot).map (·.mask keep) = (s'.slots.get? slot).map (·.mask keep) := by
    rw [← get?_mask, hs, get?_mask]
  simp only [call]
  cases hown : s.slots.get? slot <;> cases hother : s'.slots.get? slot <;>
    rw [hown, hother] at hget
  · simp only [mask_reply, hs]
  · cases hget
  · cases hget
  · next callback callback' =>
    have hserial : callback.serial = callback'.serial :=
      (congrArg Callback.serial (Option.some.inj hget) :)
    refine mask_put_eq hs slot ?_
    simp only [Callback.mask, Callback.maskWith, hserial, ht, hf]

theorem mask_call_same (hs : s.mask keep = s'.mask keep) (t : ThreadId) (call : Call)
    (hg : keep = false → s.GivenAlike s' call call) :
    (s.call t call).mask keep = (s'.call t call).mask keep := by
  have hpush (tasks : List Task) : (s.push t tasks).mask keep = (s'.push t tasks).mask keep := by
    simp only [mask_push, hs]
  have hthread : (s.thread t).mask keep = (s'.thread t).mask keep := by
    rw [← thread_mask, hs, thread_mask]
  have hreceivers : s.receivers = s'.receivers := (congrArg Bridge.receivers hs :)
  cases call with
  | act action => exact hpush _
  | put slot optional recipe =>
    obtain ⟨hcallback, hstate⟩ := mask_make_eq hs rfl (Eq.refl (recipe.mask keep))
    exact mask_put_eq hstate slot hcallback
  | change slot target flags => exact mask_change_eq hs t slot rfl rfl
  | offer slot order =>
    refine mask_takeOut_eq hs t slot fun callback callback' hown hother hc => ?_
    have hkeeps := maskWith_eq_of_isOptional order.request hc fun hcomplete hkeep =>
      hg hkeep callback callback' (by simp [completes?, hcomplete, hown])
        (by simp [completes?, hcomplete, hother])
    simp only [maskTasks, Task.mask, hkeeps]
  | invoke slot result =>
    refine mask_takeOut_eq hs t slot fun _ _ _ _ hc => ?_
    simp only [maskTasks, Task.mask, hc]
  | abort slot =>
    refine mask_takeOut_eq hs t slot fun _ _ _ _ hc => ?_
    simp only [maskTasks, Task.mask, hc]
  | forget slot => exact mask_takeOut_eq hs t slot fun _ _ _ _ _ => rfl
  | poll receiver =>
    have hpoll := congrArg (fun a : Bridge => a.poll receiver) hs
    simp only [← mask_poll, Prod.mk.injEq] at hpoll
    simp only [Bridge.call, mask_reply, hpoll.1, hpoll.2]
  | await receiver =>
    simp only [Bridge.call, hreceivers]
    split
    · simp only [mask_reply, hs]
    · next channel _ =>
      rw [mask_push, mask_push]
      exact congrArg (fun a : Bridge =>
        ({ a with receivers := s'.receivers.erase receiver }).push t [.await channel]) hs
  | dropReceiver receiver => exact mask_congr (·.abandon receiver) (mask_abandon · receiver) hs
  | slotCall call =>
    have hslot : (s.thread t).slot = (s'.thread t).slot := (congrArg Thread.slot hthread :)
    simp only [Bridge.call, hslot, mask_reply, mask_setSlot, hs]
  | clonePoster | dropPoster | openLatch => exact hpush _
  | closeLatch => exact mask_congr (fun a => { a with latched := true }) (fun _ => rfl) hs

theorem mask_call_eq (hs : s.mask keep = s'.mask keep) (t : ThreadId) {call call' : Call}
    (h : call.Resembles keep call') (hg : keep = false → s.GivenAlike s' call call') :
    (s.call t call).mask keep = (s'.call t call').mask keep := by
  cases h with
  | same call => exact mask_call_same hs t call hg
  | act ha => simp only [Bridge.call, mask_push, hs, maskTasks, Task.mask, ha]
  | put slot ho hr =>
    obtain ⟨hcallback, hstate⟩ := mask_make_eq hs ho hr
    exact mask_put_eq hstate slot hcallback
  | change slot ht hf => exact mask_change_eq hs t slot ht hf

theorem mask_obey_eq (hs : s.mask keep = s'.mask keep) {prompt prompt' : Prompt}
    (h : prompt.Resembles keep prompt')
    (hg : keep = false → ∀ t call t' call', prompt = .call t call → prompt' = .call t' call' →
      s.isFree t = true → s.GivenAlike s' call call') :
    (s.obey prompt).mask keep = (s'.obey prompt').mask keep := by
  cases h with
  | step t => exact mask_advance_eq hs t
  | call t hcall =>
    have hfree : s.isFree t = s'.isFree t := by rw [← isFree_mask, hs, isFree_mask]
    simp only [obey, ← hfree]
    split
    · next hown => exact mask_call_eq hs t hcall fun hkeep => hg hkeep t _ t _ rfl rfl hown
    · exact hs
  | enlist => exact mask_congr enlist (fun a => mask_enlist a []) hs

theorem mask_obeyAll_eq (hs : s.mask keep = s'.mask keep) {prompts prompts' : List Prompt}
    (h : List.Forall₂ (Prompt.Resembles keep) prompts prompts')
    (hg : keep = false → s.GivenAlikeAlong s' prompts prompts') :
    (s.obeyAll prompts).mask keep = (s'.obeyAll prompts').mask keep := by
  induction h generalizing s s' with
  | nil => exact hs
  | cons hprompt _ ih =>
    refine ih (mask_obey_eq hs hprompt ?_) fun hkeep n => hg hkeep (n + 1)
    rintro hkeep t call t' call' rfl rfl hfree
    exact hg hkeep 0 t call t' call' rfl rfl hfree

theorem mask_script_eq (hs : s.mask keep = s'.mask keep) {steps steps' : List Step}
    (h : List.Forall₂ (Step.Resembles keep) steps steps') :
    (steps.foldl perform s).mask keep = (steps'.foldl perform s').mask keep := by
  induction h generalizing s s' with
  | nil => exact hs
  | cons hstep _ ih => exact ih (mask_perform_eq hs hstep)

def run? : ThreadId × Event → Option (ThreadId × Event)
  | (t, .started serial name code) => some (t, .started serial name code)
  | (t, .finished serial) => some (t, .finished serial)
  | (t, .native serial context result) => some (t, .native serial context result)
  | (t, .logged record) => some (t, .logged record)
  | _ => none

/-- Two bridges show the same, but for the flags in what they show, and a thread waits in both or in
none. -/
structure LooksLike (keep : Bool) (s s' : Bridge) : Prop where
  runs : s.trace.filterMap run? = s'.trace.filterMap run?
  trace : s.trace.map (fun entry => (entry.1, entry.2.mask keep)) =
    s'.trace.map fun entry => (entry.1, entry.2.mask keep)
  replies : ∀ t, (s.thread t).reply.mask keep = (s'.thread t).reply.mask keep
  errors : ∀ t, (s.thread t).slot = (s'.thread t).slot
  receivers : s.receivers = s'.receivers ∧ s.channels = s'.channels
  loop : s.quitting = s'.quitting ∧ s.gate = s'.gate ∧ s.owner = s'.owner
  waiting : ∀ t, (s.step? t).isSome = (s'.step? t).isSome

theorem looksLike_of_mask_eq (hs : s.mask keep = s'.mask keep) : LooksLike keep s s' := by
  have hthread (t : ThreadId) : (s.thread t).mask keep = (s'.thread t).mask keep := by
    rw [← thread_mask, hs, thread_mask]
  have htrace := (congrArg Bridge.trace hs :)
  have hrun (trace : List (ThreadId × Event)) :
      (trace.map fun entry => (entry.1, entry.2.mask keep)).filterMap run? =
        trace.filterMap run? := by
    rw [List.filterMap_map]
    congr 1
    funext ⟨t, e⟩
    cases e <;> rfl
  constructor
  · rw [← hrun, ← hrun s'.trace]
    exact congrArg (List.filterMap run?) htrace
  · exact htrace
  · exact fun t => (congrArg Thread.reply (hthread t) :)
  · exact fun t => (congrArg Thread.slot (hthread t) :)
  · exact ⟨(congrArg Bridge.receivers hs :), (congrArg Bridge.channels hs :)⟩
  · exact ⟨(congrArg Bridge.quitting hs :), (congrArg Bridge.gate hs :),
      (congrArg Bridge.owner hs :)⟩
  · intro t
    have hstep := congrArg Option.isSome (mask_step?_eq hs t)
    rwa [Option.isSome_map, Option.isSome_map] at hstep

/-- With only the lowest flags kept, nothing shows of the others. With none kept, nothing shows of
any, as long as complete calls are given callbacks with the same lowest flags: in a script they are,
since a complete call makes its callback. -/
structure FlagsLaw (keep : Bool) (s s' : Bridge) : Prop where
  scripts : ∀ steps steps', List.Forall₂ (Step.Resembles keep) steps steps' →
    LooksLike keep (steps.foldl perform s) (steps'.foldl perform s')
  runs : ∀ prompts prompts', List.Forall₂ (Prompt.Resembles keep) prompts prompts' →
    (keep = false → s.GivenAlikeAlong s' prompts prompts') →
      LooksLike keep (s.obeyAll prompts) (s'.obeyAll prompts')

theorem flags_matter_only_to_complete :
    (∀ callback : Callback, callback.OptionalLaw) ∧
      ∀ keep s s', mask keep s = mask keep s' → FlagsLaw keep s s' := by
  refine ⟨Callback.optionalLaw, fun keep s s' hs => ⟨?_, ?_⟩⟩
  · exact fun steps steps' h => looksLike_of_mask_eq (mask_script_eq hs h)
  · exact fun prompts prompts' h hg => looksLike_of_mask_eq (mask_obeyAll_eq hs h hg)

/-- A script that sets flags and completes, with two flag words that share the lowest flag; and a
post of callbacks that share none. Only when they are completed do the latter make a difference. -/
theorem lowest_flag_matters_to_complete :
    let script (flags : Int32) : List Step := [.spawn "loop", .put 1 true (.native 7),
      .setFlags 1 flags, .invoke 1 5, .act (.post ⟨.complete, .poster, 0, 5⟩ true (.native 8))]
    let run (request : Request) (optional : Bool) : List Prompt :=
      [.call .main (.put 1 optional (.native 7)),
        .call .main (.offer 1 ⟨request, .poster, 0, 5⟩)] ++ List.replicate 5 (.step .main)
    let loop := fresh.startLoop "loop"
    LooksLike true ((script 1).foldl perform fresh) ((script (-1)).foldl perform fresh) ∧
      LooksLike false (loop.obeyAll (run .post true)) (loop.obeyAll (run .post false)) ∧
      (loop.obeyAll (run .complete true)).main.reply = .code (Code.receive 5).1 ∧
      (loop.obeyAll (run .complete false)).main.reply = .code .completionPending := by
  refine ⟨?_, ?_, rfl, rfl⟩
  · refine ((flags_matter_only_to_complete.2 true fresh fresh rfl).scripts _ _ ?_)
    have hflags : keptFlags true 1 = keptFlags true (-1) := by decide
    exact .cons (.same _) (.cons (.same _) (.cons (.setFlags 1 hflags)
      (.cons (.same _) (.cons (.same _) .nil))))
  · refine (flags_matter_only_to_complete.2 false _ _ rfl).runs _ _ ?_ fun _ => ?_
    · refine .cons (.call _ (.put 1 rfl rfl)) (.cons (.call _ (.same _)) ?_)
      refine List.forall₂_same.mpr fun prompt hprompt => ?_
      rw [List.eq_of_mem_replicate hprompt]
      exact .step .main
    · refine givenAlikeAlong_of_posts fun t slot order hprompt => ?_
      simp only [List.cons_append, List.nil_append, List.mem_cons, List.mem_replicate,
        Prompt.call.injEq, Call.offer.injEq, reduceCtorEq, and_false, false_or, or_false] at hprompt
      rw [hprompt.2.2]

end Bridge
end HostBridge
