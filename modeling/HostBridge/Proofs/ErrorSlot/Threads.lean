import HostBridge.Entropy.Device
import HostBridge.Proofs.Completion.Motion
import HostBridge.Proofs.ErrorSlot.Register

/-!
# The error slots of many threads

Code on any thread may call upon the error slot of its thread at any time, a panic in a callback
leaves its message there, and so does a fill that fails. Whatever the threads do and in whatever
order, the slot of each is a register of its own, which only the calls of that thread change.
-/
namespace HostBridge

open ErrorSlot (Register LastSet)
open Entropy (FileTree fillPointer)

structure SlotUse where
  thread : ThreadId
  call : ErrorSlot.Call
  reply : Reply

def Reply.Tells (reply : Reply) : ErrorSlot.Answer → Prop
  | .nothing => True
  | .text told => reply = .slot (.text told) ∨ reply = .ofText? told
  | answer => reply = .slot answer

def Task.slotCall? : Task → Option ErrorSlot.Call
  | .body _ name (.panic payload :: _) => some (.set (panicMessage name payload.text))
  | .act (.setError message) => some (.set message)
  | .act .takeError => some .take
  | _ => none

def Call.slotCall? : Call → Option ErrorSlot.Call
  | .slotCall call => some call
  | _ => none

def fillReport? (tree : FileTree) (env : Environment) (memory : Pointer) (length : Nat) :
    Option String :=
  (fillPointer tree env .empty memory length).slot.message

inductive Activity
  | move (motion : Motion)
  | fill (thread : ThreadId) (tree : FileTree) (env : Environment) (memory : Pointer)
      (length : Nat)

def Activity.thread? : Activity → Option ThreadId
  | move motion => motion.thread?
  | fill t .. => some t

inductive Happens : Bridge → Activity → Bridge → Prop
  | move {s s' : Bridge} {motion : Motion} : Moved s motion s' → Happens s (.move motion) s'
  | fill {s : Bridge} {t : ThreadId} (tree : FileTree) (env : Environment) (memory : Pointer)
      (length : Nat) : s.IsFree t → Happens s (.fill t tree env memory length)
        (s.setSlot t (fillPointer tree env (s.thread t).slot memory length).slot)

namespace Bridge

def slotCall? (s : Bridge) : Activity → Option (ThreadId × ErrorSlot.Call)
  | .move (.step t) => (s.tasks t).head?.bind fun task => task.slotCall?.map (t, ·)
  | .move (.call t call) => call.slotCall?.map (t, ·)
  | .move .enlist => none
  | .fill t tree env memory length =>
    (fillReport? tree env memory length).map fun message => (t, .set message)

def slotUses (s : Bridge) (activity : Activity) (s' : Bridge) : List SlotUse :=
  (s.slotCall? activity).toList.map fun (t, call) => ⟨t, call, (s'.thread t).reply⟩

end Bridge

/-- Activities lead to the state from the start of a loop, with these calls on the way. -/
inductive Lived (name : String) : List SlotUse → Bridge → Prop
  | start : Lived name [] (Bridge.fresh.startLoop name)
  | next {history : List SlotUse} {s s' : Bridge} {activity : Activity} :
      Lived name history s → Happens s activity s' →
      Lived name (history ++ s.slotUses activity s') s'

theorem Task.touch_eq (task : Task) (slot : ErrorSlot) :
    task.touch slot = (task.slotCall?.map fun call => (slot.answer call).2).getD slot := by
  cases task with
  | body closure name actions =>
    cases actions with
    | nil => rfl
    | cons action rest => cases action <;> rfl
  | act action => cases action <;> rfl
  | _ => rfl

theorem Call.touch_eq (call : Call) (slot : ErrorSlot) :
    call.touch slot = (call.slotCall?.map fun call => (slot.answer call).2).getD slot := by
  cases call <;> rfl

theorem fillPointer_slot (tree : FileTree) (env : Environment) (slot : ErrorSlot)
    (memory : Pointer) (length : Nat) : (fillPointer tree env slot memory length).slot =
      ((fillReport? tree env memory length).map slot.set).getD slot := by
  unfold fillReport? fillPointer
  split
  · rfl
  · split
    · rfl
    · dsimp only
      split <;> rfl

namespace Bridge

variable {s s' : Bridge} {t : ThreadId} {activity : Activity} {call : ErrorSlot.Call}

theorem reply_self (ht : t ∈ s.threads) (reply : Reply) :
    ((s.reply t reply).thread t).reply = reply :=
  congrArg Thread.reply (s.thread_updateThread_self t (fun thread => { thread with reply }) ht)

theorem tells_step? {task : Task} {rest : List Task} (hb : s.tasks t = task :: rest)
    (h : s.step? t = some s') (hcall : task.slotCall? = some call) :
    (s'.thread t).reply.Tells ((s.errorSlots t).answer call).1 := by
  unfold Task.slotCall? at hcall
  split at hcall <;> cases hcall
  · trivial
  · trivial
  · rw [step?_eq hb] at h
    cases h
    have hslot : ((s.setTasks t rest).thread t).slot = s.errorSlots t :=
      congrFun (errorSlots_setTasks s t rest) t
    refine .inr ?_
    simp only [act, hslot]
    refine reply_self ?_ _
    rw [setSlot, threads_updateThread]
    exact mem_threads_setTasks hb

theorem tells_slot (answer : ErrorSlot.Answer) : (Reply.slot answer).Tells answer := by
  cases answer with
  | nothing => trivial
  | text told => exact .inl rfl
  | flag | copy => rfl

theorem tells_call (ht : t ∈ s.threads) :
    ((s.call t (.slotCall call)).thread t).reply.Tells ((s.errorSlots t).answer call).1 := by
  have hreply : ((s.call t (.slotCall call)).thread t).reply =
      .slot ((s.errorSlots t).answer call).1 := by
    refine reply_self ?_ _
    rw [setSlot, threads_updateThread]
    exact ht
  rw [hreply]
  exact tells_slot _

structure UsesSlot (s s' : Bridge) (t : ThreadId) (call : ErrorSlot.Call) : Prop where
  slots : s'.errorSlots = Function.update s.errorSlots t ((s.errorSlots t).answer call).2
  told : (s'.thread t).reply.Tells ((s.errorSlots t).answer call).1

theorem errorSlots_of_slotCall?_eq_none (h : Happens s activity s')
    (hnone : s.slotCall? activity = none) : s'.errorSlots = s.errorSlots := by
  cases h with
  | move hmoved =>
    cases hmoved with
    | step hstep =>
      obtain ⟨task, rest, hb⟩ := exists_task hstep
      have hcall : task.slotCall? = none := by simpa [slotCall?, hb] using hnone
      rw [errorSlots_step? hb hstep, Task.touch_eq, hcall]
      exact Function.update_eq_self ..
    | call call hfree =>
      have hcall : call.slotCall? = none := by simpa [slotCall?] using hnone
      rw [errorSlots_call hfree.mem_threads, Call.touch_eq, hcall]
      exact Function.update_eq_self ..
    | enlist => exact errorSlots_enlist s []
  | @fill t tree env memory length hfree =>
    have hreport : fillReport? tree env memory length = none := by simpa [slotCall?] using hnone
    rw [errorSlots_setSlot s t _ hfree.mem_threads, fillPointer_slot, hreport]
    exact Function.update_eq_self ..

theorem usesSlot_of_slotCall?_eq_some (h : Happens s activity s')
    (hsome : s.slotCall? activity = some (t, call)) : UsesSlot s s' t call := by
  cases h with
  | move hmoved =>
    cases hmoved with
    | step hstep =>
      obtain ⟨task, rest, hb⟩ := exists_task hstep
      obtain ⟨hcall, rfl⟩ : task.slotCall? = some call ∧ _ = t := by
        simpa [slotCall?, hb] using hsome
      exact ⟨by rw [errorSlots_step? hb hstep, Task.touch_eq, hcall]; rfl,
        tells_step? hb hstep hcall⟩
    | call other hfree =>
      obtain ⟨hcall, rfl⟩ : other.slotCall? = some call ∧ _ = t := by
        simpa [slotCall?] using hsome
      refine ⟨by rw [errorSlots_call hfree.mem_threads, Call.touch_eq, hcall]; rfl, ?_⟩
      cases other <;> cases hcall
      exact tells_call hfree.mem_threads
    | enlist => cases hsome
  | @fill u tree env memory length hfree =>
    obtain ⟨message, hreport, rfl, rfl⟩ : ∃ message, fillReport? tree env memory length =
        some message ∧ u = t ∧ .set message = call := by
      simpa [slotCall?] using hsome
    refine ⟨?_, trivial⟩
    rw [errorSlots_setSlot s u _ hfree.mem_threads, fillPointer_slot, hreport]
    rfl

end Bridge

def callsOf (history : List SlotUse) (t : ThreadId) : List ErrorSlot.Call :=
  (history.filter fun use => use.thread == t).map (·.call)

/-- The thread was told what a register answers after the earlier calls of that thread. -/
def SlotUse.AnsweredAfter (before : List SlotUse) (use : SlotUse) : Prop :=
  use.reply.Tells (Register.answer (Register.after (callsOf before use.thread)) use.call).1

structure SlotsAreRegisters (history : List SlotUse) (s : Bridge) : Prop where
  held : ∀ t, (s.errorSlots t).message = Register.after (callsOf history t)
  told : Guarded SlotUse.AnsweredAfter history

theorem callsOf_concat (history : List SlotUse) (use : SlotUse) (t : ThreadId) :
    callsOf (history ++ [use]) t = if use.thread = t then callsOf history t ++ [use.call]
      else callsOf history t := by
  by_cases h : use.thread = t <;> simp [callsOf, h]

section run
variable {name : String} {history : List SlotUse} {s s' : Bridge} {activity : Activity}

theorem slotsAreRegisters_start : SlotsAreRegisters [] (Bridge.fresh.startLoop name) where
  held t := by cases t <;> rfl
  told := guarded_nil

theorem SlotsAreRegisters.next (h : SlotsAreRegisters history s)
    (hstep : Happens s activity s') :
    SlotsAreRegisters (history ++ s.slotUses activity s') s' := by
  cases hcall : s.slotCall? activity with
  | none =>
    have hslots := Bridge.errorSlots_of_slotCall?_eq_none hstep hcall
    simp only [Bridge.slotUses, hcall, Option.toList_none, List.map_nil, List.append_nil]
    exact ⟨fun t => hslots ▸ h.held t, h.told⟩
  | some pair =>
    obtain ⟨t, call⟩ := pair
    obtain ⟨hslots, htold⟩ := Bridge.usesSlot_of_slotCall?_eq_some hstep hcall
    obtain ⟨hanswer, hmessage⟩ := ErrorSlot.answer_simulates (s.errorSlots t) call
    simp only [Bridge.slotUses, hcall, Option.toList_some, List.map_cons, List.map_nil]
    constructor
    · -- The call counts for its own thread and goes to the slot of that thread alone.
      intro u
      rw [callsOf_concat, hslots]
      by_cases hu : t = u
      · subst hu
        rw [Function.update_self, if_pos rfl, Register.after_concat, hmessage, h.held t]
      · rw [Function.update_of_ne (Ne.symm hu), if_neg hu, h.held u]
    · refine guarded_append.mpr ⟨h.told, guarded_singleton.mpr ?_⟩
      rw [SlotUse.AnsweredAfter, List.append_nil, ← h.held t, ← hanswer]
      exact htold

theorem Lived.slotsAreRegisters (h : Lived name history s) : SlotsAreRegisters history s := by
  induction h with
  | start => exact slotsAreRegisters_start
  | next _ hstep ih => exact ih.next hstep

/-- What the error slots of all threads are like, whatever has happened: each has the message that
the last writing call on it has set, if that set one. Every call was answered as a register answers
it, no thread notices what others do, and there is a copy of every message and of nothing else. -/
structure SlotLaw (history : List SlotUse) (s : Bridge) : Prop where
  held : ∀ t message, (s.errorSlots t).message = some message ↔
    LastSet (callsOf history t) message
  has : ∀ t, (s.errorSlots t).has = true ↔ ∃ message, LastSet (callsOf history t) message
  told : Guarded SlotUse.AnsweredAfter history
  apart : ∀ activity s' t, Happens s activity s' → activity.thread? ≠ some t →
    s'.errorSlots t = s.errorSlots t
  copied : ∀ t, match (s.errorSlots t).message with
    | none => (s.errorSlots t).getCopy.1 = none ∧ (s.errorSlots t).takeCopy.1 = none
    | some message => ∃ copy, (s.errorSlots t).getCopy.1 = some copy ∧
      (s.errorSlots t).takeCopy.1 = some copy ∧ ErrorSlot.IsCopy message copy

theorem Bridge.thread?_of_slotCall? {t : ThreadId} {call : ErrorSlot.Call}
    (h : s.slotCall? activity = some (t, call)) : activity.thread? = some t := by
  cases activity with
  | move motion =>
    cases motion with
    | step u =>
      obtain ⟨task, -, hcall⟩ := Option.bind_eq_some_iff.mp h
      obtain ⟨other, -, heq⟩ := Option.map_eq_some_iff.mp hcall
      cases heq
      rfl
    | call u other =>
      obtain ⟨made, -, heq⟩ := Option.map_eq_some_iff.mp h
      cases heq
      rfl
    | enlist => cases h
  | fill u tree env memory length =>
    obtain ⟨message, -, heq⟩ := Option.map_eq_some_iff.mp h
    cases heq
    rfl

theorem Happens.apart {t : ThreadId} (h : Happens s activity s')
    (ht : activity.thread? ≠ some t) : s'.errorSlots t = s.errorSlots t := by
  cases hcall : s.slotCall? activity with
  | none => rw [Bridge.errorSlots_of_slotCall?_eq_none h hcall]
  | some pair =>
    obtain ⟨u, call⟩ := pair
    have hu : t ≠ u := fun heq => ht (heq ▸ Bridge.thread?_of_slotCall? hcall)
    rw [(Bridge.usesSlot_of_slotCall?_eq_some h hcall).slots, Function.update_of_ne hu]

theorem Lived.ask {t : ThreadId} (h : Lived name history s) (call : Call) (ht : t ∈ s.threads)
    (hl : t ≠ .loop) (hidle : (s.thread t).isIdle = true) :
    Lived name (history ++ s.slotUses (.move (.call t call)) (s.call t call)) (s.call t call) :=
  h.next (.move (.call call (Bridge.isFree_of_isIdle ht hl hidle)))

theorem slots_are_registers (name : String) (history : List SlotUse) (s : Bridge)
    (h : Lived name history s) : SlotLaw history s := by
  have hregisters := h.slotsAreRegisters
  have hheld (t : ThreadId) (message : String) : (s.errorSlots t).message = some message ↔
      LastSet (callsOf history t) message := by
    rw [hregisters.held, Register.after_eq_some_iff]
  refine ⟨hheld, fun t => ?_, hregisters.told, fun _ _ _ => Happens.apart, fun t => ?_⟩
  · simp only [ErrorSlot.has, Option.isSome_iff_exists, hheld]
  · rw [(s.errorSlots t).getCopy_spec.1, (s.errorSlots t).takeCopy_spec.1]
    cases (s.errorSlots t).message with
    | none => exact ⟨rfl, rfl⟩
    | some message => exact ⟨_, rfl, rfl, ErrorSlot.isCopy_copyOf message⟩

/-- Two threads take turns: what one of them takes is not what the other has. -/
theorem slots_are_registers_in_turns : ∃ history s, Lived "loop" history s ∧
    history.map (fun use => (use.thread, use.call)) =
      [(.main, .set "bad\x00byte"), (.helper 0, .has),
        (.helper 0, .set "fill_random: null buffer"), (.main, .getCopy), (.main, .takeCopy),
        (.main, .has), (.helper 0, .take)] ∧
    (history.map (·.reply)).getLast? = some (.text "fill_random: null buffer") ∧
    SlotLaw history s := by
  have hstart : Lived "loop" [] _ := .start
  have henlist := hstart.next (.move (.enlist _))
  have hset := henlist.ask (t := .main) (.slotCall (.set "bad\x00byte")) (by decide) nofun rfl
  have hhas := hset.ask (t := .helper 0) (.slotCall .has) (by decide) nofun rfl
  have hfill := hhas.next (.fill (t := .helper 0) ⟨.special, [], fun _ => none⟩ (fun _ => none)
    none 8 (Bridge.isFree_of_isIdle (by decide) nofun rfl))
  have hget := hfill.ask (t := .main) (.slotCall .getCopy) (by decide) nofun rfl
  have htake := hget.ask (t := .main) (.slotCall .takeCopy) (by decide) nofun rfl
  have hhas' := htake.ask (t := .main) (.slotCall .has) (by decide) nofun rfl
  have hact := hhas'.ask (t := .helper 0) (.act .takeError) (by decide) nofun rfl
  have hstep := hact.next (.move (.step (t := .helper 0) rfl))
  exact ⟨_, _, hstep, rfl, rfl, slots_are_registers _ _ _ hstep⟩

end run

end HostBridge
