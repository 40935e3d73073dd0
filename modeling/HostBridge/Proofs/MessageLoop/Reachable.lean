import HostBridge.MessageLoop.Schedule
import Mathlib.Logic.Relation

/-!
# Reachable states

The code around a loop may use it from any number of threads, and from inside the body of
any closure, those that run on the loop thread included. What such code asks for is a call,
and it may ask for anything whenever it is its turn. A move is a step of a thread, a call,
or a thread that turns up; a state is reachable when moves lead to it from the start of a
loop. So what holds of every reachable state holds for every interleaving.
-/
namespace HostBridge

inductive Call
  | act (action : Action)
  | put (slot : Nat) (optional : Bool) (recipe : Recipe)
  | change (slot : Nat) (target : Target) (flags : Int32)
  | offer (slot : Nat) (order : Order)
  | invoke (slot : Nat) (result : Int32)
  | abort (slot : Nat)
  | forget (slot : Nat)
  | poll (receiver : Nat)
  | await (receiver : Nat)
  | dropReceiver (receiver : Nat)
  | slotCall (call : ErrorSlot.Call)
  | clonePoster
  | dropPoster
  | closeLatch
  | openLatch

namespace Bridge

def takeOut (s : Bridge) (t : ThreadId) (slot : Nat) (tasks : Callback → List Task) : Bridge :=
  match s.slots.get? slot with
  | none => s.reply t (.missing .slot)
  | some callback => { s with slots := s.slots.erase slot }.push t (tasks callback)

def call (s : Bridge) (t : ThreadId) : Call → Bridge
  | .act action => s.push t [.act action]
  | .put slot optional recipe =>
    let (callback, s) := s.make optional recipe
    { s with slots := s.slots.put slot callback }
  | .change slot target flags =>
    match s.slots.get? slot with
    | none => s.reply t (.missing .slot)
    | some callback => { s with slots := s.slots.put slot ⟨callback.serial, target, flags⟩ }
  | .offer slot order => s.takeOut t slot fun callback => [.offer order callback]
  | .invoke slot result => s.takeOut t slot fun callback => [.invoke callback result]
  | .abort slot => s.takeOut t slot fun callback => [.abort callback]
  | .forget slot => s.takeOut t slot fun _ => []
  | .poll receiver =>
    let (reply, s) := s.poll receiver
    s.reply t reply
  | .await receiver =>
    match s.receivers.get? receiver with
    | none => s.reply t (.missing .receiver)
    | some channel => { s with receivers := s.receivers.erase receiver }.push t [.await channel]
  | .dropReceiver receiver => s.abandon receiver
  | .slotCall call =>
    let (answer, slot) := (s.thread t).slot.answer call
    (s.setSlot t slot).reply t (.slot answer)
  | .clonePoster => s.push t [.clonePoster]
  | .dropPoster => s.push t [.dropPoster]
  | .closeLatch => { s with latched := true }
  | .openLatch => s.push t [.openLatch]

/-- Code of its own runs on a thread when the thread has nothing to do for the bridge, or
is in the body of a closure. -/
def IsFree (s : Bridge) (t : ThreadId) : Prop :=
  match (s.thread t).tasks with
  | [] => t ∈ s.threads ∧ t ≠ .loop
  | .body .. :: _ => True
  | _ => False

theorem isFree_of_isIdle {s : Bridge} {t : ThreadId} (ht : t ∈ s.threads) (hl : t ≠ .loop)
    (hi : (s.thread t).isIdle = true) : s.IsFree t := by
  unfold IsFree
  rw [List.isEmpty_iff.mp hi]
  exact ⟨ht, hl⟩

def enlist (s : Bridge) : Bridge := { s with helpers := s.helpers ++ [.idle] }

end Bridge

inductive Move : Bridge → Bridge → Prop
  | step {s s' : Bridge} {t : ThreadId} : s.step? t = some s' → Move s s'
  | call {s : Bridge} {t : ThreadId} (call : Call) : s.IsFree t → Move s (s.call t call)
  | enlist (s : Bridge) : Move s s.enlist

namespace Bridge

def Leads : Bridge → Bridge → Prop := Relation.ReflTransGen Move

/-- Moves lead to the state from the start of a loop. -/
def Reachable (name : String) (s : Bridge) : Prop := (fresh.startLoop name).Leads s

namespace Reachable

variable {name : String} {s s' : Bridge}

theorem start (name : String) : Reachable name (fresh.startLoop name) := Relation.ReflTransGen.refl

theorem move (h : Reachable name s) (m : Move s s') : Reachable name s' :=
  Relation.ReflTransGen.tail h m

theorem leads (h : Reachable name s) (l : s.Leads s') : Reachable name s' :=
  Relation.ReflTransGen.trans h l

theorem induct {P : Bridge → Prop} (h0 : P (fresh.startLoop name))
    (hm : ∀ s s', Reachable name s → P s → Move s s' → P s') (h : Reachable name s) : P s := by
  unfold Reachable Leads at h
  induction h with
  | refl => exact h0
  | tail prior m ih => exact hm _ _ prior ih m

theorem advance (h : Reachable name s) (t : ThreadId) : Reachable name (s.advance t) := by
  unfold Bridge.advance
  cases hs : s.step? t with
  | none => exact h
  | some s' => exact h.move (.step hs)

theorem follow (h : Reachable name s) (schedule : List ThreadId) :
    Reachable name (s.follow schedule) := by
  induction schedule generalizing s with
  | nil => exact h
  | cons t rest ih => exact ih (h.advance t)

theorem act (h : Reachable name s) (t : ThreadId) (action : Action) (schedule : List ThreadId)
    (ht : t ∈ s.threads) (hl : t ≠ .loop) (hi : (s.thread t).isIdle = true) :
    Reachable name ((s.call t (.act action)).follow schedule) :=
  (h.move (.call (.act action) (isFree_of_isIdle ht hl hi))).follow schedule

end Reachable

theorem Leads.induct {name : String} {s s' : Bridge} {P : Bridge → Prop} (hr : Reachable name s)
    (h0 : P s) (hm : ∀ a b, Reachable name a → P a → Move a b → P b) (h : s.Leads s') : P s' := by
  unfold Leads at h
  induction h with
  | refl => exact h0
  | tail prior m ih => exact hm _ _ (hr.leads prior) ih m

end Bridge
end HostBridge
