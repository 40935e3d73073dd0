import HostBridge.ErrorSlot
import HostBridge.Proofs.Text.Utf8
import Mathlib.Data.List.Induction

/-!
# Error slots are registers

A message goes out as the bytes of its text with a question mark for every zero character. So there
is always a copy to hand out, and it is as long as the message and a text again.

An error slot is used like a register that holds a text or nothing: the copy that it keeps beside the
message shows in none of its answers. What the register holds is told by the last call that wrote to
it.
-/
namespace HostBridge.ErrorSlot

def shown (c : Char) : Char := if c = Char.ofNat 0 then '?' else c

def shownText (message : String) : String := String.ofList (message.toList.map shown)

theorem utf8EncodeChar_shown (c : Char) : String.utf8EncodeChar (shown c) =
    (String.utf8EncodeChar c).map fun byte => if byte = 0 then '?'.toUInt8 else byte := by
  by_cases hzero : c = Char.ofNat 0
  · rw [hzero]
    rfl
  · have hbyte : ∀ byte ∈ String.utf8EncodeChar c,
        (if byte = 0 then '?'.toUInt8 else byte) = id byte := by
      rintro byte hbyte
      refine if_neg ?_
      rintro rfl
      exact hzero (zero_mem_utf8EncodeChar hbyte)
    rw [shown, if_neg hzero, List.map_congr_left hbyte, List.map_id]

theorem exportBytes_eq (message : String) :
    exportBytes message = utf8 (shownText message).toList := by
  rw [exportBytes, toList_toUTF8, shownText, String.toList_ofList, utf8, utf8, List.map_flatMap,
    List.flatMap_map]
  simp only [utf8EncodeChar_shown]

theorem zero_not_mem_exportBytes (message : String) : 0 ∉ exportBytes message := by
  intro h
  obtain ⟨byte, -, hbyte⟩ := List.mem_map.mp h
  split at hbyte
  · cases hbyte
  · contradiction

theorem length_exportBytes (message : String) :
    (exportBytes message).length = message.utf8ByteSize := by
  rw [exportBytes, List.length_map, toList_toUTF8, length_utf8]

structure IsCopy (message : String) (copy : TerminatedText) : Prop where
  bytes : copy.bytes = utf8 (shownText message).toList
  length : copy.bytes.length = message.utf8ByteSize
  valid : String.fromUTF8? ⟨copy.bytes.toArray⟩ = some (shownText message)

def copyOf (message : String) : TerminatedText :=
  ⟨exportBytes message, zero_not_mem_exportBytes message⟩

theorem isCopy_copyOf (message : String) : IsCopy message (copyOf message) where
  bytes := exportBytes_eq message
  length := length_exportBytes message
  valid := fromUTF8?_eq_some_iff.mpr (exportBytes_eq message)

theorem handOut_eq (slot : ErrorSlot) (message : String) : slot.handOut message =
    (some (copyOf message), { slot with exported := some (copyOf message) }) := by
  rw [handOut, TerminatedText.ofBytes?, dif_neg (zero_not_mem_exportBytes message)]
  rfl

theorem getCopy_spec (slot : ErrorSlot) :
    slot.getCopy.1 = slot.message.map copyOf ∧ slot.getCopy.2.message = slot.message := by
  obtain ⟨held, exported⟩ := slot
  cases held with
  | none => exact ⟨rfl, rfl⟩
  | some message => simp [getCopy, handOut_eq]

theorem takeCopy_spec (slot : ErrorSlot) :
    slot.takeCopy.1 = slot.message.map copyOf ∧ slot.takeCopy.2.message = none := by
  obtain ⟨held, exported⟩ := slot
  cases held with
  | none => exact ⟨rfl, rfl⟩
  | some message => simp [takeCopy, take, handOut_eq]

abbrev Register := Option String

def Register.answer : Register → Call → Answer × Register
  | _, .set message => (.nothing, some message)
  | held, .take => (.text held, none)
  | held, .has => (.flag held.isSome, held)
  | _, .clear => (.nothing, none)
  | held, .getCopy => (.copy (held.map copyOf), held)
  | held, .takeCopy => (.copy (held.map copyOf), none)
  | held, .panicText payload => (.text (some payload.text), held)
  | held, .elsewhere call => ((answer none call).1, held)

theorem answer_simulates (slot : ErrorSlot) (call : Call) :
    (slot.answer call).1 = (Register.answer slot.message call).1 ∧
      (slot.answer call).2.message = (Register.answer slot.message call).2 := by
  induction call generalizing slot with
  | set | take | has | clear | panicText => exact ⟨rfl, rfl⟩
  | getCopy => exact slot.getCopy_spec.imp_left (congrArg Answer.copy)
  | takeCopy => exact slot.takeCopy_spec.imp_left (congrArg Answer.copy)
  | elsewhere call ih => exact ⟨(ih empty).1, rfl⟩

def Register.after (calls : List Call) : Register :=
  calls.foldl (fun held call => (Register.answer held call).2) none

theorem Register.after_concat (calls : List Call) (call : Call) :
    Register.after (calls ++ [call]) = (Register.answer (Register.after calls) call).2 := by
  rw [Register.after, List.foldl_append]
  rfl

def Call.writes : Call → Bool
  | set _ | take | clear | takeCopy => true
  | has | getCopy | panicText _ | elsewhere _ => false

/-- The last call that wrote was one that set this message. -/
def LastSet (calls : List Call) (message : String) : Prop :=
  ∃ before after, calls = before ++ .set message :: after ∧ ∀ call ∈ after, call.writes = false

theorem lastSet_concat {calls : List Call} {call : Call} {message : String} :
    LastSet (calls ++ [call]) message ↔
      call = .set message ∨ call.writes = false ∧ LastSet calls message := by
  constructor
  · rintro ⟨before, after, hcalls, hafter⟩
    rcases List.eq_nil_or_concat after with rfl | ⟨front, last, rfl⟩
    · exact .inl (List.head_eq_of_cons_eq (List.append_inj_right' hcalls rfl))
    · rw [List.concat_eq_append] at hcalls hafter
      rw [← List.cons_append, ← List.append_assoc] at hcalls
      have hlast : call = last := List.head_eq_of_cons_eq (List.append_inj_right' hcalls rfl)
      exact .inr ⟨hlast ▸ hafter last (by simp), before, front, List.append_inj_left' hcalls rfl,
        fun other hother => hafter other (List.mem_append_left _ hother)⟩
  · rintro (rfl | ⟨hread, before, after, rfl, hafter⟩)
    · exact ⟨calls, [], rfl, by simp⟩
    · refine ⟨before, after ++ [call], by simp, fun other hother => ?_⟩
      rcases List.mem_append.mp hother with hother | hother
      · exact hafter other hother
      · rw [List.mem_singleton.mp hother]
        exact hread

theorem Register.after_eq_some_iff (calls : List Call) (message : String) :
    Register.after calls = some message ↔ LastSet calls message := by
  induction calls using List.reverseRecOn with
  | nil => simp [Register.after, LastSet]
  | append_singleton calls call ih =>
    rw [Register.after_concat, lastSet_concat, ← ih]
    cases call <;> simp [Call.writes, Register.answer]

end HostBridge.ErrorSlot
