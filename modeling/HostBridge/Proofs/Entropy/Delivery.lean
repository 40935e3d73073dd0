import HostBridge.Entropy.Device

/-!
# What a device delivers

A device offers the bytes of its reads, one after another, until a read finds the end of the file or
fails; to be asked to try again is neither. A reading delivers the first of these bytes, as many as
there is room for, and whether it fills the room depends on their number alone.
-/
namespace HostBridge.Entropy

namespace ReadAnswer

def got : ReadAnswer → List UInt8
  | bytes brought => brought
  | retry | failed _ => []

def isLast : ReadAnswer → Bool
  | bytes brought => brought.isEmpty
  | retry => false
  | failed _ => true

end ReadAnswer

def offered : List ReadAnswer → List UInt8
  | [] => []
  | answer :: rest => if answer.isLast then [] else answer.got ++ offered rest

def Ends (answers : List ReadAnswer) (room : Nat) : Prop :=
  room ≤ (offered answers).length ∨ ∃ answer ∈ answers, answer.isLast = true

section steps
variable {answer : ReadAnswer}

theorem readFull_zero (answers : List ReadAnswer) :
    readFull 0 answers = ⟨[], .full, 0, answers⟩ := by cases answers <;> rfl

theorem readFull_last (h : answer.isLast = true) (room : Nat) (rest : List ReadAnswer) :
    (readFull (room + 1) (answer :: rest)).delivered = [] ∧
      (readFull (room + 1) (answer :: rest)).ending ≠ .full ∧
        (readFull (room + 1) (answer :: rest)).ending ≠ .waiting := by
  cases answer with
  | bytes brought =>
    cases List.isEmpty_iff.mp h
    exact ⟨rfl, nofun, nofun⟩
  | retry => cases h
  | failed e => exact ⟨rfl, nofun, nofun⟩

theorem readFull_more (h : answer.isLast = false) (room : Nat) (rest : List ReadAnswer) :
    readFull (room + 1) (answer :: rest) =
      .after (answer.got.take (room + 1)) (readFull (room + 1 - answer.got.length) rest) := by
  cases answer with
  | bytes brought =>
    have htaken : (brought.take (room + 1)).isEmpty = false := by
      cases brought with
      | nil => cases h
      | cons byte more => rfl
    have hleft : room + 1 - min (room + 1) brought.length = room + 1 - brought.length := by omega
    simp only [readFull, htaken, Bool.false_eq_true, if_false, List.length_take, hleft]
    rfl
  | retry => rfl
  | failed e => cases h

end steps

/-- What a reading into so much room comes to. -/
structure Delivers (answers : List ReadAnswer) (room : Nat) (reading : Reading) : Prop where
  delivered : reading.delivered = (offered answers).take room
  full : reading.ending = .full ↔ room ≤ (offered answers).length
  waiting : reading.ending = .waiting ↔
    (offered answers).length < room ∧ ∀ answer ∈ answers, answer.isLast = false

theorem readFull_delivers (room : Nat) (answers : List ReadAnswer) :
    Delivers answers room (readFull room answers) := by
  induction answers generalizing room with
  | nil =>
    cases room with
    | zero => exact ⟨rfl, by simp [readFull, offered], by simp [readFull]⟩
    | succ room => exact ⟨rfl, by simp [readFull, offered], by simp [readFull, offered]⟩
  | cons answer rest ih =>
    cases room with
    | zero =>
      rw [readFull_zero]
      exact ⟨rfl, by simp, by simp⟩
    | succ room =>
      cases hlast : answer.isLast with
      | true =>
        obtain ⟨hdelivered, hfull, hwaiting⟩ := readFull_last hlast room rest
        have hoffered : offered (answer :: rest) = [] := by rw [offered, hlast, if_pos rfl]
        constructor
        · rw [hdelivered, hoffered, List.take_nil]
        · simp [hfull, hoffered]
        · simp [hwaiting, hlast]
      | false =>
        -- What this answer has brought takes room from those after it.
        have hoffered : offered (answer :: rest) = answer.got ++ offered rest := by
          rw [offered, hlast, if_neg (by simp)]
        obtain ⟨hdelivered, hfull, hwaiting⟩ := ih (room + 1 - answer.got.length)
        rw [readFull_more hlast]
        constructor
        · rw [Reading.after, hdelivered, hoffered, List.take_append]
        · rw [Reading.after, hfull, hoffered, List.length_append]
          omega
        · rw [Reading.after, hwaiting, hoffered, List.length_append]
          simp only [List.mem_cons, forall_eq_or_imp, hlast, true_and]
          rw [Nat.lt_sub_iff_add_lt']

theorem readFull_ne_waiting {room : Nat} {answers : List ReadAnswer} (h : Ends answers room) :
    (readFull room answers).ending ≠ .waiting := by
  intro hwaiting
  obtain ⟨hroom, hmore⟩ := (readFull_delivers room answers).waiting.mp hwaiting
  rcases h with henough | ⟨answer, hmem, hlast⟩
  · omega
  · rw [hmore answer hmem] at hlast
    cases hlast

theorem outcome?_of_ne_waiting {ending : ReadEnd} (h : ending ≠ .waiting) (path : String) :
    ∃ records, ending.outcome? path =
      some (if ending = .full then .ok () else .error .deviceUnavailable, records) := by
  cases ending with
  | waiting => exact absurd rfl h
  | _ => exact ⟨_, rfl⟩

def Device.supply (device : Device) (room : Nat) : List UInt8 :=
  (offered (device.answers room)).take room

theorem fillFrom?_of_ends (path : String) {answers : List ReadAnswer} {buffer : List UInt8}
    (h : Ends answers buffer.length) : ∃ unread records, fillFrom? path answers buffer = some
      ⟨if buffer.length ≤ (offered answers).length then .ok () else .error .deviceUnavailable,
        (offered answers).take buffer.length ++
          buffer.drop ((offered answers).take buffer.length).length, unread, records⟩ := by
  have hreading := readFull_delivers buffer.length answers
  obtain ⟨records, houtcome⟩ := outcome?_of_ne_waiting (readFull_ne_waiting h) path
  refine ⟨(readFull buffer.length answers).unread, records, ?_⟩
  rw [fillFrom?, houtcome, ← hreading.delivered]
  simp only [Option.map_some, hreading.full]

end HostBridge.Entropy
