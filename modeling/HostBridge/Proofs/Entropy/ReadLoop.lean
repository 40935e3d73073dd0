import HostBridge.Proofs.Entropy.Delivery
import Mathlib.Logic.Relation

/-!
# The read loop in place

A fill reads again and again into the part of the buffer that is not filled yet. Turn for turn the
loop stays inside the buffer, and when it is over it has left behind what the whole reading
delivers: the bytes of the device in their order, and the rest of the buffer as it was.
-/
namespace HostBridge.Entropy

/-- The loop between two reads. -/
structure ReadLoop where
  buffer : List UInt8
  filled : Nat
  unread : List ReadAnswer

namespace ReadLoop

inductive Turn
  | next (loop : ReadLoop)
  | over (ending : ReadEnd) (unread : List ReadAnswer)
  | outside

def start (buffer : List UInt8) (answers : List ReadAnswer) : ReadLoop := ⟨buffer, 0, answers⟩

def slice? (buffer : List UInt8) (place : Nat) : Option (List UInt8) :=
  if place ≤ buffer.length then some (buffer.drop place) else none

def turn (loop : ReadLoop) : Turn :=
  if loop.filled < loop.buffer.length then
    match slice? loop.buffer loop.filled, loop.unread with
    | none, _ => .outside
    | some _, [] => .over .waiting []
    | some _, .retry :: rest => .next { loop with unread := rest }
    | some _, .failed e :: rest => .over (.failed e) rest
    | some slice, .bytes brought :: rest =>
      let taken := brought.take slice.length
      if taken.isEmpty then .over .endOfFile rest
      else
        .next
          { buffer := loop.buffer.take loop.filled ++ (taken ++ slice.drop taken.length)
            filled := loop.filled + taken.length
            unread := rest }
  else .over .full loop.unread

def Turns : ReadLoop → ReadLoop → Prop :=
  Relation.ReflTransGen fun loop next => loop.turn = .next next

end ReadLoop

def ReadAnswer.ending : ReadAnswer → ReadEnd
  | bytes _ => .endOfFile
  | retry => .waiting
  | failed e => .failed e

theorem readFull_of_last {answer : ReadAnswer} (h : answer.isLast = true) (room : Nat)
    (rest : List ReadAnswer) :
    readFull (room + 1) (answer :: rest) = ⟨[], answer.ending, 1, rest⟩ := by
  cases answer with
  | bytes brought =>
    cases List.isEmpty_iff.mp h
    rfl
  | retry => cases h
  | failed e => rfl

theorem offered_append {used : List ReadAnswer} (h : ∀ answer ∈ used, answer.isLast = false)
    (more : List ReadAnswer) : offered (used ++ more) = offered used ++ offered more := by
  induction used with
  | nil => rfl
  | cons answer rest ih =>
    obtain ⟨hanswer, hrest⟩ := List.forall_mem_cons.mp h
    simp only [List.cons_append, offered, hanswer, Bool.false_eq_true, if_false, ih hrest,
      List.append_assoc]

theorem offered_singleton {answer : ReadAnswer} (h : answer.isLast = false) :
    offered [answer] = answer.got := by
  rw [offered, h, offered, if_neg Bool.false_ne_true, List.append_nil]

namespace ReadLoop

def split (front back : List UInt8) (unread : List ReadAnswer) : ReadLoop :=
  ⟨front ++ back, front.length, unread⟩

inductive Turned (front back : List UInt8) : List ReadAnswer → Turn → Prop
  | full {unread : List ReadAnswer} (free : back = []) :
      Turned front back unread (.over .full unread)
  | waiting (free : back ≠ []) : Turned front back [] (.over .waiting [])
  | last {answer : ReadAnswer} {rest : List ReadAnswer} (free : back ≠ [])
      (last : answer.isLast = true) :
      Turned front back (answer :: rest) (.over answer.ending rest)
  | more {answer : ReadAnswer} {rest : List ReadAnswer} (free : back ≠ [])
      (more : answer.isLast = false) :
      Turned front back (answer :: rest)
        (.next (split (front ++ answer.got.take back.length)
          (back.drop (answer.got.take back.length).length) rest))

variable {front back : List UInt8}

theorem slice?_append (front back : List UInt8) :
    slice? (front ++ back) front.length = some back := by
  rw [slice?, if_pos (by simp), List.drop_left]

theorem turned_split (front back : List UInt8) (unread : List ReadAnswer) :
    Turned front back unread (split front back unread).turn := by
  by_cases hfree : back = []
  · have hturn : (split front back unread).turn = .over .full unread := by
      rw [turn, if_neg (by simp [split, hfree])]
      rfl
    exact hturn ▸ .full hfree
  · have hroom : (split front back unread).filled < (split front back unread).buffer.length := by
      simpa [split] using List.length_pos_iff.mpr hfree
    rw [turn, if_pos hroom]
    simp only [split, slice?_append, List.take_left]
    cases unread with
    | nil => exact .waiting hfree
    | cons answer rest =>
      cases answer with
      | retry =>
        have hmore : ReadAnswer.retry.isLast = false := rfl
        simpa [split, ReadAnswer.got] using Turned.more hfree hmore
      | failed e => exact .last hfree rfl
      | bytes brought =>
        cases brought with
        | nil =>
          have hlast : (ReadAnswer.bytes []).isLast = true := rfl
          simpa [ReadAnswer.ending] using Turned.last hfree hlast
        | cons byte more =>
          have htaken : ((byte :: more).take back.length).isEmpty = false := by simp [hfree]
          have hmore : (ReadAnswer.bytes (byte :: more)).isLast = false := rfl
          simp only [htaken, Bool.false_eq_true, if_false]
          simpa [split, ReadAnswer.got] using Turned.more hfree hmore

theorem eq_split {loop : ReadLoop} {front back : List UInt8} (hbuffer : loop.buffer = front ++ back)
    (hfilled : loop.filled = front.length) : loop = split front back loop.unread := by
  rw [split, ← hbuffer, ← hfilled]

/-- The answers used so far were none the last, the bytes that they brought fill the front of the
buffer, and the rest of it is as it was. -/
structure InStep (buffer : List UInt8) (answers used : List ReadAnswer) (loop : ReadLoop) :
    Prop where
  answers_eq : answers = used ++ loop.unread
  going : ∀ answer ∈ used, answer.isLast = false
  filled_eq : loop.filled = ((offered used).take buffer.length).length
  buffer_eq : loop.buffer = (offered used).take buffer.length ++ buffer.drop loop.filled

variable {buffer : List UInt8} {answers used : List ReadAnswer} {loop later : ReadLoop}

theorem inStep_start (buffer : List UInt8) (answers : List ReadAnswer) :
    InStep buffer answers [] (start buffer answers) where
  answers_eq := rfl
  going := by simp
  filled_eq := by simp [start, offered]
  buffer_eq := by simp [start, offered]

theorem InStep.turned (h : InStep buffer answers used loop) :
    Turned ((offered used).take buffer.length) (buffer.drop loop.filled) loop.unread loop.turn := by
  have hturned := turned_split ((offered used).take buffer.length)
    (buffer.drop loop.filled) loop.unread
  rwa [← eq_split h.buffer_eq h.filled_eq] at hturned

theorem InStep.next (h : InStep buffer answers used loop) (hturn : loop.turn = .next later) :
    ∃ answer, InStep buffer answers (used ++ [answer]) later := by
  have hturned := h.turned
  rw [hturn] at hturned
  generalize hunread : loop.unread = unread at hturned
  cases hturned with
  | @more answer rest hfree hmore =>
    -- What this answer brings stands behind what the answers before it have brought.
    have htaken : (offered (used ++ [answer])).take buffer.length =
        (offered used).take buffer.length ++ answer.got.take (buffer.drop loop.filled).length := by
      rw [offered_append h.going, offered_singleton hmore, List.take_append, List.length_drop,
        h.filled_eq, List.length_take]
      congr 2
      omega
    refine ⟨answer, ?_, ?_, ?_, ?_⟩
    · rw [h.answers_eq, hunread, List.append_assoc]
      rfl
    · simpa [or_imp, forall_and] using ⟨h.going, hmore⟩
    · rw [htaken]
      rfl
    · rw [htaken]
      simp only [split, List.drop_drop, List.length_append, ← h.filled_eq]

theorem inStep_of_turns (h : Turns (start buffer answers) loop) :
    ∃ used, InStep buffer answers used loop := by
  induction h with
  | refl => exact ⟨[], inStep_start buffer answers⟩
  | tail _ hturn ih =>
    obtain ⟨used, hstep⟩ := ih
    obtain ⟨answer, hnext⟩ := hstep.next hturn
    exact ⟨used ++ [answer], hnext⟩

theorem InStep.filled_le (h : InStep buffer answers used loop) :
    loop.filled ≤ buffer.length := by
  rw [h.filled_eq, List.length_take]
  exact Nat.min_le_left ..

theorem InStep.length_buffer (h : InStep buffer answers used loop) :
    loop.buffer.length = buffer.length := by
  have hle := h.filled_le
  rw [h.buffer_eq, List.length_append, ← h.filled_eq, List.length_drop]
  omega

theorem InStep.turn_ne_outside (h : InStep buffer answers used loop) : loop.turn ≠ .outside := by
  intro hturn
  have hturned := h.turned
  rw [hturn] at hturned
  generalize loop.unread = unread at hturned
  cases hturned

theorem exists_over (front back : List UInt8) (unread : List ReadAnswer) :
    ∃ last, Turns (split front back unread) last ∧
      last.turn = .over (readFull back.length unread).ending (readFull back.length unread).unread ∧
      last.buffer = front ++ ((readFull back.length unread).delivered ++
        back.drop (readFull back.length unread).delivered.length) := by
  induction unread generalizing front back with
  | nil =>
    have hturned := turned_split front back []
    generalize hturn : (split front back []).turn = turn at hturned
    cases hturned with
    | full hfree =>
      subst hfree
      exact ⟨_, .refl, hturn, rfl⟩
    | waiting hfree =>
      obtain ⟨byte, more, rfl⟩ := List.exists_cons_of_ne_nil hfree
      exact ⟨_, .refl, hturn, rfl⟩
  | cons answer rest ih =>
    have hturned := turned_split front back (answer :: rest)
    generalize hturn : (split front back (answer :: rest)).turn = turn at hturned
    cases hturned with
    | full hfree =>
      subst hfree
      rw [List.length_nil, readFull_zero]
      exact ⟨_, .refl, hturn, rfl⟩
    | last hfree hlast =>
      obtain ⟨byte, more, rfl⟩ := List.exists_cons_of_ne_nil hfree
      rw [List.length_cons, readFull_of_last hlast]
      exact ⟨_, .refl, hturn, rfl⟩
    | more hfree hmore =>
      obtain ⟨room, hroom⟩ := Nat.exists_eq_add_of_lt (List.length_pos_iff.mpr hfree)
      rw [Nat.zero_add] at hroom
      obtain ⟨last, hturns, hover, hbuffer⟩ := ih (front ++ answer.got.take back.length)
        (back.drop (answer.got.take back.length).length)
      have hleft : (back.drop (answer.got.take back.length).length).length =
          room + 1 - answer.got.length := by
        rw [List.length_drop, List.length_take, hroom]
        omega
      rw [hleft] at hover hbuffer
      rw [hroom, readFull_more hmore]
      refine ⟨last, hturns.head hturn, hover, ?_⟩
      rw [hbuffer, Reading.after, hroom]
      simp only [List.append_assoc, List.drop_drop, List.length_append]

theorem Turns.eq_of_over {ending : ReadEnd} {unread : List ReadAnswer} (h : Turns loop later)
    (hover : loop.turn = .over ending unread) : loop = later := by
  rcases h.cases_head with heq | ⟨next, hnext, -⟩
  · exact heq
  · rw [hover] at hnext
    cases hnext

theorem Turns.unique {first last last' : ReadLoop} {ending ending' : ReadEnd}
    {unread unread' : List ReadAnswer} (h : Turns first last) (h' : Turns first last')
    (hover : last.turn = .over ending unread) (hover' : last'.turn = .over ending' unread') :
    last = last' := by
  have hunique : Relator.RightUnique fun loop next : ReadLoop => loop.turn = .next next := by
    intro loop next next' hnext hnext'
    exact Turn.next.inj (hnext.symm.trans hnext')
  rcases Relation.ReflTransGen.total_of_right_unique hunique h h' with hturns | hturns
  · exact Turns.eq_of_over hturns hover
  · exact (Turns.eq_of_over hturns hover').symm

end ReadLoop

open ReadLoop in
theorem fillFrom?_eq_some_iff {path : String} {answers : List ReadAnswer} {buffer : List UInt8}
    {filled : Fill (List ReadAnswer)} : fillFrom? path answers buffer = some filled ↔
      ∃ last ending, Turns (start buffer answers) last ∧ last.turn = .over ending filled.state ∧
        last.buffer = filled.buffer ∧
        ending.outcome? path = some (filled.outcome, filled.records) := by
  obtain ⟨last, hturns, hover, hbuffer⟩ := exists_over [] buffer answers
  rw [fillFrom?, Option.map_eq_some_iff]
  constructor
  · rintro ⟨⟨outcome, records⟩, houtcome, rfl⟩
    exact ⟨last, _, hturns, hover, hbuffer, houtcome⟩
  · rintro ⟨last', ending, hturns', hover', hbuffer', houtcome⟩
    obtain rfl := hturns.unique hturns' hover hover'
    obtain ⟨hending, hunread⟩ := Turn.over.inj (hover.symm.trans hover')
    rw [hending, hunread]
    rw [hbuffer] at hbuffer'
    exact ⟨_, houtcome, by cases filled; cases hbuffer'; rfl⟩

def Needed (room : Nat) (used : List ReadAnswer) : Prop :=
  ∀ before answer after, used = before ++ answer :: after →
    (offered before).length < room ∧ ∀ earlier ∈ before, earlier.isLast = false

theorem needed_nil (room : Nat) : Needed room [] := by
  intro before answer after h
  simp at h

theorem Needed.cons {room : Nat} {answer : ReadAnswer} {used : List ReadAnswer} (hroom : 0 < room)
    (hmore : answer.isLast = false) (h : Needed (room - answer.got.length) used) :
    Needed room (answer :: used) := by
  intro before next after heq
  cases before with
  | nil => exact ⟨hroom, by simp⟩
  | cons first before =>
    obtain ⟨rfl, hrest⟩ := List.cons.inj heq
    obtain ⟨hbefore, hearlier⟩ := h before next after hrest
    constructor
    · rw [offered, hmore, if_neg Bool.false_ne_true, List.length_append]
      omega
    · exact List.forall_mem_cons.mpr ⟨hmore, hearlier⟩

theorem needed_singleton {room : Nat} (hroom : 0 < room) (answer : ReadAnswer) :
    Needed room [answer] := by
  intro before next after heq
  cases before with
  | nil => exact ⟨hroom, by simp⟩
  | cons first before => simp at heq

theorem readFull_used (room : Nat) (answers : List ReadAnswer) :
    ∃ used, answers = used ++ (readFull room answers).unread ∧ Needed room used ∧
      used.length = (readFull room answers).reads := by
  induction answers generalizing room with
  | nil => cases room <;> exact ⟨[], rfl, needed_nil _, rfl⟩
  | cons answer rest ih =>
    cases room with
    | zero =>
      rw [readFull_zero]
      exact ⟨[], rfl, needed_nil _, rfl⟩
    | succ room =>
      cases hlast : answer.isLast with
      | true =>
        rw [readFull_of_last hlast]
        exact ⟨[answer], rfl, needed_singleton (Nat.succ_pos room) answer, rfl⟩
      | false =>
        obtain ⟨used, hused, hneeded, hreads⟩ := ih (room + 1 - answer.got.length)
        rw [readFull_more hlast]
        refine ⟨answer :: used, ?_, hneeded.cons (Nat.succ_pos room) hlast, ?_⟩
        · exact congrArg (answer :: ·) hused
        · exact congrArg (· + 1) hreads

namespace ReadAnswer

def complaint : ReadAnswer → String
  | bytes _ | retry => "entropy device hit end of file"
  | failed e => "entropy device read failed: " ++ e.message

theorem outcome?_ending {answer : ReadAnswer} (h : answer.isLast = true) (path : String) :
    answer.ending.outcome? path = some (.error .deviceUnavailable,
      [⟨.error, target, answer.complaint, [OpenDevice.field path]⟩]) := by
  cases answer with
  | bytes | failed => rfl
  | retry => cases h

end ReadAnswer

theorem readFull_ending_of_short {room : Nat} {answers : List ReadAnswer} {last : ReadAnswer}
    (hshort : (offered answers).length < room) (hlast : answers.find? (·.isLast) = some last) :
    (readFull room answers).ending = last.ending := by
  induction answers generalizing room with
  | nil => cases hlast
  | cons answer rest ih =>
    obtain ⟨room, rfl⟩ := Nat.exists_eq_add_of_lt (Nat.zero_lt_of_lt hshort)
    rw [Nat.zero_add] at hshort ⊢
    rw [List.find?_cons] at hlast
    cases hanswer : answer.isLast with
    | true =>
      rw [hanswer] at hlast
      rw [readFull_of_last hanswer, Option.some.inj hlast]
    | false =>
      rw [hanswer] at hlast
      rw [offered, hanswer, if_neg Bool.false_ne_true, List.length_append] at hshort
      rw [readFull_more hanswer, Reading.after]
      exact ih (by omega) hlast

section fill
variable {answers : List ReadAnswer} {buffer : List UInt8}

theorem isSome_fillFrom?_iff (path : String) :
    (fillFrom? path answers buffer).isSome = true ↔ Ends answers buffer.length := by
  constructor
  · intro h
    refine Classical.byContradiction fun hnot => ?_
    have hwaiting : (readFull buffer.length answers).ending = .waiting := by
      rw [(readFull_delivers buffer.length answers).waiting]
      simpa [Ends] using hnot
    rw [fillFrom?, hwaiting] at h
    cases h
  · intro h
    obtain ⟨unread, records, hfill⟩ := fillFrom?_of_ends path h
    rw [hfill]
    rfl

theorem fillFrom?_of_full (path : String) (h : buffer.length ≤ (offered answers).length) :
    ∃ unread, fillFrom? path answers buffer =
      some ⟨.ok (), (offered answers).take buffer.length, unread, []⟩ := by
  have hreading := readFull_delivers buffer.length answers
  have hlength : ((offered answers).take buffer.length).length = buffer.length :=
    List.length_take_of_le h
  refine ⟨(readFull buffer.length answers).unread, ?_⟩
  rw [fillFrom?, hreading.full.mpr h, hreading.delivered, hlength, List.drop_length,
    List.append_nil]
  rfl

theorem fillFrom?_of_short (path : String)
    (h : (offered answers).length < buffer.length) (hends : Ends answers buffer.length) :
    ∃ last unread, answers.find? (·.isLast) = some last ∧ fillFrom? path answers buffer =
      some ⟨.error .deviceUnavailable, offered answers ++ buffer.drop (offered answers).length,
        unread, [⟨.error, target, last.complaint, [OpenDevice.field path]⟩]⟩ := by
  have hexists : ∃ answer ∈ answers, answer.isLast = true := hends.resolve_left (by omega)
  obtain ⟨last, hlast⟩ := Option.isSome_iff_exists.mp (List.find?_isSome.mpr hexists)
  have hisLast : last.isLast = true := List.find?_some hlast
  refine ⟨last, (readFull buffer.length answers).unread, hlast, ?_⟩
  rw [fillFrom?, readFull_ending_of_short h hlast, ReadAnswer.outcome?_ending hisLast,
    (readFull_delivers buffer.length answers).delivered, List.take_of_length_le (Nat.le_of_lt h)]
  rfl

end fill

open ReadLoop in
/-- What a fill from a device does, whatever its reads answer and however long the buffer is. No
turn of the loop leaves the buffer, and after each the bytes brought so far are in it and nothing
else. The fill is what the loop leaves when it is over, and an open device fills in this way. -/
structure FillsFromReads (path : String) (answers : List ReadAnswer) (buffer : List UInt8) :
    Prop where
  inside : ∀ loop, Turns (start buffer answers) loop →
    loop.turn ≠ .outside ∧ loop.filled ≤ buffer.length ∧ loop.buffer.length = buffer.length
  inStep : ∀ loop, Turns (start buffer answers) loop → ∃ used, InStep buffer answers used loop
  loop_iff : ∀ filled, fillFrom? path answers buffer = some filled ↔
    ∃ last ending, Turns (start buffer answers) last ∧ last.turn = .over ending filled.state ∧
      last.buffer = filled.buffer ∧ ending.outcome? path = some (filled.outcome, filled.records)
  ends_iff : (fillFrom? path answers buffer).isSome = true ↔ Ends answers buffer.length
  ok_iff : (∃ filled, fillFrom? path answers buffer = some filled ∧ filled.outcome = .ok ()) ↔
    buffer.length ≤ (offered answers).length
  full : buffer.length ≤ (offered answers).length → ∃ unread, fillFrom? path answers buffer =
    some ⟨.ok (), (offered answers).take buffer.length, unread, []⟩
  short : (offered answers).length < buffer.length → Ends answers buffer.length →
    ∃ last unread, answers.find? (·.isLast) = some last ∧ fillFrom? path answers buffer =
      some ⟨.error .deviceUnavailable, offered answers ++ buffer.drop (offered answers).length,
        unread, [⟨.error, target, last.complaint, [OpenDevice.field path]⟩]⟩
  reads : ∀ filled, fillFrom? path answers buffer = some filled →
    ∃ used, answers = used ++ filled.state ∧ Needed buffer.length used ∧
      used.length = (readFull buffer.length answers).reads
  source : ∀ device : Device, device.answers buffer.length = answers → ∀ filled,
    fillFrom? path answers buffer = some filled → (OpenDevice.source ⟨path, device⟩).fill () buffer =
      ⟨filled.outcome, filled.buffer, (), filled.records⟩

theorem device_fills_from_reads (path : String) (answers : List ReadAnswer) (buffer : List UInt8) :
    FillsFromReads path answers buffer where
  inside loop hturns := by
    obtain ⟨used, hstep⟩ := ReadLoop.inStep_of_turns hturns
    exact ⟨hstep.turn_ne_outside, hstep.filled_le, hstep.length_buffer⟩
  inStep loop hturns := ReadLoop.inStep_of_turns hturns
  loop_iff filled := fillFrom?_eq_some_iff
  ends_iff := isSome_fillFrom?_iff path
  ok_iff := by
    constructor
    · rintro ⟨filled, hfill, hok⟩
      refine Nat.le_of_not_lt fun hshort => ?_
      have hends : Ends answers buffer.length := by
        rw [← isSome_fillFrom?_iff path, hfill]
        rfl
      obtain ⟨last, unread, -, herror⟩ := fillFrom?_of_short path hshort hends
      rw [hfill] at herror
      cases herror
      cases hok
    · intro hfull
      obtain ⟨unread, hfill⟩ := fillFrom?_of_full path hfull
      exact ⟨_, hfill, rfl⟩
  full := fillFrom?_of_full path
  short := fillFrom?_of_short path
  reads filled hfill := by
    obtain ⟨⟨outcome, records⟩, -, rfl⟩ := Option.map_eq_some_iff.mp hfill
    exact readFull_used buffer.length answers
  source device hanswers filled hfill := by
    simp only [OpenDevice.source, hanswers, hfill]

example : fillFrom? "noise" [.retry, .bytes [7], .retry, .bytes [8, 9], .bytes [10]] [1, 2] =
    some ⟨.ok (), [7, 8], [.bytes [10]], []⟩ := rfl

end HostBridge.Entropy
