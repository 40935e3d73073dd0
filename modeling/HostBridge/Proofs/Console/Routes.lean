import HostBridge.Console
import HostBridge.Proofs.Text.Utf8

/-!
# Where writes go

A write that is not empty goes to the sink that was installed last, if it is a whole text and that
sink has not been removed, and to the descriptor of its stream otherwise. Whichever it is, what
arrives there is what the writer is told has been taken, but for the line end that the console adds
itself.
-/
namespace HostBridge.Console

inductive Destination
  | sink (name : String)
  | descriptor (stream : Stream)
  deriving DecidableEq

def Delivery.destination : Delivery → Destination
  | message sink _ _ => .sink sink
  | raw stream _ => .descriptor stream

def Delivery.content : Delivery → List UInt8
  | message _ _ text => utf8 text.toList
  | raw _ bytes => bytes

/-- What is shown of a text lacks its last character if that is a line end, and nothing else. -/
inductive Shown (text : String) : String → List Char → Prop
  | cut {shown : String} : text.toList = shown.toList ++ ['\n'] → Shown text shown ['\n']
  | whole : text.toList.getLast? ≠ some '\n' → Shown text text []

/-- How a write goes while a sink is installed or none is: what the writer is told, what arrives,
and what of the bytes does not. -/
inductive Route (sink : Option String) (w : Write) : Answer → List Delivery → List UInt8 → Prop
  | empty : w.bytes = [] → Route sink w (.ok 0) [] []
  | message {name text shown : String} {ending : List Char} : w.bytes ≠ [] → sink = some name →
      w.bytes = utf8 text.toList → Shown text shown ending →
      Route sink w (.ok w.bytes.length) [.message name w.writer.level shown] (utf8 ending)
  | raw {count : Nat} : w.bytes ≠ [] → (sink = none ∨ ∀ text, w.bytes ≠ utf8 text) →
      w.attempts.settle = .ok count →
      Route sink w (.ok count) [.raw w.writer.stream (w.bytes.take count)] []
  | refused {error : WriteError} : w.bytes ≠ [] → (sink = none ∨ ∀ text, w.bytes ≠ utf8 text) →
      w.attempts.settle = .error error → Route sink w (.error error) [] []

theorem shown_withoutLineEnd (text : String) :
    ∃ ending, Shown text (withoutLineEnd text) ending := by
  unfold withoutLineEnd
  split
  · next hlast =>
    obtain ⟨kept, hkept⟩ := List.getLast?_eq_some_iff.mp hlast
    exact ⟨['\n'], .cut (by rw [String.toList_ofList, hkept, List.dropLast_concat])⟩
  · next hlast => exact ⟨[], .whole hlast⟩

variable {c : Console} {sink : Option String} {w : Write} {answer : Answer}
  {delivered : List Delivery} {lost : List UInt8}

theorem textOf?_eq_none_iff {bytes : List UInt8} :
    textOf? bytes = none ↔ ∀ text, bytes ≠ utf8 text := by
  rw [Option.eq_none_iff_forall_ne_some]
  constructor
  · intro h text hbytes
    refine h (String.ofList text) (fromUTF8?_eq_some_iff.mpr ?_)
    rw [String.toList_ofList, hbytes]
  · exact fun h text htext => h _ (fromUTF8?_eq_some_iff.mp htext)

def Routed (c : Console) (w : Write) (outcome : Answer × Console) : Prop :=
  ∃ delivered lost, Route c.sink w outcome.1 delivered lost ∧
    outcome.2 = { c with deliveries := c.deliveries ++ delivered }

theorem routed_writeRaw (hfilled : w.bytes ≠ [])
    (hraw : c.sink = none ∨ ∀ text, w.bytes ≠ utf8 text) :
    Routed c w (c.writeRaw w.attempts.accept w.writer.stream w.bytes) := by
  unfold writeRaw Attempts.accept
  cases hsettle : w.attempts.settle with
  | ok count => exact ⟨_, [], .raw hfilled hraw hsettle, rfl⟩
  | error e => exact ⟨[], [], .refused hfilled hraw hsettle, by simp⟩

theorem routed_message {name text : String} (hfilled : w.bytes ≠ []) (hsink : c.sink = some name)
    (htext : textOf? w.bytes = some text) : Routed c w (.ok w.bytes.length,
      c.deliver (.message name w.writer.level (withoutLineEnd text))) := by
  obtain ⟨ending, hshown⟩ := shown_withoutLineEnd text
  exact ⟨_, _, .message hfilled hsink (fromUTF8?_eq_some_iff.mp htext) hshown, rfl⟩

theorem routed_write (c : Console) (w : Write) :
    Routed c w (c.write w.attempts.accept w.writer w.bytes) := by
  unfold write
  split
  · next hempty => exact ⟨[], [], .empty (List.isEmpty_iff.mp hempty), by simp⟩
  · next hfilled =>
    have hfilled : w.bytes ≠ [] := fun hempty => hfilled (List.isEmpty_iff.mpr hempty)
    split
    · next hsink htext => exact routed_message hfilled hsink htext
    · next hno =>
      refine routed_writeRaw hfilled ?_
      cases hsink : c.sink with
      | none => exact .inl rfl
      | some name =>
        refine .inr (textOf?_eq_none_iff.mp (Option.eq_none_iff_forall_ne_some.mpr ?_))
        exact fun text => hno name text hsink

def destination (sink : Option String) (w : Write) : Destination :=
  match sink, textOf? w.bytes with
  | some name, some _ => .sink name
  | _, _ => .descriptor w.writer.stream

theorem Route.destination_eq (h : Route sink w answer delivered lost) :
    ∀ d ∈ delivered, d.destination = destination sink w := by
  intro d hd
  cases h with
  | empty | refused => cases hd
  | message _ hsink hbytes =>
    rw [List.mem_singleton.mp hd]
    simp [destination, hsink, textOf?, fromUTF8?_eq_some_iff.mpr hbytes, Delivery.destination]
  | raw _ hraw =>
    rw [List.mem_singleton.mp hd]
    rcases hraw with rfl | hraw
    · rfl
    · rw [← textOf?_eq_none_iff] at hraw
      cases sink <;> simp [destination, hraw, Delivery.destination]

theorem Route.length_eq (h : Route sink w answer delivered lost) (hfilled : w.bytes ≠ []) :
    delivered.length = if answer.isOk then 1 else 0 := by
  cases h with
  | empty hempty => exact absurd hempty hfilled
  | message | raw | refused => rfl

theorem Shown.utf8_eq {text shown : String} {ending : List Char} (h : Shown text shown ending) :
    utf8 shown.toList ++ utf8 ending = utf8 text.toList := by
  cases h with
  | cut hcut => rw [hcut, utf8, utf8, utf8, List.flatMap_append]
  | whole => exact List.append_nil _

theorem Route.content_eq {count : Nat} (h : Route sink w answer delivered lost)
    (hok : answer = .ok count) : count ≤ w.bytes.length ∧
      delivered.flatMap Delivery.content ++ lost = w.bytes.take count := by
  cases h with
  | empty hempty =>
    cases hok
    simp
  | message _ _ hbytes hshown =>
    cases hok
    refine ⟨Nat.le_refl _, ?_⟩
    rw [List.take_length]
    simp [Delivery.content, hshown.utf8_eq, hbytes]
  | raw _ _ hsettle =>
    cases hok
    exact ⟨w.fits _ hsettle, by simp [Delivery.content]⟩
  | refused => cases hok

/-- What commands come to, from the sink that is there: each write takes its route, and nothing
arrives but what writes bring. -/
inductive Course : Option String → List Command → List Answer → List Delivery → Prop
  | done (sink : Option String) : Course sink [] [] []
  | installed {sink : Option String} {name : String} {rest : List Command} {answers : List Answer}
      {later : List Delivery} : Course (some name) rest answers later →
      Course sink (.install name :: rest) answers later
  | removed {sink : Option String} {rest : List Command} {answers : List Answer}
      {later : List Delivery} : Course none rest answers later →
      Course sink (.remove :: rest) answers later
  | written {sink : Option String} {w : Write} {rest : List Command} {answer : Answer}
      {answers : List Answer} {delivered later : List Delivery} {lost : List UInt8} :
      Route sink w answer delivered lost → Course sink rest answers later →
      Course sink (.write w :: rest) (answer :: answers) (delivered ++ later)

theorem course_run (c : Console) (commands : List Command) : ∃ delivered,
    Course c.sink commands (c.run commands).1 delivered ∧
      (c.run commands).2.deliveries = c.deliveries ++ delivered := by
  induction commands generalizing c with
  | nil => exact ⟨[], .done c.sink, by simp [run]⟩
  | cons command rest ih =>
    cases command with
    | install name =>
      obtain ⟨delivered, hcourse, hafter⟩ := ih (c.install name)
      exact ⟨delivered, .installed hcourse, hafter⟩
    | remove =>
      obtain ⟨delivered, hcourse, hafter⟩ := ih c.remove
      exact ⟨delivered, .removed hcourse, hafter⟩
    | write w =>
      obtain ⟨delivered, lost, hroute, hwritten⟩ := routed_write c w
      obtain ⟨later, hcourse, hafter⟩ := ih (c.write w.attempts.accept w.writer w.bytes).2
      rw [hwritten] at hcourse hafter
      refine ⟨delivered ++ later, ?_, ?_⟩
      · simp only [run, perform, hwritten]
        exact .written hroute hcourse
      · simp only [run, perform, hwritten]
        rw [hafter, List.append_assoc]

def Command.isWrite : Command → Bool
  | .write _ => true
  | .install _ | .remove => false

def EndsWith (commands : List Command) (command : Command) : Prop :=
  ∃ before after, commands = before ++ command :: after ∧ ∀ x ∈ after, x.isWrite = true

theorem endsWith_cons {first command : Command} {rest : List Command} :
    EndsWith (first :: rest) command ↔
      first = command ∧ (∀ x ∈ rest, x.isWrite = true) ∨ EndsWith rest command := by
  constructor
  · rintro ⟨_ | ⟨_, before⟩, after, hsplit, hafter⟩
    · obtain ⟨rfl, rfl⟩ := List.cons.inj hsplit
      exact .inl ⟨rfl, hafter⟩
    · exact .inr ⟨before, after, (List.cons.inj hsplit).2, hafter⟩
  · rintro (⟨rfl, hrest⟩ | ⟨before, after, rfl, hafter⟩)
    · exact ⟨[], rest, rfl, hrest⟩
    · exact ⟨first :: before, after, rfl, hafter⟩

theorem sink_run_iff (c : Console) (commands : List Command) (name : String) :
    (c.run commands).2.sink = some name ↔ EndsWith commands (.install name) ∨
      c.sink = some name ∧ ∀ x ∈ commands, x.isWrite = true := by
  induction commands generalizing c with
  | nil => simp [run, EndsWith]
  | cons command rest ih =>
    have hrun : (c.run (command :: rest)).2 = ((c.perform command).2.run rest).2 := rfl
    rw [hrun, ih, endsWith_cons, List.forall_mem_cons]
    cases command with
    | install other =>
      have hno : (Command.install other).isWrite ≠ true := by simp [Command.isWrite]
      simp [hno, perform, install, or_comm]
    | remove => simp [perform, remove, Command.isWrite]
    | write w =>
      obtain ⟨delivered, lost, -, hwritten⟩ := routed_write c w
      simp [perform, hwritten, Command.isWrite]

/-- Where writes go while sinks come and go, and what arrives: every write takes its route, in the
order of the writes. All that arrives of it arrives in one place, once unless it is refused, and
makes up the bytes that the writer is told of, but for a line end. -/
structure WriteLaw (c : Console) (commands : List Command) : Prop where
  course : ∃ delivered, Course c.sink commands (c.run commands).1 delivered ∧
    (c.run commands).2.deliveries = c.deliveries ++ delivered
  latest : ∀ name, (c.run commands).2.sink = some name ↔ EndsWith commands (.install name) ∨
    c.sink = some name ∧ ∀ x ∈ commands, x.isWrite = true
  place : ∀ sink w answer delivered lost, Route sink w answer delivered lost →
    ∀ d ∈ delivered, d.destination = destination sink w
  once : ∀ sink w answer delivered lost, Route sink w answer delivered lost → w.bytes ≠ [] →
    delivered.length = if answer.isOk then 1 else 0
  content : ∀ sink w count delivered lost, Route sink w (.ok count) delivered lost →
    count ≤ w.bytes.length ∧ delivered.flatMap Delivery.content ++ lost = w.bytes.take count

theorem writes_have_one_destination (c : Console) (commands : List Command) :
    WriteLaw c commands where
  course := course_run c commands
  latest := sink_run_iff c commands
  place _ _ _ _ _ h := h.destination_eq
  once _ _ _ _ _ h := h.length_eq
  content _ _ _ _ _ h := h.content_eq rfl

example :
    let lines : Write := ⟨.ofStream .out, [0x61, 0x0A, 0x0A], .took 0, by simp [Attempts.settle]⟩
    let noText : Write := ⟨.ofStream .err, [0xFF, 0x0A], .took 2, by simp [Attempts.settle]⟩
    let late : Write := ⟨.ofStream .out, [0x62, 0x63, 0x64], .interrupted (.took 2), by
      simp [Attempts.settle]⟩
    (empty.run [.install "first", .write lines, .install "second", .write noText, .remove,
        .write late]).2.deliveries =
      [.message "first" .log "a\n", .raw .err [0xFF, 0x0A], .raw .out [0x62, 0x63]] := by
  decide +kernel

end HostBridge.Console
