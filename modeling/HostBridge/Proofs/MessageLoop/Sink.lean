import HostBridge.Console
import HostBridge.Proofs.MessageLoop.Gate
import HostBridge.Proofs.Text.Utf8

/-!
# Sinks that call back

What the threads log goes to the console, and a sink that is installed there is code of the host. It
runs on the thread that logs, before that goes on to its next task, and it may ask the loop for
something in its turn. A listener is such a sink with the filter that stands in front of it. The
moves of threads that are listened to are those of threads that are not, with what the listener does
put on top of their tasks.
-/
namespace HostBridge

namespace Console

def messages (c : Console) : List (Level × String) :=
  c.deliveries.filterMap fun
    | .message _ level text => some (level, text)
    | .raw .. => none

theorem withoutLineEnd_append (text : String) : withoutLineEnd (text ++ "\n") = text := by
  have hlist : (text ++ "\n").toList = text.toList ++ ['\n'] := String.toList_append
  simp [withoutLineEnd, hlist]

theorem log_of_sink {c : Console} {sink : String} (hsink : c.sink = some sink)
    (filter : Log.Filter) (record : Log.Record) : c.log filter record =
      if filter.admits record then c.deliver (.message sink (.ofRecord record.level) record.line)
      else c := by
  have hbytes : textOf? (record.line ++ "\n").toUTF8.toList = some (record.line ++ "\n") :=
    fromUTF8?_eq_some_iff.mpr (toList_toUTF8 _)
  have hfilled : (record.line ++ "\n").toUTF8.toList.isEmpty = false := by
    rw [toList_toUTF8, String.toList_append, utf8, List.flatMap_append]
    simp [String.utf8EncodeChar]
  unfold log
  split
  · simp only [writeAll, List.foldl_cons, List.foldl_nil, write, hfilled, hsink, hbytes,
      withoutLineEnd_append]
    rfl
  · rfl

end Console

def Event.record? : Event → Option Log.Record
  | .logged record => some record
  | _ => none

def Log.Record.IsRefusal (record : Log.Record) : Prop :=
  ∃ name, record = Log.loopRecord .warn "post after quit rejected" name ∨
    record = Log.loopRecord .error "message loop is gone" name

namespace Bridge

def recordsSince (s' s : Bridge) : List Log.Record :=
  (s'.trace.drop s.trace.length).filterMap (·.2.record?)

theorem recordsSince_eq {s s' : Bridge} {t : ThreadId} {events : List Event}
    (h : s'.trace = s.trace ++ events.map (t, ·)) :
    s'.recordsSince s = events.filterMap Event.record? := by
  rw [recordsSince, h, List.drop_left, List.filterMap_map]
  rfl

theorem tasks_push (s : Bridge) (t : ThreadId) (tasks : List Task) :
    (s.push t tasks).tasks t = tasks ++ s.tasks t ∨ (s.push t tasks).tasks t = s.tasks t := by
  by_cases ht : t ∈ s.threads
  · exact .inl (frame_push tasks ht).own
  · right
    obtain ⟨index, rfl, hindex⟩ : ∃ index, t = .helper index ∧ s.helpers.length ≤ index := by
      simpa [mem_threads] using ht
    simp [Bridge.tasks, thread, push, updateThread, List.getD_eq_getElem?_getD, hindex]

theorem tasks_push_ne (s : Bridge) {t u : ThreadId} (hu : u ≠ t) (tasks : List Task) :
    (s.push t tasks).tasks u = s.tasks u :=
  congrArg Thread.tasks (thread_updateThread_ne s t _ hu)

theorem core_push (s : Bridge) (t : ThreadId) (tasks : List Task) :
    (s.push t tasks).core = s.core := core_updateThread ..

end Bridge

/-- A sink that does something whenever it is entered, and the filter of what reaches it. -/
structure Listener where
  filter : Log.Filter
  reacts : Console.Level → String → List Action

namespace Listener

variable (l : Listener)

def hears (records : List Log.Record) : List (Console.Level × String) :=
  (records.foldl (·.log l.filter ·) (Console.empty.install "listener")).messages

def tasks (records : List Log.Record) : List Task :=
  (l.hears records).flatMap fun message => (l.reacts message.1 message.2).map .act

def step? (s : Bridge) (t : ThreadId) : Option Bridge :=
  (s.step? t).map fun s' => s'.push t (l.tasks (s'.recordsSince s))

inductive Move : Bridge → Bridge → Prop
  | step {s s' : Bridge} {t : ThreadId} : l.step? s t = some s' → Move s s'
  | call {s : Bridge} {t : ThreadId} (call : Call) : s.IsFree t → Move s (s.call t call)
  | enlist (s : Bridge) : Move s s.enlist

def Leads : Bridge → Bridge → Prop := Relation.ReflTransGen l.Move

def Reachable (name : String) (s : Bridge) : Prop := l.Leads (Bridge.fresh.startLoop name) s

def advance (s : Bridge) (t : ThreadId) : Bridge := (l.step? s t).getD s

def follow (s : Bridge) (schedule : List ThreadId) : Bridge := schedule.foldl l.advance s

/-- Nothing that tells of a refusal makes it call back, be it that the filter drops it. -/
def IsQuiet : Prop := ∀ record : Log.Record, record.IsRefusal → l.tasks [record] = []

theorem hears_eq (records : List Log.Record) : l.hears records =
    (records.filter l.filter.admits).map fun record =>
      (.ofRecord record.level, record.line) := by
  have hfold (c : Console) (hsink : c.sink = some "listener") :
      (records.foldl (·.log l.filter ·) c).messages = c.messages ++
        (records.filter l.filter.admits).map fun record =>
          (.ofRecord record.level, record.line) := by
    induction records generalizing c with
    | nil => simp
    | cons record rest ih =>
      rw [List.foldl_cons, Console.log_of_sink hsink, List.filter_cons]
      split
      · rw [ih (c.deliver _) hsink]
        simp [Console.messages, Console.deliver]
      · exact ih c hsink
  exact hfold _ rfl

theorem tasks_eq_flatMap (records : List Log.Record) :
    l.tasks records = records.flatMap fun record => l.tasks [record] := by
  induction records with
  | nil => rfl
  | cons record rest ih =>
    rw [List.flatMap_cons, ← ih]
    simp only [tasks, hears_eq, List.filter_cons, List.filter_nil]
    split <;> simp

variable {l}

theorem leads_follow (s : Bridge) (schedule : List ThreadId) : l.Leads s (l.follow s schedule) := by
  induction schedule generalizing s with
  | nil => exact .refl
  | cons t rest ih =>
    refine Relation.ReflTransGen.trans ?_ (ih (l.advance s t))
    unfold advance
    cases h : l.step? s t with
    | none => exact .refl
    | some _ => exact .single (.step h)

theorem Reachable.call {name : String} {s : Bridge} (h : l.Reachable name s) (t : ThreadId)
    (call : Call) (schedule : List ThreadId) (ht : t ∈ s.threads) (hl : t ≠ .loop)
    (hi : (s.thread t).isIdle = true) : l.Reachable name (l.follow (s.call t call) schedule) :=
  (h.tail (.call call (Bridge.isFree_of_isIdle ht hl hi))).trans (leads_follow _ schedule)

theorem isOpening_tasks {records : List Log.Record} {x : Task} (hx : x ∈ l.tasks records) :
    x.isOpening = true := by
  obtain ⟨message, -, hx⟩ := List.mem_flatMap.mp hx
  obtain ⟨action, -, rfl⟩ := List.mem_map.mp hx
  rfl

theorem IsQuiet.tasks_eq_nil (hl : l.IsQuiet) {records : List Log.Record}
    (h : ∀ record ∈ records, record.IsRefusal) : l.tasks records = [] := by
  rw [tasks_eq_flatMap, List.flatMap_eq_nil_iff]
  exact fun record hrecord => hl record (h record hrecord)

end Listener
end HostBridge
