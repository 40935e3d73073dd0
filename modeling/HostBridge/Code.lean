import HostBridge.Log.Record
import HostBridge.Text.Display

/-!
# Result codes

Host calls and completions report a 32-bit number. Twenty-nine numbers have names,
a positive number counts bytes, and any other number is kept as unrecognized, with a
warning. One number has no code of its own: a connection that timed out is a plain
time-out, and is the only number that does not come back from its code.
-/
namespace HostBridge

inductive NamedCode
  | ok | completionPending | failed | aborted | badArgument | badResource | noInterface
  | noAccess | noMemory | noSpace | noQuota | inProgress | notSupported | blocksMainThread
  | fileNotFound | fileExists | fileTooBig | fileChanged | notAFile | timedOut | userCancel
  | noUserGesture | contextLost | noMessageLoop | wrongThread | connectionClosed
  | connectionReset | connectionRefused | connectionAborted
  deriving DecidableEq, Repr

inductive Code
  | named (code : NamedCode)
  | bytes (count : Int32)
  | unrecognized (number : Int32)
  deriving DecidableEq, Repr

namespace NamedCode

def number : NamedCode → Int32
  | ok => 0
  | completionPending => -1
  | failed => -2
  | aborted => -3
  | badArgument => -4
  | badResource => -5
  | noInterface => -6
  | noAccess => -7
  | noMemory => -8
  | noSpace => -9
  | noQuota => -10
  | inProgress => -11
  | notSupported => -12
  | blocksMainThread => -13
  | fileNotFound => -20
  | fileExists => -21
  | fileTooBig => -22
  | fileChanged => -23
  | notAFile => -24
  | timedOut => -30
  | userCancel => -40
  | noUserGesture => -41
  | contextLost => -50
  | noMessageLoop => -51
  | wrongThread => -52
  | connectionClosed => -100
  | connectionReset => -101
  | connectionRefused => -102
  | connectionAborted => -103

def label : NamedCode → String
  | ok => "Ok"
  | completionPending => "CompletionPending"
  | failed => "Failed"
  | aborted => "Aborted"
  | badArgument => "BadArgument"
  | badResource => "BadResource"
  | noInterface => "NoInterface"
  | noAccess => "NoAccess"
  | noMemory => "NoMemory"
  | noSpace => "NoSpace"
  | noQuota => "NoQuota"
  | inProgress => "InProgress"
  | notSupported => "NotSupported"
  | blocksMainThread => "BlocksMainThread"
  | fileNotFound => "FileNotFound"
  | fileExists => "FileExists"
  | fileTooBig => "FileTooBig"
  | fileChanged => "FileChanged"
  | notAFile => "NotAFile"
  | timedOut => "TimedOut"
  | userCancel => "UserCancel"
  | noUserGesture => "NoUserGesture"
  | contextLost => "ContextLost"
  | noMessageLoop => "NoMessageLoop"
  | wrongThread => "WrongThread"
  | connectionClosed => "ConnectionClosed"
  | connectionReset => "ConnectionReset"
  | connectionRefused => "ConnectionRefused"
  | connectionAborted => "ConnectionAborted"

def text : NamedCode → String
  | ok => "ok"
  | completionPending => "completion callback pending"
  | failed => "failed"
  | aborted => "aborted"
  | badArgument => "bad argument"
  | badResource => "bad resource"
  | noInterface => "no interface"
  | noAccess => "no access"
  | noMemory => "no memory"
  | noSpace => "no space"
  | noQuota => "no quota"
  | inProgress => "in-progress"
  | notSupported => "not supported"
  | blocksMainThread => "blocks main thread"
  | fileNotFound => "file not found"
  | fileExists => "file exists"
  | fileTooBig => "file too big"
  | fileChanged => "file changed"
  | notAFile => "not a file"
  | timedOut => "timed out"
  | userCancel => "user cancel"
  | noUserGesture => "no user gesture"
  | contextLost => "context lost"
  | noMessageLoop => "no message loop"
  | wrongThread => "wrong thread"
  | connectionClosed => "connection closed"
  | connectionReset => "connection reset"
  | connectionRefused => "connection attempt refused"
  | connectionAborted => "connection aborted"

end NamedCode

namespace Code

abbrev ok : Code := named .ok
abbrev completionPending : Code := named .completionPending
abbrev failed : Code := named .failed
abbrev badArgument : Code := named .badArgument

def connectionTimedOut : Int32 := -105

def listed : List (Int32 × NamedCode) :=
  [(0, .ok), (-1, .completionPending), (-2, .failed), (-3, .aborted), (-4, .badArgument),
    (-5, .badResource), (-6, .noInterface), (-7, .noAccess), (-8, .noMemory), (-9, .noSpace),
    (-10, .noQuota), (-11, .inProgress), (-12, .notSupported), (-13, .blocksMainThread),
    (-20, .fileNotFound), (-21, .fileExists), (-22, .fileTooBig), (-23, .fileChanged),
    (-24, .notAFile), (-30, .timedOut), (-40, .userCancel), (-41, .noUserGesture),
    (-50, .contextLost), (-51, .noMessageLoop), (-52, .wrongThread), (-100, .connectionClosed),
    (-101, .connectionReset), (-102, .connectionRefused), (-103, .connectionAborted),
    (connectionTimedOut, .timedOut)]

def ofNumber (n : Int32) : Code :=
  match listed.lookup n with
  | some code => named code
  | none => if 0 < n then bytes n else unrecognized n

def number : Code → Int32
  | named code => code.number
  | bytes count => count
  | unrecognized n => n

def isOk : Code → Bool
  | named .ok | named .completionPending | bytes _ => true
  | _ => false

def result (c : Code) : Except Code Code := if c.isOk then .ok c else .error c

def keep {α : Type} (c : Code) (a : α) : Option α := if c.isOk then some a else none

def warnings : Code → List Log.Record
  | unrecognized n =>
    [⟨.warn, "plugbridge_core::code", "unrecognized host result code",
      [.bare "code" (intText n.toInt)]⟩]
  | _ => []

def receive (n : Int32) : Code × List Log.Record := (ofNumber n, (ofNumber n).warnings)

def text : Code → String
  | named code => code.text
  | bytes count => intText count.toInt ++ " bytes"
  | unrecognized n => "unrecognized code " ++ intText n.toInt

def label : Code → String
  | named code => code.label
  | bytes count => "Bytes(" ++ intText count.toInt ++ ")"
  | unrecognized n => "Unrecognized(" ++ intText n.toInt ++ ")"

end Code
end HostBridge
