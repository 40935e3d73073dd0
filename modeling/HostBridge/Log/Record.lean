import HostBridge.Text.Display
import HostBridge.Text.Reader

/-!
# Log records

A record has a level, the target it is filed under, a message and named fields. It is written on one
line: the level in five columns, the target, the message, and the fields in order. The control
characters that a terminal would act on are escaped in the message.

A threshold says how verbose the records of a target may be: not at all, or up to some level. It is
written by name or by number, from 0 for none to 5 for all.
-/
namespace HostBridge.Log

inductive Level
  | error | warn | info | debug | trace
  deriving DecidableEq, Repr

namespace Level

def name : Level → String
  | error => "ERROR"
  | warn => "WARN"
  | info => "INFO"
  | debug => "DEBUG"
  | trace => "TRACE"

def verbosity : Level → Nat
  | error => 1
  | warn => 2
  | info => 3
  | debug => 4
  | trace => 5

end Level

structure Field where
  name : String
  value : String
  deriving DecidableEq, Repr

structure Record where
  level : Level
  target : String
  message : String
  fields : List Field
  deriving DecidableEq, Repr

namespace Field

def bare (name value : String) : Field := ⟨name, value⟩

def quoted (name value : String) : Field := ⟨name, HostBridge.quoted value⟩

end Field

/-- Bell, backspace, form feed, escape and delete, and the second block of control
characters, are written by their codes. -/
def harmlessChar (c : Char) : List Char :=
  let code := c.toNat
  if code = 0x07 || code = 0x08 || code = 0x0c || code = 0x1b || code = 0x7f then
    '\\' :: 'x' :: hexChars 2 code
  else if 0x80 ≤ code && code ≤ 0x9f then '\\' :: 'u' :: '\x7b' :: (hexChars 1 code ++ ['\x7d'])
  else [c]

def harmless (text : String) : String := String.ofList (text.toList.flatMap harmlessChar)

namespace Record

def line (r : Record) : String :=
  let level := r.level.name
  String.ofList (List.replicate (5 - level.length) ' ') ++ level ++ " " ++ r.target ++ ": " ++
    harmless r.message ++
    String.join (r.fields.map fun field => " " ++ field.name ++ "=" ++ field.value)

end Record
open Reader

inductive Threshold
  | off
  | level (least : Level)
  deriving DecidableEq, Repr

namespace Threshold

def all : List Threshold :=
  [off, level .error, level .warn, level .info, level .debug, level .trace]

def admits : Threshold → Level → Bool
  | off, _ => false
  | level least, l => l.verbosity ≤ least.verbosity

def name : Threshold → String
  | off => "off"
  | level .error => "error"
  | level .warn => "warn"
  | level .info => "info"
  | level .debug => "debug"
  | level .trace => "trace"

def number : Reader Nat := optionally (char '+') *> wholeNumber

def ofChars? (text : List Char) : Option Threshold :=
  match (number.runChars? text).bind (all[·]?) with
  | some threshold => some threshold
  | none => all.find? fun threshold => threshold.name.toList == text.map Char.toLower

end Threshold
end HostBridge.Log
