import HostBridge.Number.Decimal
import HostBridge.Text.Classes
import HostBridge.Toml.Document

/-!
# Settings

The bridge has three settings, each a text with a default. A document may give some of
them, and variables of the environment override both. A variable counts when it is a
text with something besides blanks in it. A document is taken whole or not at all: it is
refused at its first entry that is no setting or no text.
-/
namespace HostBridge

inductive Setting
  | entropyDevice | logFilter | loopName
  deriving DecidableEq, Repr

namespace Setting

def all : List Setting := [entropyDevice, logFilter, loopName]

def key : Setting → String
  | entropyDevice => "entropy_device"
  | logFilter => "log_filter"
  | loopName => "loop_name"

def variableName : Setting → String
  | entropyDevice => "PLUGBRIDGE_ENTROPY_DEVICE"
  | logFilter => "PLUGBRIDGE_LOG"
  | loopName => "PLUGBRIDGE_LOOP_NAME"

def default : Setting → String
  | entropyDevice => "/dev/urandom"
  | logFilter => "plugbridge=info"
  | loopName => "plugbridge-loop"

def expected : Setting → String
  | entropyDevice => "path string"
  | logFilter | loopName => "a string"

def ofKey? (key : String) : Option Setting := all.find? (·.key == key)

end Setting

structure Settings where
  entropyDevice : String
  logFilter : String
  loopName : String
  deriving DecidableEq, Repr

abbrev Environment := String → Option (List UInt8)

namespace Settings

def get (s : Settings) : Setting → String
  | .entropyDevice => s.entropyDevice
  | .logFilter => s.logFilter
  | .loopName => s.loopName

def set (s : Settings) (setting : Setting) (value : String) : Settings :=
  match setting with
  | .entropyDevice => { s with entropyDevice := value }
  | .logFilter => { s with logFilter := value }
  | .loopName => { s with loopName := value }

def standard : Settings :=
  ⟨Setting.entropyDevice.default, Setting.logFilter.default, Setting.loopName.default⟩

/-- The text of a variable without the blanks around it, unless nothing is left. -/
def ofVariable? (env : Environment) (setting : Setting) : Option String := do
  let text := trimmed (← String.fromUTF8? ⟨(← env setting.variableName).toArray⟩)
  if text.isEmpty then none else some text

def override (s : Settings) (env : Environment) : Settings :=
  Setting.all.foldl (fun s setting =>
    match ofVariable? env setting with
    | some text => s.set setting text
    | none => s) s

def ofEnvironment (env : Environment) : Settings := standard.override env

end Settings

inductive SettingsFault
  | unknownKey (key : String)
  | notText (setting : Setting) (found : String)
  deriving DecidableEq, Repr

inductive SettingsError
  | notToml
  | entry (text : String) (span : Span) (fault : SettingsFault)
  deriving DecidableEq, Repr

namespace SettingsFault

def key (k : String) : String := "`" ++ k ++ "`"

def message : SettingsFault → String
  | unknownKey k =>
    "unknown field " ++ key k ++ ", expected one of " ++
      ", ".intercalate (Setting.all.map fun setting => key setting.key)
  | notText setting found => "invalid type: " ++ found ++ ", expected " ++ setting.expected

end SettingsFault

namespace SettingsError

def floatLayout : DecimalLayout := ⟨true, none⟩

def textOf : Toml.Item → Except String String
  | .value (.string s) _ => .ok s
  | .value (.integer i) _ => .error ("integer `" ++ intText i ++ "`")
  | .value (.float x) _ => .error ("floating point `" ++ x.text floatLayout ++ "`")
  | .value (.boolean b) _ => .error ("boolean `" ++ boolText b ++ "`")
  | .value (.array _) _ | .tables _ => .error "sequence"
  | .value (.dateTime _) _ | .value (.inline _) _ | .table _ => .error "map"

structure Place where
  line : Nat
  column : Nat
  content : List Char

def charsWithin : Nat → List Char → List Char
  | _, [] => []
  | bytes, c :: rest =>
    if bytes < c.utf8Size then [] else c :: charsWithin (bytes - c.utf8Size) rest

def placeOf (text : List Char) (offset : Nat) : Place :=
  let before := charsWithin offset text
  let line := before.count '\n'
  ⟨line, (before.reverse.takeWhile (· != '\n')).length, (text.splitOn '\n').getD line []⟩

def spaced (count : Nat) (c : Char) : String := String.ofList (List.replicate count c)

/-- The line of an offence with a mark under it. The mark is as long as the offence has
bytes, as far as the line goes. -/
def excerpt (text : String) (span : Span) : String :=
  let place := placeOf text.toList span.start
  let number := natText (place.line + 1)
  let margin := spaced (number.length + 1) ' ' ++ "|"
  let marked := min (span.stop - span.start) (byteCount place.content - place.column)
  "TOML parse error at line " ++ number ++ ", column " ++ natText (place.column + 1) ++ "\n" ++
    margin ++ "\n" ++
    number ++ " | " ++ String.ofList place.content ++ "\n" ++
    margin ++ spaced (place.column + 1) ' ' ++ spaced (max 1 marked) '^' ++ "\n"

def heading : String := "Failed to parse bridge config: "

def detail : SettingsError → String
  | notToml => "TOML parse error"
  | entry text span fault => excerpt text span ++ fault.message ++ "\n"

def message (e : SettingsError) : String := heading ++ e.detail

end SettingsError

namespace Settings

def applyEntry (text : String) (s : Settings) (entry : Toml.Key × Toml.Item) :
    Except SettingsError Settings :=
  match Setting.ofKey? entry.1.text with
  | none => .error (.entry text entry.1.span (.unknownKey entry.1.text))
  | some setting =>
    match SettingsError.textOf entry.2 with
    | .ok value => .ok (s.set setting value)
    | .error found =>
      .error (.entry text (entry.2.span.getD entry.1.span) (.notText setting found))

def parse (text : String) : Except SettingsError Settings :=
  match Toml.parse? text with
  | none => .error .notToml
  | some table => table.entries.foldlM (applyEntry text) standard

end Settings
end HostBridge
