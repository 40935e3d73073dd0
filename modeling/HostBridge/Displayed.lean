import HostBridge.Code
import HostBridge.Comparison
import HostBridge.Completion
import HostBridge.Console
import HostBridge.Entropy.Source
import HostBridge.Settings
import HostBridge.Text.Display
import HostBridge.Value

/-!
# What the bridge displays

Kinds and the codes with a name are displayed by a text that obeys the format. Everything else is
put together from parts, a kind among them in some messages.
-/
namespace HostBridge

def Kind.display (kind : Kind) : Display := .padded kind.name

def Code.display : Code → Display
  | named code => .padded code.text
  | bytes count => .joined [.number count.toInt, .verbatim " bytes"]
  | unrecognized n => .joined [.verbatim "unrecognized code ", .number n.toInt]

def HostId.display (id : HostId) : Display := .joined [.verbatim "#", .number id.number.toNat]

def DecodeError.display : DecodeError → Display
  | unknownKind tag => .joined [.verbatim "unknown variant kind tag ", .number tag.toInt]
  | kindMismatch expected found =>
    .joined [.verbatim "expected ", expected.display, .verbatim " variant, found ", found.display]
  | notAReference found => .joined [.verbatim "expected a reference variant, found ", found.display]

def Console.Level.display (level : Level) : Display := .joined [.padded level.name]

def Comparison.display (c : Comparison) : Display := .joined [.verbatim c.text]

def Entropy.Failure.display (e : Failure) : Display := .joined [.verbatim e.message]

def Receipt.releasedDisplay : Display := .joined [.verbatim releasedMessage]

def SettingsError.display (e : SettingsError) : Display :=
  .joined [.verbatim heading, .padded e.detail]

inductive Displayed
  | kind (kind : Kind)
  | code (code : Code)
  | hostId (id : HostId)
  | level (level : Console.Level)
  | comparison (c : Comparison)
  | decodeError (e : DecodeError)
  | entropyFailure (e : Entropy.Failure)
  | released
  | settingsError (e : SettingsError)

namespace Displayed

def display : Displayed → Display
  | kind k => k.display
  | code c => c.display
  | hostId id => id.display
  | level l => l.display
  | comparison c => c.display
  | decodeError e => e.display
  | entropyFailure e => e.display
  | released => Receipt.releasedDisplay
  | settingsError e => e.display

def text : Displayed → String
  | kind k => k.name
  | code c => c.text
  | hostId id => id.text
  | level l => l.name
  | comparison c => c.text
  | decodeError e => e.message
  | entropyFailure e => e.message
  | released => Receipt.releasedMessage
  | settingsError e => e.message

def formatted (d : Displayed) (f : TextFormat) : String := d.display.text f

end Displayed
end HostBridge
