import HostBridge.Entropy.Device
import HostBridge.Proofs.Entropy.Delivery
import HostBridge.Proofs.Entropy.Liveness
import HostBridge.Proofs.Entropy.Opening
import HostBridge.Proofs.Settings.Configured

/-!
# A fill succeeds only on good bytes

A fill across the boundary comes to one of four verdicts, by the pointer, the length and the device
that the environment configures. Its status, the bytes it writes and the message it leaves behind
follow from the verdict and from that device; nothing else of the file tree plays a part.
-/
namespace HostBridge.Entropy

variable {tree : FileTree} {env : Environment} {slot : ErrorSlot} {memory : Pointer} {length : Nat}
  {device : Device} {path : String}

/-- The device that the environment configures, as the file tree opens it. -/
def ConfiguredDevice (tree : FileTree) (env : Environment) (device : Device) : Prop :=
  ∃ path, Settings.Configures env .entropyDevice path ∧ tree.Opens path device

theorem configuredDevice_iff : ConfiguredDevice tree env device ↔
    tree.Opens (Settings.ofEnvironment env).entropyDevice device := by
  simp only [ConfiguredDevice, Settings.configures_iff]
  exact exists_eq_left'

theorem ConfiguredDevice.unique {other : Device} (h : ConfiguredDevice tree env device)
    (hother : ConfiguredDevice tree env other) : device = other := by
  rw [configuredDevice_iff] at h hother
  have hsame := h.named.symm.trans hother.named
  injection hsame with hsame
  injection hsame

inductive Verdict
  | filled | unavailable | allZero | missingBuffer
  deriving DecidableEq, Repr

namespace Verdict

def status : Verdict → Int32
  | filled => 0
  | unavailable => -1
  | allZero => -2
  | missingBuffer => -3

def report : Verdict → Option String
  | filled => none
  | unavailable => some "fill_random: secure random device unavailable"
  | allZero => some "fill_random: secure random source returned insufficient entropy"
  | missingBuffer => some "fill_random: null buffer"

def mark (verdict : Verdict) (slot : ErrorSlot) : ErrorSlot :=
  match verdict.report with
  | some text => slot.set text
  | none => slot

end Verdict

/-- The verdict that a pointer, a length and the configured device call for. -/
def Judged (tree : FileTree) (env : Environment) (memory : Pointer) (length : Nat) :
    Verdict → Prop
  | .filled => length = 0 ∨ memory ≠ none ∧ ∃ device, ConfiguredDevice tree env device ∧
      length ≤ (device.supply length).length ∧ ∃ byte ∈ device.supply length, byte ≠ 0
  | .unavailable => 0 < length ∧ memory ≠ none ∧ ¬∃ device, ConfiguredDevice tree env device ∧
      length ≤ (device.supply length).length
  | .allZero => 0 < length ∧ memory ≠ none ∧ ∃ device, ConfiguredDevice tree env device ∧
      length ≤ (device.supply length).length ∧ ∀ byte ∈ device.supply length, byte = 0
  | .missingBuffer => 0 < length ∧ memory = none

/-- The memory after a fill: what the configured device delivered stands at its front, and without
such a device it is left alone. -/
structure Written (tree : FileTree) (env : Environment) (memory : Pointer) (length : Nat)
    (after : Pointer) : Prop where
  delivered : ∀ device, ConfiguredDevice tree env device → after = memory.map fun bytes =>
    device.supply length ++ bytes.drop (device.supply length).length
  untouched : (∀ device, ¬ConfiguredDevice tree env device) → after = memory

theorem Judged.unique {a b : Verdict} (ha : Judged tree env memory length a)
    (hb : Judged tree env memory length b) : a = b := by
  -- Verdicts that speak of a device speak of the same one.
  have hunique (d e : Device) : ConfiguredDevice tree env d → ConfiguredDevice tree env e → d = e :=
    ConfiguredDevice.unique
  cases a <;> cases b <;> grind [Judged]

section congr
variable {tree' : FileTree} {env' : Environment}
  (hsame : ∀ device, ConfiguredDevice tree' env' device ↔ ConfiguredDevice tree env device)
include hsame

theorem Written.congr {after : Pointer} (h : Written tree env memory length after) :
    Written tree' env' memory length after :=
  ⟨fun device hdevice => h.delivered device ((hsame device).mp hdevice),
    fun hnone => h.untouched fun device => mt (hsame device).mpr (hnone device)⟩

end congr

theorem Written.unique {a b : Pointer} (ha : Written tree env memory length a)
    (hb : Written tree env memory length b) : a = b := by
  by_cases h : ∃ device, ConfiguredDevice tree env device
  · obtain ⟨device, hdevice⟩ := h
    exact (ha.delivered device hdevice).trans (hb.delivered device hdevice).symm
  · have hnone := not_exists.mp h
    exact (ha.untouched hnone).trans (hb.untouched hnone).symm

section nonempty
variable {bytes : List UInt8} (hpos : 0 < length) (hlength : length ≤ bytes.length)
include hpos hlength

end nonempty

end HostBridge.Entropy
