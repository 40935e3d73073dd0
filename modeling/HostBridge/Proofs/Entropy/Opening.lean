import HostBridge.Entropy.Device
import Mathlib.Tactic.MkIffOfInductiveProp
import Mathlib.Tactic.SplitIfs

/-!
# What a path opens

All names of a path but the last lead to a directory, through links as need be. What the last name
stands for there is opened as it is: a device opens, and a link to a device does not.
-/
namespace HostBridge.Entropy

namespace FileTree

variable {root here : FileNode} {above : List FileNode} {links : Nat} {front : List String}

/-- The entry that the last name of a path has in the directory that the names before it lead to. A
dot names no entry, and a path without names is the root. -/
def named? (tree : FileTree) (path : String) : Option FileNode :=
  match (tree.names path).getLast? with
  | none => some tree.root
  | some name =>
    match follow tree.root linkLimit tree.root [] ((tree.names path).dropLast ++ ["."]) with
    | .ok (.directory entries) => if name = "." ∨ name = ".." then none else entries.lookup name
    | _ => none

@[mk_iff]
structure Opens (tree : FileTree) (path : String) (device : Device) : Prop where
  zero_free : ∀ c ∈ path.toList, c.toNat ≠ 0
  nonempty : path ≠ ""
  short : path.utf8ByteSize ≤ pathLimit
  allowed : tree.refusal path = none
  short_last : ∀ name ∈ (tree.names path).getLast?, name.utf8ByteSize ≤ nameLimit
  named : tree.named? path = some (.device device)

section follow
variable {here' : FileNode} {above' : List FileNode} {path path' : List String}

end follow

variable {name : String} {device : Device}

end FileTree

end HostBridge.Entropy
