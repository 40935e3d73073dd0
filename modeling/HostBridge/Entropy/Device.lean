import HostBridge.Comparison
import HostBridge.Entropy.Source
import HostBridge.ErrorSlot
import HostBridge.Settings

/-!
# Random bytes from a device

A file tree holds directories, regular files, character devices, symbolic links and files of other
kinds. A path is followed component by component; links on the way are followed, at most forty of
them, while a link in the last place is refused. A path that ends in a slash names what its last
component leads to and demands a directory there. Beside that, the system may refuse any opening for
reasons of its own, such as a missing permission.

A device is opened by its path, which must lead to a character device. A failed opening, a failed
read and an early end of the file all make the device unavailable, and each is logged once. The
device is the one that the environment sets, or the default one; no other source is asked.

Across the boundary a fill answers with a status, and a failure leaves its message in the error slot
of the thread. A missing buffer is a failure too, unless there is nothing to fill.
-/
namespace HostBridge.Entropy

/-- Pipes, sockets and block devices are `special`. -/
inductive FileNode
  | directory (entries : List (String × FileNode))
  | regular (bytes : List UInt8)
  | device (device : Device)
  | link (destination : String)
  | special

inductive OpenError
  | notFound | notADirectory | nameTooLong | tooManyLinks | zeroInPath
  | other (description : String) (number : Nat)
  deriving DecidableEq, Repr

def OpenError.message : OpenError → String
  | .notFound => systemMessage "No such file or directory" 2
  | .notADirectory => systemMessage "Not a directory" 20
  | .nameTooLong => systemMessage "File name too long" 36
  | .tooManyLinks => systemMessage "Too many levels of symbolic links" 40
  | .zeroInPath => "file name contained an unexpected NUL byte"
  | .other description number => systemMessage description number

/-- `working` has the names that lead from the root to the working directory. The system may refuse
a path whatever it leads to. -/
structure FileTree where
  root : FileNode
  working : List String
  refusal : String → Option OpenError := fun _ => none

namespace FileTree

def nameLimit : Nat := 255
def pathLimit : Nat := 4095

def linkLimit : Nat := 40

/-- The names between the slashes. A slash at the end counts as a last component that
stays in place. -/
def components (path : String) : List String :=
  let parts := path.toList.splitOn '/' |>.map String.ofList
  let names := parts.filter (!·.isEmpty)
  if path.toList.getLast? = some '/' && !names.isEmpty then names ++ ["."] else names

inductive Progress
  | arrived (node : FileNode)
  | detour (here : FileNode) (above : List FileNode) (path : List String)
  | failed (error : OpenError)

/-- Follows components from the node `here`; `above` holds the directories that lead to
it, the nearest first. -/
def advance (root : FileNode) : FileNode → List FileNode → List String → Progress
  | here, _, [] => .arrived here
  | .directory entries, above, name :: rest =>
    if name = "." then advance root (.directory entries) above rest
    else if name = ".." then
      match above with
      | [] => advance root (.directory entries) [] rest
      | parent :: above => advance root parent above rest
    else if nameLimit < name.utf8ByteSize then .failed .nameTooLong
    else
      match entries.lookup name with
      | none => .failed .notFound
      | some (.link destination) =>
        if rest.isEmpty then .failed .tooManyLinks
        else if destination.isEmpty then .failed .notFound
        else if destination.toList.head? = some '/' then
          .detour root [] (components destination ++ rest)
        else .detour (.directory entries) above (components destination ++ rest)
      | some node => advance root node (.directory entries :: above) rest
  | _, _, _ :: _ => .failed .notADirectory

def follow (root : FileNode) : Nat → FileNode → List FileNode → List String →
    Except OpenError FileNode
  | links, here, above, path =>
    match advance root here above path, links with
    | .arrived node, _ => .ok node
    | .failed e, _ => .error e
    | .detour .., 0 => .error .tooManyLinks
    | .detour here above path, links + 1 => follow root links here above path

def names (tree : FileTree) (path : String) : List String :=
  (if path.toList.head? = some '/' then [] else tree.working) ++ components path

def openPath (tree : FileTree) (path : String) : Except OpenError FileNode :=
  if path.toList.any (·.toNat = 0) then .error .zeroInPath
  else if path.isEmpty then .error .notFound
  else if pathLimit < path.utf8ByteSize then .error .nameTooLong
  else
    match tree.refusal path with
    | some e => .error e
    | none => follow tree.root linkLimit tree.root [] (tree.names path)

end FileTree

structure OpenDevice where
  path : String
  device : Device

namespace OpenDevice

def field (path : String) : Log.Field := .bare "device" path

def openRecord (path message : String) : Log.Record := ⟨.error, target, message, [field path]⟩

def openAt (tree : FileTree) (path : String) :
    Except Failure OpenDevice × List Log.Record :=
  match tree.openPath path with
  | .ok (.device device) => (.ok ⟨path, device⟩, [])
  | .ok _ =>
    (.error .deviceUnavailable, [openRecord path "entropy source is not a character device"])
  | .error e =>
    (.error .deviceUnavailable, [openRecord path ("cannot open entropy device: " ++ e.message)])

end OpenDevice

def ReadEnd.outcome? (path : String) : ReadEnd → Option (Except Failure Unit × List Log.Record)
  | .full => some (.ok (), [])
  | .endOfFile =>
    some (.error .deviceUnavailable,
      [⟨.error, target, "entropy device hit end of file", [OpenDevice.field path]⟩])
  | .failed e =>
    some (.error .deviceUnavailable,
      [⟨.error, target, "entropy device read failed: " ++ e.message, [OpenDevice.field path]⟩])
  | .waiting => none

def fillFrom? (path : String) (answers : List ReadAnswer) (buffer : List UInt8) :
    Option (Fill (List ReadAnswer)) :=
  let reading := readFull buffer.length answers
  (reading.ending.outcome? path).map fun (outcome, records) =>
    ⟨outcome, reading.delivered ++ buffer.drop reading.delivered.length, reading.unread, records⟩

/-- An open device as a source. A device whose answers do not end a fill is one that
fails it. -/
def OpenDevice.source (device : OpenDevice) : Source Unit where
  fill _ buffer :=
    match fillFrom? device.path (device.device.answers buffer.length) buffer with
    | some filled => ⟨filled.outcome, filled.buffer, (), filled.records⟩
    | none => ⟨.error .deviceUnavailable, buffer, (), []⟩

def systemGenerator : Source Unit := ⟨fun _ buffer => ⟨.ok (), randomBytes buffer.length, (), []⟩⟩

def fillRandom (tree : FileTree) (env : Environment) (buffer : List UInt8) : Fill Unit :=
  if buffer.isEmpty then ⟨.ok (), buffer, (), []⟩
  else
    match OpenDevice.openAt tree (Settings.ofEnvironment env).entropyDevice with
    | (.ok device, records) =>
      let filled := fillChecked device.source () buffer
      { filled with records := records ++ filled.records }
    | (.error e, records) => ⟨.error e, buffer, (), records⟩

def badArgument : Int32 := -3

def missingBufferMessage : String := "fill_random: null buffer"

def failureMessage (e : Failure) : String := "fill_random: " ++ e.message

structure BoundaryFill where
  status : Int32
  memory : Pointer
  slot : ErrorSlot
  records : List Log.Record

def fillPointer (tree : FileTree) (env : Environment) (slot : ErrorSlot) (memory : Pointer)
    (length : Nat) : BoundaryFill :=
  if length = 0 then ⟨0, memory, slot, []⟩
  else
    match memory with
    | none => ⟨badArgument, none, slot.set missingBufferMessage, []⟩
    | some bytes =>
      let filled := fillRandom tree env (bytes.take length)
      let memory := some (filled.buffer ++ bytes.drop length)
      match filled.outcome with
      | .ok () => ⟨0, memory, slot, filled.records⟩
      | .error e => ⟨e.status, memory, slot.set (failureMessage e), filled.records⟩

end HostBridge.Entropy
