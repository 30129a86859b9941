import PlatformLayer.Session.Platform
import PlatformLayer.Session.Handles
import PlatformLayer.Host.Devices
/-!
# Requests on the device service over the host's device files

Each step is a call of the device service over the host's device files, with the build's
groups. Descriptors go by handle. Only a few names may be opened: the empty name, the three
devices, the directories `/`, `/dev` and `.`, and paths under `/nonexistent/` or
`nonexistent/`. A control command takes the null argument only.
-/
namespace PlatformLayer.Session

def allowedDeviceName (name : String) : Bool :=
  ["", "/dev/null", "/dev/zero", "/dev/full", "/", "/dev", "."].contains name ||
    name.startsWith "/nonexistent/" || name.startsWith "nonexistent/"

/-- The refusal of a name that may not be opened: `path "<name>" is not allowed against the real
backends`. -/
def pathRefusal (name : String) : String :=
  "path " ++ Quoted.quote name ++ " is not allowed against the real backends"

def deviceNameField (v : Value) : Read String := do
  let name ← stringField v "name" ""
  if allowedDeviceName name then pure name else throw (pathRefusal name)

inductive DeviceFileStep where
  | openPath (name : String)
  | close (fd : Int)
  | read (fd : Int) (size : Option Nat)
  | write (fd : Int) (data : Option Bytes)
  | control (fd : Int) (cmd : Nat)
  | select (maxFd : Int) (readIn readOut : Option DescriptorSet) (timeoutMs : Nat)

/-- Read a step against the handles so far. A read prepares its buffer before it reads its
descriptor; a control first makes sure that its argument is 0, the only one that is safe on a real device;
a select first makes sure that it waits no longer than `longestWait`, then reads its sets
before its bound. -/
def readDeviceFileStep (handles : Handles) (v : Value) : Read DeviceFileStep := do
  match ← stringField v "do" "" with
  | "open" => pure (.openPath (← deviceNameField v))
  | "close" => pure (.close (← descriptorField handles v))
  | "read" =>
    let size ← bufferField v "size"
    pure (.read (← descriptorField handles v) size)
  | "write" =>
    let fd ← descriptorField handles v
    pure (.write fd (← bytesField v "data"))
  | "control" =>
    if (← intField v "arg" .u64 0) ≠ 0 then
      refuse "control" "only arg 0 is allowed against real devices"
    let fd ← descriptorField handles v
    pure (.control fd (← intField v "cmd" .u64 0).toNat)
  | "select" =>
    let t ← waitField v .u32
    let readIn ← handleSetField handles v "in"
    let readOut ← handleSetField handles v "out"
    pure (.select (← maxField handles v) readIn readOut t.toNat)
  | _ => refuse "devfile" "unknown step"

def fileFaultFields {α : Type} : DeviceService.Result Errno α → List (String × Value)
  | .ok _ => []
  | .error fault => faultFields (fault.mapCause Errno.text)

structure FileBench where
  files : HostFiles
  handles : Handles

def runDeviceFileStep (f : Features) (b : FileBench) :
    DeviceFileStep → List (String × Value) × FileBench
  | .openPath name =>
    match (DeviceService.openPath HostFiles.backend f name).run b.files with
    | (.ok fd, files) =>
      let (h, hs) := b.handles.push fd
      ([("h", Value.nat h)], ⟨files, hs⟩)
    | (r, files) => (("ret", Value.int (-1)) :: fileFaultFields r, { b with files := files })
  | .close fd =>
    let (r, files) := (DeviceService.close HostFiles.backend f fd).run b.files
    (fileFaultFields r, { b with files := files })
  | .read fd size =>
    let (r, files) := (DeviceService.read HostFiles.backend f fd size).run b.files
    let fields := match r with
      | .ok (n, bs) => [("ret", Value.int n), ("data", bytesValue (some (bs.take n.toNat)))]
      | .error _ => ("ret", Value.int (-1)) :: fileFaultFields r
    (fields, { b with files := files })
  | .write fd data =>
    let (r, files) := (DeviceService.write HostFiles.backend f fd data).run b.files
    (("ret", Value.int (match r with | .ok n => n | .error _ => -1)) :: fileFaultFields r,
      { b with files := files })
  | .control fd cmd =>
    let (r, files) := (DeviceService.control HostFiles.backend f fd cmd 0).run b.files
    (("ret", Value.int (match r with | .ok n => n | .error _ => -1)) :: fileFaultFields r,
      { b with files := files })
  | .select maxFd readIn readOut t =>
    let ((r, out), files) :=
      (DeviceService.select HostFiles.backend f (fun _ => pure ()) maxFd readIn readOut t).run
        b.files
    (("ret", Value.int (match r with | .ok n => n | .error _ => -1)) ::
      ("out", handleSetValue b.handles out) :: fileFaultFields r, { b with files := files })

def runDeviceFileSteps (f : Features) : List Value → FileBench → Read (List Value)
  | [], _ => pure []
  | v :: rest, b => do
    let st ← readDeviceFileStep b.handles v
    let (fields, b') := runDeviceFileStep f b st
    pure (.obj fields :: (← runDeviceFileSteps f rest b'))

def deviceFileRequest (build : Build) (req : Value) : Read Value := do
  let steps ← stepsField req
  pure (stepsAnswer (← runDeviceFileSteps build.features steps ⟨HostTable.initial, []⟩))

end PlatformLayer.Session
