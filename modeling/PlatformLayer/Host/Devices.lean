import PlatformLayer.Host.Descriptors
import PlatformLayer.Device.Service
import PlatformLayer.Errno
/-!
# The device files of the host

`/dev/null` reads nothing, `/dev/zero` reads zeros, and `/dev/full` reads zeros and refuses every
write; every other name is missing or a directory. The devices answer only the control commands
the kernel handles for every file, and are always ready to read.
-/
namespace PlatformLayer

inductive HostDevice where
  | null
  | zero
  | full
  deriving DecidableEq, Repr

namespace HostDevice

def lookup (name : String) : Except Errno HostDevice :=
  match name with
  | "/dev/null" => .ok .null
  | "/dev/zero" => .ok .zero
  | "/dev/full" => .ok .full
  | "/" | "/dev" | "." => .error .isDirectory
  | _ => .error (Errno.ofMissingPath name)

/-- The most bytes one read or write moves: 2 GiB less a page. -/
def maxTransfer : Nat := 0x7ffff000

def read (d : HostDevice) (size : Nat) : Nat × Bytes :=
  match d with
  | .null => (0, [])
  | _ => let n := min size maxTransfer; (n, List.replicate n 0)

def write (d : HostDevice) (data : Bytes) : Except Errno Nat :=
  match d with
  | .full => .error .noSpace
  | _ => .ok data.length

end HostDevice

def closeOnExecSet : Nat := 0x5451

def closeOnExecClear : Nat := 0x5450

/-- The commands every file answers by reading or writing through their argument: non-blocking
and asynchronous mode, the block size, setting file flags and extended attributes, range
cloning and deduplication. -/
def argumentCommands : List Nat :=
  [0x5421, 0x5452, 0x2, 0x40086602, 0x401C5820, 0x4020940D, 0xC0189436]

/-- Reading the identifier of the file system, which goes through the argument when the file
system has one. -/
def fileSystemIdCommand : Nat := 0x80111500

/-- Setting and getting the wait parameters of an event poll instance, through the argument. -/
def eventPollCommands : List Nat := [0x40088A01, 0x80088A02]

/-- Freezing and thawing the file system, which only its administrator may do. -/
def freezeCommands : List Nat := [0xC0045877, 0xC0045878]

/-- Mapping a file's extents, which the device file system does not offer. -/
def extentMapCommand : Nat := 0xC020660B

/-- Cloning a whole file from the descriptor the argument names: the null argument names the
process's standard input, which lives on another file system. -/
def cloneCommand : Nat := 0x40049409

/-- The outcome of a control command with the null argument on a file: `own` are the commands
the file answers itself through the argument, and `hasFileSystemId` whether its file system has
an identifier. -/
def controlOutcomeWith (own : List Nat) (hasFileSystemId : Bool) (cmd : Nat) :
    Except Errno Int :=
  let c := cmd % 4294967296
  if c = closeOnExecSet ∨ c = closeOnExecClear then .ok 0
  else if argumentCommands.contains c || own.contains c then .error .badAddress
  else if c = fileSystemIdCommand then
    if hasFileSystemId then .error .badAddress else .error .notTerminal
  else if freezeCommands.contains c then .error .notPermitted
  else if c = extentMapCommand then .error .notSupported
  else if c = cloneCommand then .error .crossDevice
  else .error .notTerminal

/-- The outcome of a control command with the null argument on a device, whose file system
has an identifier. -/
def controlOutcome (cmd : Nat) : Except Errno Int := controlOutcomeWith [] true cmd

namespace RuntimeFile

/-- Read into a buffer of `size` bytes. The poll instance cannot be read; the event counter
reads only into eight bytes or more, and at zero it has nothing to give. -/
def read : RuntimeFile → Nat → Except Errno (Nat × Bytes)
  | .eventPoll, _ => .error .invalidArgument
  | .wakeEvent, size => if size < 8 then .error .invalidArgument else .error .wouldBlock

/-- Write bytes. The poll instance cannot be written; the event counter takes eight bytes or
more, the first eight being a count added to it, which may not be the largest one. -/
def write : RuntimeFile → Bytes → Except Errno Nat
  | .eventPoll, _ => .error .invalidArgument
  | .wakeEvent, data =>
    if data.length < 8 then .error .invalidArgument
    else if (data.take 8).all (· == 0xFF) then .error .invalidArgument
    else .ok 8

/-- The outcome of a control command with the null argument: the runtime's files live on a file
system without an identifier, and the poll instance answers its own two commands. -/
def control : RuntimeFile → Nat → Except Errno Int
  | .eventPoll, cmd => controlOutcomeWith eventPollCommands false cmd
  | .wakeEvent, cmd => controlOutcomeWith [] false cmd

end RuntimeFile

abbrev HostFiles := HostTable HostDevice

namespace HostFiles

abbrev Step (α : Type) := HostFiles → Except Errno α × HostFiles

def openPath (name : String) : Step Int := fun t =>
  match HostDevice.lookup name with
  | .ok d => let (fd, t') := t.add d; (.ok fd, t')
  | .error e => (.error e, t)

def close (fd : Int) : Step Unit := fun t =>
  match t.remove fd with
  | some t' => (.ok (), t')
  | none => (.error .badDescriptor, t)

def onFile {α : Type} (fd : Int) (device : HostDevice → Except Errno α)
    (runtime : RuntimeFile → Except Errno α) : Step α := fun t =>
  match t.held? fd with
  | some (.file d) => (device d, t)
  | some (.runtime r) => (runtime r, t)
  | none => (.error .badDescriptor, t)

/-- Mark in `ready` the watched descriptors below `maxFd` that have something to read: every
device, and none of the runtime's files. It fails at a descriptor that is not open, leaving
the ready set untouched. -/
def select (t : HostFiles) (maxFd : Int) (watch ready : DescriptorSet) :
    Except Errno Int × DescriptorSet :=
  let fds := watch.below maxFd
  if fds.all fun fd => (t.held? fd).isSome then
    let readable := fds.filter fun fd => (t.get? fd).isSome
    (.ok readable.length, DescriptorSet.ofList readable)
  else (.error .badDescriptor, ready)

def lift {α : Type} (step : Step α) : StateM HostFiles (Except Errno α) := modifyGet step

def backend : DeviceBackend (StateM HostFiles) Errno where
  openPath name := lift (openPath name)
  close fd := lift (close fd)
  read fd size := lift (onFile fd (fun d => let (n, bs) := d.read size; .ok ((n : Int), bs))
    fun r => (r.read size).map fun (n, bs) => ((n : Int), bs))
  write fd data := lift (onFile fd (fun d => (d.write data).map fun n => (n : Int))
    fun r => (r.write data).map fun n => (n : Int))
  control fd cmd _ := lift (onFile fd (fun _ => controlOutcome cmd) fun r => r.control cmd)
  select maxFd watch ready _ := do pure ((← get).select maxFd watch ready)

end HostFiles

end PlatformLayer
