import PlatformLayer.DescriptorSet
import PlatformLayer.Fault
import PlatformLayer.Platform
import PlatformLayer.Text.Hex
/-!
# The device service

The service stands in front of a `DeviceBackend`: it checks the capability groups, names,
descriptors and buffers before a call reaches the backend, and turns a backend error into the
cause of a failure.
-/
namespace PlatformLayer

/-- What the device service needs from below. `select` gets the bound, the watched set, the
set to mark and the timeout, and answers with the count and the marked set, also when it fails. -/
structure DeviceBackend (m : Type → Type) (ε : Type) where
  openPath : String → m (Except ε Int)
  close : Int → m (Except ε Unit)
  read : Int → Nat → m (Except ε (Int × Bytes))
  write : Int → Bytes → m (Except ε Int)
  control : Int → Nat → Nat → m (Except ε Int)
  select : Int → DescriptorSet → DescriptorSet → Nat → m (Except ε Int × DescriptorSet)

namespace DeviceService

variable {m : Type → Type} [Monad m] {ε : Type}

abbrev Result (ε α : Type) := Except (Fault ε) α

def fdCheck (f : Features) (op : String) (fd : Int) : Option (Fault ε) :=
  if !f.device then some (.unsupported op)
  else if fd < 0 then some (.failed op none)
  else none

def guarded {α : Type} (check : Option (Fault ε)) (op : String) (act : m (Except ε α)) :
    m (Result ε α) :=
  match check with
  | some fault => pure (.error fault)
  | none => do
    match ← act with
    | .ok a => pure (.ok a)
    | .error e => pure (.error (.failed op (some e)))

variable (b : DeviceBackend m ε) (f : Features)

def openPath (name : String) : m (Result ε Int) :=
  let op := "device-open"
  let check : Option (Fault ε) :=
    if !f.device then some (.unsupported op)
    else if name.isEmpty then some (.failed op none)
    else none
  guarded check op (b.openPath name)

def close (fd : Int) : m (Result ε Unit) :=
  guarded (fdCheck f "device-close" fd) "device-close" (b.close fd)

def write (fd : Int) (data : Option Bytes) : m (Result ε Int) :=
  let op := "device-write"
  match fdCheck f op fd, data with
  | some fault, _ => pure (.error fault)
  | none, none => pure (.error (.failed op none))
  | none, some bs => guarded none op (b.write fd bs)

def read (fd : Int) (size : Option Nat) : m (Result ε (Int × Bytes)) :=
  let op := "device-read"
  match fdCheck f op fd, size with
  | some fault, _ => pure (.error fault)
  | none, none => pure (.error (.failed op none))
  | none, some n => guarded none op (b.read fd n)

def control (fd : Int) (cmd arg : Nat) : m (Result ε Int) :=
  guarded (fdCheck f "device-control" fd) "device-control" (b.control fd cmd arg)

/-- Wait until a watched descriptor below `maxFd` is readable: the count and the output set
after. `sleep` is how the service waits when nothing is watched. -/
def select (sleep : Nat → m Unit) (maxFd : Int) (readIn readOut : Option DescriptorSet)
    (timeoutMs : Nat) : m (Result ε Int × Option DescriptorSet) :=
  let op := "device-select"
  if !f.device ∨ !f.deviceSelect then pure (.error (.unsupported op), readOut)
  else
    match readIn with
    | none => do
      sleep timeoutMs
      pure (.ok 0, readOut)
    | some watch =>
      if maxFd < 0 ∨ maxFd > 1024 then pure (.error (.failed op none), readOut)
      else do
        let (r, marked) ← b.select maxFd watch watch timeoutMs
        let after := readOut.map fun _ => marked
        match r with
        | .ok n => pure (.ok n, after)
        | .error e => pure (.error (.failed op (some e)), after)

end DeviceService

/-- Add a descriptor to a set; negative descriptors and no set are skipped. -/
def DescriptorSet.insertValid (s : Option DescriptorSet) (fd : Int) : Option DescriptorSet :=
  if fd < 0 then s else s.map (·.insert fd)

def DescriptorSet.holds (s : Option DescriptorSet) (fd : Int) : Bool :=
  if fd < 0 then false else (s.map (·.contains fd)).getD false

end PlatformLayer
