/-!
# Error numbers of the host kernel

The host services report failures of the kernel by error number. Each number has one text, the
lowercase description the kernel's C library gives it, and that text is what the services put
into their messages.
-/
namespace PlatformLayer

inductive Errno where
  | badDescriptor
  | invalidArgument
  | addressInUse
  | addressNotAvailable
  | connectionRefused
  | brokenPipe
  | notSupported
  | notConnected
  | alreadyConnected
  | networkUnreachable
  | notTerminal
  | badAddress
  | isDirectory
  | noEntry
  | noSpace
  | noSuchProcess
  | noMemory
  | overflow
  | destinationRequired
  | noDevice
  | familyNotSupported
  | wouldBlock
  | messageTooLong
  | notPermitted
  | crossDevice
  | nameTooLong
  | notSocket
  deriving DecidableEq, Repr

def Errno.text : Errno → String
  | .badDescriptor => "bad file descriptor"
  | .invalidArgument => "invalid argument"
  | .addressInUse => "address already in use"
  | .addressNotAvailable => "cannot assign requested address"
  | .connectionRefused => "connection refused"
  | .brokenPipe => "broken pipe"
  | .notSupported => "operation not supported"
  | .notConnected => "transport endpoint is not connected"
  | .alreadyConnected => "transport endpoint is already connected"
  | .networkUnreachable => "network is unreachable"
  | .notTerminal => "inappropriate ioctl for device"
  | .badAddress => "bad address"
  | .isDirectory => "is a directory"
  | .noEntry => "no such file or directory"
  | .noSpace => "no space left on device"
  | .noSuchProcess => "no such process"
  | .noMemory => "cannot allocate memory"
  | .overflow => "value too large for defined data type"
  | .destinationRequired => "destination address required"
  | .noDevice => "no such device"
  | .familyNotSupported => "address family not supported by protocol"
  | .wouldBlock => "resource temporarily unavailable"
  | .messageTooLong => "message too long"
  | .notPermitted => "operation not permitted"
  | .crossDevice => "invalid cross-device link"
  | .nameTooLong => "file name too long"
  | .notSocket => "socket operation on non-socket"

/-- The longest path the kernel takes, in bytes, counting the NUL that ends it. -/
def pathMax : Nat := 4096

/-- Why a path the host does not have fails to open: a path holding a NUL byte cannot be handed
to the kernel, one of `pathMax` bytes or more is too long, and any other names no entry. -/
def Errno.ofMissingPath (path : String) : Errno :=
  if path.contains (Char.ofNat 0) then .invalidArgument
  else if path.utf8ByteSize ≥ pathMax then .nameTooLong
  else .noEntry

end PlatformLayer
