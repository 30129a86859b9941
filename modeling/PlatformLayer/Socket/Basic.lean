import PlatformLayer.Net.SockAddr
import PlatformLayer.DescriptorSet
/-!
# Sockets: kinds, families and the backend interface

A socket is a stream or a datagram socket of the IPv4 or the IPv6 family. A select waits
with no bound, or up to a time given as seconds and microseconds. `SocketBackend` is what the
socket service needs from below: one action per system call, each in a monad `m` and failing
with a cause of type `ε`. The service checks every argument before it calls the backend, so a
backend only sees valid descriptors, non-empty buffers and addresses that are present.
-/
namespace PlatformLayer

inductive SocketKind where
  | stream
  | dgram
  deriving DecidableEq, Repr

namespace SocketKind

def code : SocketKind → Int
  | .stream => 0
  | .dgram => 1

def ofCode? : Int → Option SocketKind
  | 0 => some .stream
  | 1 => some .dgram
  | _ => none

end SocketKind

/-- The name of a socket type number: `stream`, `dgram`, or `socktype(n)`. -/
def socketTypeName (n : Int) : String :=
  match SocketKind.ofCode? n with
  | some .stream => "stream"
  | some .dgram => "dgram"
  | none => "socktype(" ++ toString n ++ ")"

inductive Family where
  | inet
  | inet6
  deriving DecidableEq, Repr

def Family.code : Family → Int
  | .inet => 0
  | .inet6 => 1

inductive ShutdownHow where
  | read
  | write
  | both
  deriving DecidableEq, Repr

namespace ShutdownHow

def code : ShutdownHow → Int
  | .read => 0
  | .write => 1
  | .both => 2

def ofCode? : Int → Option ShutdownHow
  | 0 => some .read
  | 1 => some .write
  | 2 => some .both
  | _ => none

end ShutdownHow

structure Timeval where
  sec : Int
  usec : Int
  deriving DecidableEq, Repr

/-- The wait in nanoseconds as the host backend hands it to the kernel: seconds and microseconds
recombined in 64-bit arithmetic, which wraps past `2^63 - 1` ns. -/
def Timeval.nanos (tv : Timeval) : Int64 :=
  Int64.ofInt tv.sec * 1000000000 + Int64.ofInt tv.usec * 1000

/-- How long a select waits: `-1` is without bound (`none`), `0` is not at all, a positive
number of milliseconds is split into seconds and microseconds, and any other value is refused
(`none` outside). -/
def selectWait? (timeoutMs : Int) : Option (Option Timeval) :=
  if timeoutMs = -1 then some none
  else if timeoutMs = 0 then some (some ⟨0, 0⟩)
  else if timeoutMs > 0 then some (some ⟨timeoutMs / 1000, timeoutMs % 1000 * 1000⟩)
  else none

structure SelectSets where
  read : Option DescriptorSet
  write : Option DescriptorSet
  except : Option DescriptorSet
  deriving DecidableEq, Repr

/-- What the socket service needs from the system below it. Every action can fail with a cause
of type `ε`; receives return the count and the buffer after the call. -/
structure SocketBackend (m : Type → Type) (ε : Type) where
  init : m (Except ε Unit)
  cleanup : m (Except ε Unit)
  socket : Family → SocketKind → m (Except ε Int)
  setV6Only : Int → m (Except ε Unit)
  close : Int → m (Except ε Unit)
  shutdown : Int → ShutdownHow → m (Except ε Unit)
  bind : Int → Net.SockAddr → m (Except ε Unit)
  bind6 : Int → Net.SockAddr6 → m (Except ε Unit)
  listen : Int → Int → m (Except ε Unit)
  accept : Int → m (Except ε (Int × Net.SockAddr))
  connect : Int → Net.SockAddr → m (Except ε Unit)
  sockName : Int → m (Except ε Net.SockAddr)
  send : Int → Bytes → m (Except ε Int)
  recv : Int → Nat → m (Except ε (Int × Bytes))
  sendTo : Int → Bytes → Net.SockAddr → m (Except ε Int)
  recvFrom : Int → Nat → m (Except ε (Int × Bytes × Net.SockAddr))
  sendTo6 : Int → Bytes → Net.SockAddr6 → m (Except ε Int)
  recvFrom6 : Int → Nat → m (Except ε (Int × Bytes × Net.SockAddr6))
  select : Int → SelectSets → Option Timeval → m (Except ε (Int × SelectSets))

theorem selectWait?_positive {t : Int} (h : 0 < t) :
    selectWait? t = some (some ⟨t / 1000, t % 1000 * 1000⟩) := by
  have h1 : t ≠ -1 := by omega
  have h2 : t ≠ 0 := by omega
  simp [selectWait?, h, h1, h2]

end PlatformLayer
