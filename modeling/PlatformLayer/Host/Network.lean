import PlatformLayer.Host.Descriptors
import PlatformLayer.Host.KernelSet
import PlatformLayer.Socket.Basic
import PlatformLayer.Errno
/-!
# The network of the host

The host's loopback interface is down and holds no address, so no packet is ever delivered:
what a socket does is decided by its binding, whether it listens, and which directions are shut,
by the rules of the kernel's IPv4 and IPv6 socket layers.
-/
namespace PlatformLayer

open Net

inductive LocalAddress where
  | v4 (a : Ip4)
  | v6 (a : Ip6)
  deriving DecidableEq, Repr

namespace LocalAddress

def isAny : LocalAddress → Bool
  | .v4 a => a == Ip4.zero
  | .v6 a => a == Ip6.unspecified

/-- Whether two bindings of one port would take the same traffic: the same family, and the
same address or an unspecified one. -/
def overlaps : LocalAddress → LocalAddress → Bool
  | .v4 a, .v4 b => a == b || a == Ip4.zero || b == Ip4.zero
  | .v6 a, .v6 b => a == b || a == Ip6.unspecified || b == Ip6.unspecified
  | _, _ => false

def any : Family → LocalAddress
  | .inet => .v4 Ip4.zero
  | .inet6 => .v6 Ip6.unspecified

end LocalAddress

namespace Net.Ip6

def isMulticast (a : Ip6) : Bool := a.octets.toList.head? == some 0xff

def isLinkLocal (a : Ip6) : Bool :=
  match a.octets.toList with
  | b0 :: b1 :: _ => b0 == 0xfe && (b1 &&& 0xc0) == 0x80
  | _ => false

/-- Whether an address only means something on one interface: link-local unicast, and
multicast of interface-local or link-local scope. -/
def needsZone (a : Ip6) : Bool :=
  a.isLinkLocal ||
    (a.isMulticast &&
      match a.octets.toList with
      | _ :: b1 :: _ => (b1 &&& 0x0f) == 1 || (b1 &&& 0x0f) == 2
      | _ => false)

end Net.Ip6

def loopbackIndex : Nat := 1

/-- The highest port of the range handed out when a socket binds port 0. -/
def ephemeralEnd : Nat := 60999

def maxDatagram : Nat := 65535

structure HostSocket where
  family : Family
  kind : SocketKind
  addr : LocalAddress
  /-- The port the socket reports as its own; 0 is none. -/
  port : Nat
  /-- Whether the socket holds its port, so that no other socket may take it. A listening
  socket that stops gives its port back but still reports it. -/
  holdsPort : Bool
  /-- The address was chosen by a bind, not left unspecified. -/
  addrLocked : Bool
  /-- The port was chosen by a bind, not handed out. -/
  portLocked : Bool
  listening : Bool
  shutRead : Bool
  shutWrite : Bool
  /-- The interface the socket is tied to; 0 is none. -/
  device : Nat
  deriving DecidableEq, Repr

namespace HostSocket

def fresh (fam : Family) (k : SocketKind) : HostSocket :=
  ⟨fam, k, LocalAddress.any fam, 0, false, false, false, false, false, false, 0⟩

def readable (s : HostSocket) : Bool :=
  match s.kind with
  | .stream => !s.listening
  | .dgram => s.shutRead

def writable (s : HostSocket) : Bool :=
  match s.kind with
  | .stream => !s.listening
  | .dgram => true

end HostSocket

abbrev HostNet := HostTable HostSocket

namespace HostNet

/-- The host's network interfaces by name: the loopback interface `lo` alone, numbered 1. -/
def interfaceIndex? : String → Option UInt32
  | "lo" => some 1
  | _ => none

abbrev Step (α : Type) := HostNet → Except Errno α × HostNet

/-- Whether a port is taken by another bound socket of the same kind whose address overlaps. -/
def taken (net : HostNet) (k : SocketKind) (a : LocalAddress) (port : Nat) : Bool :=
  net.files.any fun s =>
    s.kind == k && s.holdsPort && s.port == port && port != 0 && s.addr.overlaps a

/-- The highest port from `ephemeralEnd` down that no socket of a kind holds. Which free port
the host hands out is its own choice, and taking them from the top keeps the bottom of the
range, where requests name ports of their own, free. -/
def ephemeral (net : HostNet) (k : SocketKind) : Nat :=
  let used := (net.files.filter fun s => s.kind == k && s.holdsPort).map (·.port)
  ((List.range (used.length + 1)).map (ephemeralEnd - ·)).find? (fun p => !used.contains p)
    |>.getD (ephemeralEnd - used.length)

def onSocket {α : Type} (fd : Int) (k : Nat → HostSocket → Step α) : Step α := fun net =>
  match net.held? fd with
  | some (.file s) => k fd.toNat s net
  | some (.runtime _) => (.error .notSocket, net)
  | none => (.error .badDescriptor, net)

def failWith {α : Type} (fd : Nat) (s : HostSocket) (e : Errno) : Step α := fun net =>
  (.error e, net.set fd s)

def doneWith {α : Type} (fd : Nat) (s : HostSocket) (a : α) : Step α := fun net =>
  (.ok a, net.set fd s)

def autobind (net : HostNet) (s : HostSocket) : HostSocket :=
  if s.holdsPort then s else { s with port := net.ephemeral s.kind, holdsPort := true }

def socket (fam : Family) (k : SocketKind) : Step Int := fun net =>
  let (fd, net') := net.add (HostSocket.fresh fam k)
  (.ok fd, net')

/-- Ask an IPv6 socket to carry IPv6 only, as every IPv6 socket of the host does. -/
def setV6Only (fd : Int) : Step Unit := onSocket fd fun _ _ net => (.ok (), net)

def close (fd : Int) : Step Unit := fun net =>
  match net.remove fd with
  | some net' => (.ok (), net')
  | none => (.error .badDescriptor, net)

/-- Shut down directions of a socket. A listening stream socket whose receiving side is shut
stops listening, forgets an address it did not bind itself, and gives back a port it did not
bind itself, though it still reports that port; any other socket is not connected, which
fails, though the directions are marked shut. -/
def shutdown (fd : Int) (how : ShutdownHow) : Step Unit := onSocket fd fun n s net =>
  if s.kind = .stream ∧ s.listening then
    if how = .write then (.ok (), net)
    else
      doneWith n { s with
        listening := false
        holdsPort := s.portLocked
        addr := if s.addrLocked then s.addr else LocalAddress.any s.family
        shutRead := false
        shutWrite := false } () net
  else
    failWith n { s with
      shutRead := s.shutRead || how != .write
      shutWrite := s.shutWrite || how != .read } .notConnected net

def bindTo (n : Nat) (s : HostSocket) (a : LocalAddress) (port : Nat) : Step Unit := fun net =>
  if port = 0 then
    doneWith n { s with
      addr := a
      port := net.ephemeral s.kind
      holdsPort := true
      addrLocked := !a.isAny
      portLocked := false } () net
  else if net.taken s.kind a port then (.error .addressInUse, net)
  else
    doneWith n { s with
      addr := a
      port := port
      holdsPort := true
      addrLocked := !a.isAny
      portLocked := true } () net

/-- Bind to an IPv4 address: an IPv6 socket refuses the short address, and a bound or
listening socket cannot bind again. -/
def bind (fd : Int) (sa : SockAddr) : Step Unit := onSocket fd fun n s net =>
  if s.family = .inet6 then (.error .invalidArgument, net)
  else if s.holdsPort ∨ s.listening then (.error .invalidArgument, net)
  else bindTo n s (.v4 sa.addr) sa.port.toNat net

/-- Bind to an IPv6 address. An IPv4 socket refuses the family; a stream socket refuses
multicast; a bound socket cannot bind again; an IPv4-mapped address is refused by a socket that
carries IPv6 only. An address that only means something on one interface takes the zone as the
socket's interface, and needs one; the interface must exist; and no unicast address but the
unspecified one is the host's. -/
def bind6 (fd : Int) (sa : SockAddr6) : Step Unit := onSocket fd fun n s net =>
  let a := sa.addr
  if s.family = .inet then (.error .familyNotSupported, net)
  else if a.isMulticast ∧ s.kind = .stream then (.error .invalidArgument, net)
  else if s.holdsPort ∨ s.listening then (.error .invalidArgument, net)
  else if a.isMapped then (.error .invalidArgument, net)
  else if a == Ip6.unspecified then bindTo n s (.v6 a) sa.port.toNat net
  else
    let s' := if a.needsZone ∧ sa.zone ≠ 0 then { s with device := sa.zone.toNat } else s
    if a.needsZone ∧ s'.device = 0 then failWith n s' .invalidArgument net
    else if s'.device ≠ 0 ∧ s'.device ≠ loopbackIndex then failWith n s' .noDevice net
    else if !a.isMulticast then failWith n s' .addressNotAvailable net
    else bindTo n s' (.v6 a) sa.port.toNat net

def listen (fd : Int) (_backlog : Int) : Step Unit := onSocket fd fun n s net =>
  match s.kind with
  | .dgram => (.error .notSupported, net)
  | .stream =>
    if s.listening then (.ok (), net)
    else doneWith n { (autobind net s) with listening := true } () net

/-- Accept a connection. None ever arrives, so a listening socket would wait: it answers that
it would block. -/
def accept (fd : Int) : Step (Int × SockAddr) := onSocket fd fun _ s net =>
  match s.kind with
  | .dgram => (.error .notSupported, net)
  | .stream => if s.listening then (.error .wouldBlock, net) else (.error .invalidArgument, net)

def connect (fd : Int) (_sa : SockAddr) : Step Unit := onSocket fd fun n s net =>
  match s.kind with
  | .stream =>
    if s.listening then (.error .alreadyConnected, net)
    else if s.family = .inet6 then (.error .invalidArgument, net)
    else (.error .networkUnreachable, net)
  | .dgram =>
    let s' := autobind net s
    if s.family = .inet6 then failWith n s' .invalidArgument net
    else failWith n s' .networkUnreachable net

/-- The local address; an IPv6 socket's is not an IPv4 address and reads as zero. -/
def sockName (fd : Int) : Step SockAddr := onSocket fd fun _ s net =>
  match s.addr with
  | .v4 a => (.ok ⟨a, s.port.toUInt16⟩, net)
  | .v6 _ => (.ok SockAddr.zero, net)

def send (fd : Int) (buf : Bytes) : Step Int := onSocket fd fun n s net =>
  match s.kind with
  | .stream => (.error .brokenPipe, net)
  | .dgram =>
    let s' := autobind net s
    if s.family = .inet ∧ buf.length > maxDatagram then failWith n s' .messageTooLong net
    else failWith n s' .destinationRequired net

/-- Receive into a buffer of `size` bytes. Nothing ever arrives: a socket whose receiving side
is shut reads the end at once; a stream socket is not connected; a datagram socket would
wait. -/
def recv (fd : Int) (size : Nat) : Step (Int × Bytes) := onSocket fd fun _ s net =>
  match s.kind with
  | .stream =>
    if !s.listening ∧ s.shutRead then (.ok (0, List.replicate size 0), net)
    else (.error .notConnected, net)
  | .dgram =>
    if s.shutRead then (.ok (0, List.replicate size 0), net) else (.error .wouldBlock, net)

def sendTo (fd : Int) (buf : Bytes) (sa : SockAddr) : Step Int := onSocket fd fun n s net =>
  match s.kind with
  | .stream => (.error .brokenPipe, net)
  | .dgram =>
    let s' := autobind net s
    if s.family = .inet6 then failWith n s' .networkUnreachable net
    else if buf.length > maxDatagram then failWith n s' .messageTooLong net
    else if sa.port = 0 then failWith n s' .invalidArgument net
    else failWith n s' .networkUnreachable net

def sendTo6 (fd : Int) (buf : Bytes) (sa : SockAddr6) : Step Int := onSocket fd fun n s net =>
  match s.kind with
  | .stream => (.error .brokenPipe, net)
  | .dgram =>
    let s' := autobind net s
    if s.family = .inet then
      if buf.length > maxDatagram then failWith n s' .messageTooLong net
      else failWith n s' .familyNotSupported net
    else if sa.addr.isMapped then failWith n s' .networkUnreachable net
    else if sa.port = 0 then failWith n s' .invalidArgument net
    else failWith n s' .addressNotAvailable net

/-- Receive with the sender's IPv4 address; nothing arrives, so there is no sender. -/
def recvFrom (fd : Int) (size : Nat) : Step (Int × Bytes × SockAddr) := fun net =>
  let (r, net') := recv fd size net
  (r.map fun (k, bs) => (k, bs, SockAddr.zero), net')

def recvFrom6 (fd : Int) (size : Nat) : Step (Int × Bytes × SockAddr6) := fun net =>
  let (r, net') := recv fd size net
  (r.map fun (k, bs) => (k, bs, SockAddr6.zero), net')

def pollReadable (net : HostNet) (fd : Int) : Bool :=
  match net.held? fd with
  | some (.file s) => s.readable
  | some (.runtime _) => false
  | none => true

/-- The members of a kernel set below `maxFd` that the tests find ready, one test for sockets
and one for the runtime's files, or the first that is not open. -/
def readyIn (net : HostNet) (maxFd : Int) (test : HostSocket → Bool)
    (runtimeTest : RuntimeFile → Bool) :
    Option KernelFdSet → Except Errno (Option (List Int))
  | none => .ok none
  | some watch =>
    some <$> (KernelFdSet.layout.below watch maxFd).filterM fun fd =>
      match net.held? fd with
      | some (.file s) => .ok (test s)
      | some (.runtime r) => .ok (runtimeTest r)
      | none => .error .badDescriptor

/-- The kernel's select over sets in its layout, waiting at most the given nanoseconds: the
number of ready marks and the sets after, each holding its ready members; of the runtime's files
only the wake-up counter is ready, for writing. Nothing becomes ready later, so the wait does not
change the answer; a negative wait, which the kernel refuses, is not modelled. -/
def kernelSelect (maxFd : Int) (sets : KernelSets KernelFdSet) (_ : Option Int64) :
    Step (Int × KernelSets KernelFdSet) :=
  fun net =>
    match readyIn net maxFd HostSocket.readable (fun _ => false) sets.read,
        readyIn net maxFd HostSocket.writable (· == .wakeEvent) sets.write,
        readyIn net maxFd (fun _ => false) (fun _ => false) sets.except with
    | .ok r, .ok w, .ok e =>
      let size := fun (l : Option (List Int)) => (l.map List.length).getD 0
      (.ok ((size r + size w + size e : Nat),
        ⟨r.map KernelFdSet.ofList, w.map KernelFdSet.ofList, e.map KernelFdSet.ofList⟩), net)
    | _, _, _ => (.error .badDescriptor, net)

/-- Select over the three sets below `maxFd`, made through the kernel's layout. A fault of the
layout would halt the program; only a bound over 1024 makes one, and the socket service refuses
such a bound before it calls the backend, so the refusal put in its place is never seen. -/
def select (maxFd : Int) (sets : SelectSets) (tv : Option Int64) : Step (Int × SelectSets) :=
  fun net =>
    (KernelFdSet.layout.selectThrough kernelSelect maxFd sets tv net).getD
      (.error .invalidArgument, net)

def lift {α : Type} (step : Step α) : StateM HostNet (Except Errno α) :=
  modifyGet step

def backend : SocketBackend (StateM HostNet) Errno where
  init := pure (.ok ())
  cleanup := pure (.ok ())
  socket fam k := lift (socket fam k)
  setV6Only fd := lift (setV6Only fd)
  close fd := lift (close fd)
  shutdown fd how := lift (shutdown fd how)
  bind fd sa := lift (bind fd sa)
  bind6 fd sa := lift (bind6 fd sa)
  listen fd backlog := lift (listen fd backlog)
  accept fd := lift (accept fd)
  connect fd sa := lift (connect fd sa)
  sockName fd := lift (sockName fd)
  send fd buf := lift (send fd buf)
  recv fd size := lift (recv fd size)
  sendTo fd buf sa := lift (sendTo fd buf sa)
  recvFrom fd size := lift (recvFrom fd size)
  sendTo6 fd buf sa := lift (sendTo6 fd buf sa)
  recvFrom6 fd size := lift (recvFrom6 fd size)
  select maxFd sets tv := lift (select maxFd sets (tv.map Timeval.nanos))

end HostNet

end PlatformLayer
