import PlatformLayer.Socket.Basic
import PlatformLayer.Fault
import PlatformLayer.Platform
/-!
# The socket service

The service stands in front of a `SocketBackend`: it checks the capability groups, the
descriptor, the buffer and the addresses a call needs before the backend sees it, writes output
addresses only when the call succeeds, and turns a backend error into `failed op (some cause)`.
-/
namespace PlatformLayer.SocketService

open Net

variable {m : Type → Type} [Monad m] {ε : Type}

abbrev Result (ε α : Type) := Except (Fault ε) α

def groupCheck (on : Bool) (op : String) : Option (Fault ε) :=
  if on then none else some (.unsupported op)

def enabledCheck (f : Features) (op : String) : Option (Fault ε) := groupCheck f.socket op

def ipv6Check (f : Features) (op : String) : Option (Fault ε) :=
  enabledCheck f op <|> groupCheck f.ipv6 op

def fdCheck (f : Features) (op : String) (fd : Int) : Option (Fault ε) :=
  enabledCheck f op <|> (if fd < 0 then some (.failed op none) else none)

def xferCheck (f : Features) (op : String) (fd : Int) (len : Nat) : Option (Fault ε) :=
  fdCheck f op fd <|> (if len = 0 then some (.failed op none) else none)

def presentCheck {α : Type} (op : String) : Option α → Option (Fault ε)
  | some _ => none
  | none => some (.failed op none)

/-- Run a backend action unless a check refused the call; a backend error becomes the cause
of a failure of `op`. -/
def guarded {α : Type} (check : Option (Fault ε)) (op : String) (act : m (Except ε α)) :
    m (Result ε α) :=
  match check with
  | some fault => pure (.error fault)
  | none => do
    match ← act with
    | .ok a => pure (.ok a)
    | .error e => pure (.error (.failed op (some e)))

variable (b : SocketBackend m ε) (f : Features)

def init : m (Result ε Unit) :=
  guarded (enabledCheck f "socket-init") "socket-init" b.init

def cleanup : m (Result ε Unit) :=
  guarded (enabledCheck f "socket-cleanup") "socket-cleanup" b.cleanup

def createIn (op : String) (fam : Family) (t : Int) : m (Result ε Int) :=
  match SocketKind.ofCode? t with
  | none => pure (.error (.failed op none))
  | some k => guarded none op (b.socket fam k)

def create (t : Int) : m (Result ε Int) :=
  match enabledCheck f "socket-create" with
  | some fault => pure (.error fault)
  | none => createIn b "socket-create" .inet t

/-- Create an IPv6 socket and ask for IPv6 traffic only; a failure of that request is
ignored. -/
def create6 (t : Int) : m (Result ε Int) :=
  match ipv6Check f "socket-create-ipv6" with
  | some fault => pure (.error fault)
  | none => do
    match ← createIn b "socket-create-ipv6" .inet6 t with
    | .ok fd =>
      let _ ← b.setV6Only fd
      pure (.ok fd)
    | .error e => pure (.error e)

def close (fd : Int) : m (Result ε Unit) :=
  guarded (fdCheck f "socket-close" fd) "socket-close" (b.close fd)

def shutdown (fd : Int) (how : Int) : m (Result ε Unit) :=
  let op := "socket-shutdown"
  match fdCheck f op fd <|> groupCheck f.socketShutdown op with
  | some fault => pure (.error fault)
  | none =>
    match ShutdownHow.ofCode? how with
    | none => pure (.error (.failed op none))
    | some h => guarded none op (b.shutdown fd h)

def bind (fd : Int) (addr : Option SockAddr) : m (Result ε Unit) :=
  let op := "socket-bind"
  match fdCheck f op fd <|> presentCheck op addr, addr with
  | none, some a => guarded none op (b.bind fd a)
  | some fault, _ => pure (.error fault)
  | none, none => pure (.error (.failed op none))

def listen (fd : Int) (backlog : Int) : m (Result ε Unit) :=
  guarded (fdCheck f "socket-listen" fd) "socket-listen" (b.listen fd backlog)

/-- Accept a connection: the new descriptor, and the output address after the call, which
holds the peer when the call succeeds and an address was given. -/
def accept (fd : Int) (addr : Option SockAddr) : m (Result ε Int × Option SockAddr) := do
  match ← guarded (fdCheck f "socket-accept" fd) "socket-accept" (b.accept fd) with
  | .ok (nfd, peer) => pure (.ok nfd, addr.map fun _ => peer)
  | .error e => pure (.error e, addr)

def connect (fd : Int) (addr : Option SockAddr) : m (Result ε Unit) :=
  let op := "socket-connect"
  match fdCheck f op fd <|> presentCheck op addr, addr with
  | none, some a => guarded none op (b.connect fd a)
  | some fault, _ => pure (.error fault)
  | none, none => pure (.error (.failed op none))

/-- The local address of a socket, written to the output address on success. -/
def localAddr (fd : Int) (addr : Option SockAddr) : m (Result ε Unit × Option SockAddr) := do
  let op := "socket-localaddr"
  match fdCheck f op fd <|> presentCheck op addr with
  | some fault => pure (.error fault, addr)
  | none => do
    match ← guarded none op (b.sockName fd) with
    | .ok here => pure (.ok (), some here)
    | .error e => pure (.error e, addr)

def send (fd : Int) (buf : Bytes) : m (Result ε Int) :=
  guarded (xferCheck f "socket-send" fd buf.length) "socket-send" (b.send fd buf)

def recv (fd : Int) (size : Nat) : m (Result ε (Int × Bytes)) :=
  guarded (xferCheck f "socket-recv" fd size) "socket-recv" (b.recv fd size)

def sendTo (fd : Int) (buf : Bytes) (addr : Option SockAddr) : m (Result ε Int) :=
  let op := "socket-sendto"
  match xferCheck f op fd buf.length <|> presentCheck op addr, addr with
  | none, some a => guarded none op (b.sendTo fd buf a)
  | some fault, _ => pure (.error fault)
  | none, none => pure (.error (.failed op none))

def recvFrom (fd : Int) (size : Nat) (addr : Option SockAddr) :
    m (Result ε (Int × Bytes) × Option SockAddr) := do
  let op := "socket-recvfrom"
  match xferCheck f op fd size <|> presentCheck op addr with
  | some fault => pure (.error fault, addr)
  | none => do
    match ← guarded none op (b.recvFrom fd size) with
    | .ok (n, data, src) => pure (.ok (n, data), some src)
    | .error e => pure (.error e, addr)

def bind6 (fd : Int) (addr : Option SockAddr6) : m (Result ε Unit) :=
  let op := "socket-bind-ipv6"
  match ipv6Check f op <|> fdCheck f op fd <|> presentCheck op addr, addr with
  | none, some a => guarded none op (b.bind6 fd a)
  | some fault, _ => pure (.error fault)
  | none, none => pure (.error (.failed op none))

def sendTo6 (fd : Int) (buf : Bytes) (addr : Option SockAddr6) : m (Result ε Int) :=
  let op := "socket-sendto-ipv6"
  match ipv6Check f op <|> xferCheck f op fd buf.length <|> presentCheck op addr, addr with
  | none, some a => guarded none op (b.sendTo6 fd buf a)
  | some fault, _ => pure (.error fault)
  | none, none => pure (.error (.failed op none))

def recvFrom6 (fd : Int) (size : Nat) (addr : Option SockAddr6) :
    m (Result ε (Int × Bytes) × Option SockAddr6) := do
  let op := "socket-recvfrom-ipv6"
  match ipv6Check f op <|> xferCheck f op fd size <|> presentCheck op addr with
  | some fault => pure (.error fault, addr)
  | none => do
    match ← guarded none op (b.recvFrom6 fd size) with
    | .ok (n, data, src) => pure (.ok (n, data), some src)
    | .error e => pure (.error e, addr)

/-- Wait for readiness of the descriptors below `maxFd`: the count and the sets after the
call. The count is `-1` when the group is missing, `maxFd` is outside `[0, 1024]`, the timeout
is below `-1`, or the backend fails; the sets then stay as they were. -/
def select (maxFd : Int) (sets : SelectSets) (timeoutMs : Int) : m (Int × SelectSets) :=
  if !f.socket ∨ maxFd < 0 ∨ maxFd > 1024 then pure (-1, sets)
  else
    match selectWait? timeoutMs with
    | none => pure (-1, sets)
    | some tv => do
      match ← b.select maxFd sets tv with
      | .ok (n, after) => pure (n, after)
      | .error _ => pure (-1, sets)

end PlatformLayer.SocketService

namespace PlatformLayer.Net

def ntoa : Option SockAddr → String
  | some sa => sa.addr.render
  | none => ""

/-- The failure of reading an IPv4 address into a socket address: its cause is the reading
error, if the text was no address at all. -/
abbrev AtonFault := Fault AddrError

/-- Read a dotted quad into the address part of a socket address, keeping its port. It fails
without a socket address, when the text is no address, and when the address is not IPv4. -/
def aton (s : String) : Option SockAddr → Except AtonFault SockAddr
  | none => .error (.failed "socket-aton" none)
  | some sa =>
    match parseAddr s with
    | .ok (.v4 a) => .ok { sa with addr := a }
    | .ok _ => .error (.failed "socket-aton" none)
    | .error e => .error (.failed "socket-aton" (some e))

end PlatformLayer.Net
