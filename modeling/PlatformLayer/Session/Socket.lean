import PlatformLayer.Session.Address
import PlatformLayer.Socket.Script
/-!
# Requests on the socket service over a scripted backend

Each step is one call of the service, with the script the backend answers it from. The answer
of a step lists the backend calls the step made, then what the call returns: a count or
descriptor as `ret`, an output address as `addr`, a set as `set`, and the error fields on
failure. The descriptor-set helpers work on the request's scratch set.
-/
namespace PlatformLayer.Session

open Net SocketScript

inductive SocketStep where
  | init
  | cleanup
  | create (t : Int)
  | create6 (t : Int)
  | close (fd : Int)
  | shutdown (fd how : Int)
  | listen (fd backlog : Int)
  | bind (fd : Int) (addr : Option SockAddr)
  | connect (fd : Int) (addr : Option SockAddr)
  | bind6 (fd : Int) (addr : Option SockAddr6)
  | accept (fd : Int) (addr : Option SockAddr)
  | localAddr (fd : Int) (addr : Option SockAddr)
  | send (fd : Int) (buf : Bytes)
  | recv (fd : Int) (size : Nat)
  | sendTo (fd : Int) (buf : Bytes) (addr : Option SockAddr)
  | recvFrom (fd : Int) (size : Nat) (addr : Option SockAddr)
  | sendTo6 (fd : Int) (buf : Bytes) (addr : Option SockAddr6)
  | recvFrom6 (fd : Int) (size : Nat) (addr : Option SockAddr6)
  | select (maxFd : Int) (sets : SelectSets) (timeoutMs : Int)
  | ntoa (addr : Option SockAddr)
  | aton (s : String) (addr : Option SockAddr)
  | fdSet (fd : Int) (noSet : Bool)
  | fdClr (fd : Int) (noSet : Bool)
  | fdIsSet (fd : Int) (noSet : Bool)
  | fdZero (noSet : Bool)
  deriving Repr

/-- Read the call of a step; `addr` and `addr6` read its address fields, so that requests on
real sockets can write ports their own way. Every step gives its descriptor, socket type and
`nil` flag first, then its call; the other fields are read by the calls that use them, in the order the call
takes them, except that an address a receive fills is prepared before its buffer. -/
def SocketStep.readWith (addr : Value → Read (Option SockAddr))
    (addr6 : Value → Read (Option SockAddr6)) (v : Value) : Read SocketStep := do
  let fd ← intField v "fd" .i64 0
  let kind ← intField v "type" .i64 0
  let noSet ← boolField v "nil" false
  let call ← stringField v "call" ""
  let buf : Read Bytes := do pure ((← bytesField v "buf").getD [])
  let size : Read Nat := do bufferSize "size" (← intField v "size" .i64 0)
  match call with
  | "init" => pure .init
  | "cleanup" => pure .cleanup
  | "create" => pure (.create kind)
  | "create6" => pure (.create6 kind)
  | "close" => pure (.close fd)
  | "shutdown" => pure (.shutdown fd (← intField v "how" .i64 0))
  | "listen" => pure (.listen fd (← intField v "backlog" .i64 0))
  | "bind" => pure (.bind fd (← addr v))
  | "connect" => pure (.connect fd (← addr v))
  | "bind6" => pure (.bind6 fd (← addr6 v))
  | "accept" => pure (.accept fd (← addr v))
  | "localaddr" => pure (.localAddr fd (← addr v))
  | "send" => pure (.send fd (← buf))
  | "recv" => pure (.recv fd (← size))
  | "sendto" =>
    let data ← buf
    pure (.sendTo fd data (← addr v))
  | "recvfrom" =>
    let a ← addr v
    pure (.recvFrom fd (← size) a)
  | "sendto6" =>
    let data ← buf
    pure (.sendTo6 fd data (← addr6 v))
  | "recvfrom6" =>
    let a ← addr6 v
    pure (.recvFrom6 fd (← size) a)
  | "select" =>
    let maxFd ← intField v "max" .i64 0
    let sets : SelectSets :=
      ⟨← setField v "read", ← setField v "write", ← setField v "except"⟩
    pure (.select maxFd sets (← intField v "timeout" .i64 0))
  | "ntoa" => pure (.ntoa (← addr v))
  | "aton" =>
    let a ← addr v
    pure (.aton (← stringField v "s" "") a)
  | "fd_set" => pure (.fdSet fd noSet)
  | "fd_clr" => pure (.fdClr fd noSet)
  | "fd_isset" => pure (.fdIsSet fd noSet)
  | "fd_zero" => pure (.fdZero noSet)
  | _ => refuse "socket" "unknown call"

/-- The script of a step; each entry is read when a call first needs it. -/
def readScript (v : Value) : Script where
  err := providerError v "p_err"
  v6err := providerError v "p_v6err"
  fd := intField v "p_fd" .i64 3
  count := match field? v "p_n" with
    | some n => do pure (some (← readInt "p_n" .i64 n))
    | none => pure none
  peer := do pure ((← sockAddrField v "p_addr").getD SockAddr.zero)
  peer6 := do pure ((← sockAddr6Field v "p_addr6").getD SockAddr6.zero)

def resultFields {α : Type} : SocketService.Result String α → List (String × Value)
  | .ok _ => []
  | .error fault => faultFields fault

def countOf {α : Type} (get : α → Int) : SocketService.Result String α → Int
  | .ok a => get a
  | .error _ => -1

def runSocketStep {m : Type → Type} [Monad m] (b : SocketBackend m String) (f : Features)
    (scratch : DescriptorSet) : SocketStep → m (List (String × Value) × DescriptorSet)
  | .init => do pure (resultFields (← SocketService.init b f), scratch)
  | .cleanup => do pure (resultFields (← SocketService.cleanup b f), scratch)
  | .create t => do
    let r ← SocketService.create b f t
    pure (("ret", .int (countOf id r)) :: resultFields r, scratch)
  | .create6 t => do
    let r ← SocketService.create6 b f t
    pure (("ret", .int (countOf id r)) :: resultFields r, scratch)
  | .close fd => do pure (resultFields (← SocketService.close b f fd), scratch)
  | .shutdown fd how => do pure (resultFields (← SocketService.shutdown b f fd how), scratch)
  | .listen fd backlog => do pure (resultFields (← SocketService.listen b f fd backlog), scratch)
  | .bind fd a => do pure (resultFields (← SocketService.bind b f fd a), scratch)
  | .connect fd a => do pure (resultFields (← SocketService.connect b f fd a), scratch)
  | .bind6 fd a => do pure (resultFields (← SocketService.bind6 b f fd a), scratch)
  | .accept fd a => do
    let (r, after) ← SocketService.accept b f fd a
    pure (("ret", .int (countOf id r)) :: ("addr", Value.ofOption sockAddrValue after) ::
      resultFields r, scratch)
  | .localAddr fd a => do
    let (r, after) ← SocketService.localAddr b f fd a
    pure (("addr", Value.ofOption sockAddrValue after) :: resultFields r, scratch)
  | .send fd buf => do
    let r ← SocketService.send b f fd buf
    pure (("ret", .int (countOf id r)) :: resultFields r, scratch)
  | .recv fd size => do
    let r ← SocketService.recv b f fd size
    pure (("ret", .int (countOf (·.1) r)) :: resultFields r, scratch)
  | .sendTo fd buf a => do
    let r ← SocketService.sendTo b f fd buf a
    pure (("ret", .int (countOf id r)) :: resultFields r, scratch)
  | .recvFrom fd size a => do
    let (r, after) ← SocketService.recvFrom b f fd size a
    pure (("ret", .int (countOf (·.1) r)) :: ("addr", Value.ofOption sockAddrValue after) ::
      resultFields r, scratch)
  | .sendTo6 fd buf a => do
    let r ← SocketService.sendTo6 b f fd buf a
    pure (("ret", .int (countOf id r)) :: resultFields r, scratch)
  | .recvFrom6 fd size a => do
    let (r, after) ← SocketService.recvFrom6 b f fd size a
    pure (("ret", .int (countOf (·.1) r)) :: ("addr", Value.ofOption sockAddr6Value after) ::
      resultFields r, scratch)
  | .select maxFd sets t => do
    let (n, _) ← SocketService.select b f maxFd sets t
    pure ([("ret", .int n)], scratch)
  | .ntoa a => pure ([("ret", .str (ntoa a))], scratch)
  | .aton s a => pure (atonFields s a, scratch)
  | .fdSet fd noSet =>
    let s := if noSet then scratch else scratch.insert fd
    pure ([("set", setValue (some s))], s)
  | .fdClr fd noSet =>
    let s := if noSet then scratch else scratch.erase fd
    pure ([("set", setValue (some s))], s)
  | .fdIsSet fd noSet =>
    let hit := if noSet then false else scratch.contains fd
    pure ([("ret", .bool hit), ("set", setValue (some scratch))], scratch)
  | .fdZero noSet =>
    let s := if noSet then scratch else DescriptorSet.empty
    pure ([("set", setValue (some s))], s)

def callValue : Call → Value
  | .init => .obj [("m", .str "Init")]
  | .cleanup => .obj [("m", .str "Cleanup")]
  | .socket fam k => .obj [("m", .str "Socket"), ("family", .int fam.code), ("type", .int k.code)]
  | .setV6Only fd => .obj [("m", .str "SetV6Only"), ("fd", .int fd)]
  | .close fd => .obj [("m", .str "Close"), ("fd", .int fd)]
  | .shutdown fd how => .obj [("m", .str "Shutdown"), ("fd", .int fd), ("how", .int how.code)]
  | .bind fd a => .obj [("m", .str "Bind"), ("fd", .int fd), ("addr", sockAddrValue a)]
  | .bind6 fd a => .obj [("m", .str "Bind6"), ("fd", .int fd), ("addr", sockAddr6Value a)]
  | .listen fd backlog => .obj [("m", .str "Listen"), ("fd", .int fd), ("backlog", .int backlog)]
  | .accept fd => .obj [("m", .str "Accept"), ("fd", .int fd)]
  | .connect fd a => .obj [("m", .str "Connect"), ("fd", .int fd), ("addr", sockAddrValue a)]
  | .sockName fd => .obj [("m", .str "SockName"), ("fd", .int fd)]
  | .send fd buf => .obj [("m", .str "Send"), ("fd", .int fd), ("buf", bytesValue (some buf))]
  | .recv fd n => .obj [("m", .str "Recv"), ("fd", .int fd), ("len", .nat n)]
  | .sendTo fd buf a => .obj [("m", .str "SendTo"), ("fd", .int fd),
      ("buf", bytesValue (some buf)), ("addr", sockAddrValue a)]
  | .recvFrom fd n => .obj [("m", .str "RecvFrom"), ("fd", .int fd), ("len", .nat n)]
  | .sendTo6 fd buf a => .obj [("m", .str "SendTo6"), ("fd", .int fd),
      ("buf", bytesValue (some buf)), ("addr", sockAddr6Value a)]
  | .recvFrom6 fd n => .obj [("m", .str "RecvFrom6"), ("fd", .int fd), ("len", .nat n)]
  | .select maxFd sets tv => .obj [("m", .str "Select"), ("max", .int maxFd),
      ("read", setValue sets.read), ("write", setValue sets.write),
      ("except", setValue sets.except),
      ("timeout", Value.ofOption (fun t => .obj [("sec", .int t.sec), ("usec", .int t.usec)]) tv)]

/-- Read and run the scripted steps in order, threading the scratch set. Each step is read just
before it runs, and a faulty script entry that a call needs stops the request. -/
def runScriptedSteps (f : Features) : List Value → DescriptorSet → Read (List Value)
  | [], _ => pure []
  | v :: rest, scratch => do
    let st ← SocketStep.readWith (sockAddrField · "addr") (sockAddr6Field · "addr") v
    let ((fields, scratch'), calls) ←
      (runSocketStep (backend (readScript v)) f scratch st).run []
    pure (.obj (("calls", .arr (calls.map callValue)) :: fields) ::
      (← runScriptedSteps f rest scratch'))

def socketRequest (req : Value) : Read Value := do
  let f ← featuresField req
  let scratch := (← setField req "scratch").getD DescriptorSet.empty
  pure (stepsAnswer (← runScriptedSteps f (← stepsField req) scratch))

end PlatformLayer.Session
