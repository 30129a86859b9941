import PlatformLayer.Session.Socket
import PlatformLayer.Session.Handles
import PlatformLayer.Host.Network
/-!
# Requests on the socket service over the host's network

Each step is a call of the socket service over the host's sockets. Descriptors go by handle and
ports by the labels `P0`, `P1`, … in the order they first appear; a step that would wait for
input is not made, and answers that it would block.
-/
namespace PlatformLayer.Session

open Net

structure NetBench where
  net : HostNet
  handles : Handles
  /-- The labelled ports, in order of first appearance. -/
  ports : List Nat

abbrev NetM := StateM NetBench

def onNet {α : Type} (act : StateM HostNet α) : NetM α :=
  modifyGet fun b => let (a, n) := act.run b.net; (a, { b with net := n })

def portLabel (p : UInt16) : NetM Value :=
  modifyGet fun b =>
    if p = 0 then (.str "0", b)
    else
      match b.ports.idxOf? p.toNat with
      | some i => (.str ("P" ++ toString i), b)
      | none => (.str ("P" ++ toString b.ports.length), { b with ports := b.ports ++ [p.toNat] })

/-- A port in a request: a label already given, or a number. Text that starts with `P` is a
label, which must be one of those given, written exactly as it was. -/
def readLabelledPort (ports : List Nat) : Value → Read UInt16
  | .str s =>
    if s.startsWith "P" then
      match ((List.range ports.length).zip ports).find? (fun (i, _) => s == "P" ++ toString i) with
      | some (_, p) => pure p.toUInt16
      | none => refuse "port" "unknown label"
    else readPort (.str s)
  | v => readPort v

def labelledSockAddr : Option SockAddr → NetM Value
  | some sa => do
    let p ← portLabel sa.port
    pure (sockAddrValueWith (fun _ => p) sa)
  | none => pure .null

def labelledSockAddr6 : Option SockAddr6 → NetM Value
  | some sa => do
    let p ← portLabel sa.port
    pure (sockAddr6ValueWith (fun _ => p) sa)
  | none => pure .null

/-- A step on the host's sockets as read from its request: made at once, or made only when a
poll of its descriptor, with room for `size` bytes, lets it through, and then read to its end. -/
inductive NetStep where
  | now (st : SocketStep)
  | afterPoll (fd : Int) (size : Nat) (rest : Read SocketStep)

/-- Read a step on the host's sockets against the handles and labels so far. Every step gives
its call first, then its socket type; a call reads its descriptor before what it sends or how much it
receives, and the local-address query reads whether it wants the address first. An accept or a
receive is read up to its poll. A select first makes sure that it waits no longer than
`longestWait`, then reads its sets before its bound. -/
def readNetStep (b : NetBench) (v : Value) : Read NetStep := do
  let call ← stringField v "call" ""
  let kind ← intField v "type" .i64 0
  let fd : Read Int := descriptorField b.handles v
  let addr : Read (Option SockAddr) :=
    match field? v "addr" with
    | some a => do pure (some (← readSockAddrWith "addr" (readLabelledPort b.ports) a))
    | none => pure none
  let addr6 : Read (Option SockAddr6) :=
    match field? v "addr" with
    | some a => do pure (some (← readSockAddr6With "addr" (readLabelledPort b.ports) a))
    | none => pure none
  let out : Read (Option SockAddr) := do
    pure (if ← boolField v "want_addr" true then some SockAddr.zero else none)
  let out6 : Read (Option SockAddr6) := do
    pure (if ← boolField v "want_addr" true then some SockAddr6.zero else none)
  let buf : Read Bytes := do pure ((← bytesField v "buf").getD [])
  let size : Read Nat := do bufferSize "size" (← intField v "size" .i64 0)
  match call with
  | "init" => pure (.now .init)
  | "cleanup" => pure (.now .cleanup)
  | "create" => pure (.now (.create kind))
  | "create6" => pure (.now (.create6 kind))
  | "close" => pure (.now (.close (← fd)))
  | "shutdown" =>
    let s ← fd
    pure (.now (.shutdown s (← intField v "how" .i64 0)))
  | "listen" =>
    let s ← fd
    pure (.now (.listen s (← intField v "backlog" .i64 0)))
  | "bind" =>
    let s ← fd
    pure (.now (.bind s (← addr)))
  | "connect" =>
    let s ← fd
    pure (.now (.connect s (← addr)))
  | "bind6" =>
    let s ← fd
    pure (.now (.bind6 s (← addr6)))
  | "accept" =>
    let s ← fd
    pure (.afterPoll s 1 do pure (.accept s (← out)))
  | "localaddr" =>
    let a ← out
    pure (.now (.localAddr (← fd) a))
  | "send" =>
    let s ← fd
    pure (.now (.send s (← buf)))
  | "recv" =>
    let s ← fd
    let n ← size
    pure (.afterPoll s n (pure (.recv s n)))
  | "sendto" =>
    let s ← fd
    let data ← buf
    pure (.now (.sendTo s data (← addr)))
  | "recvfrom" =>
    let s ← fd
    let n ← size
    pure (.afterPoll s n do pure (.recvFrom s n (← out)))
  | "sendto6" =>
    let s ← fd
    let data ← buf
    pure (.now (.sendTo6 s data (← addr6)))
  | "recvfrom6" =>
    let s ← fd
    let n ← size
    pure (.afterPoll s n do pure (.recvFrom6 s n (← out6)))
  | "select" =>
    let t ← waitField v .i64
    let sets : SelectSets := ⟨← handleSetField b.handles v "read",
      ← handleSetField b.handles v "write", ← handleSetField b.handles v "except"⟩
    pure (.now (.select (← maxField b.handles v) sets t))
  | _ => refuse "net" "unknown call"

def netFaultFields {α : Type} : SocketService.Result Errno α → List (String × Value)
  | .ok _ => []
  | .error fault => faultFields (fault.mapCause Errno.text)

def wouldBlock (what : String) : List (String × Value) :=
  [("error", .str "would_block"), ("message", .str ("not called: " ++ what))]

/-- Whether the poll before a receive or accept lets the call through: a negative descriptor
is not polled, and a receive with no room is not either. -/
def pollAllows (fd : Int) (size : Nat) (net : HostNet) : Bool :=
  fd < 0 ∨ size = 0 ∨ net.pollReadable fd

def openedFields (r : SocketService.Result Errno Int) : NetM (List (String × Value)) :=
  match r with
  | .ok fd => modifyGet fun b =>
    let (h, hs) := b.handles.push fd
    ([("h", Value.nat h)], { b with handles := hs })
  | .error _ => pure (("ret", Value.int (-1)) :: netFaultFields r)

def countFields (r : SocketService.Result Errno Int) : List (String × Value) :=
  ("ret", Value.int (match r with | .ok n => n | .error _ => -1)) :: netFaultFields r

def receivedFields (r : SocketService.Result Errno (Int × Bytes)) : List (String × Value) :=
  match r with
  | .ok (n, bs) => [("ret", Value.int n), ("data", bytesValue (some (bs.take n.toNat)))]
  | .error _ => ("ret", Value.int (-1)) :: netFaultFields r

def runNetStep (f : Features) : SocketStep → NetM (List (String × Value))
  | .init => do pure (netFaultFields (← onNet (SocketService.init HostNet.backend f)))
  | .cleanup => do pure (netFaultFields (← onNet (SocketService.cleanup HostNet.backend f)))
  | .create t => do openedFields (← onNet (SocketService.create HostNet.backend f t))
  | .create6 t => do openedFields (← onNet (SocketService.create6 HostNet.backend f t))
  | .close fd => do pure (netFaultFields (← onNet (SocketService.close HostNet.backend f fd)))
  | .shutdown fd how => do
    pure (netFaultFields (← onNet (SocketService.shutdown HostNet.backend f fd how)))
  | .listen fd backlog => do
    pure (netFaultFields (← onNet (SocketService.listen HostNet.backend f fd backlog)))
  | .bind fd a => do pure (netFaultFields (← onNet (SocketService.bind HostNet.backend f fd a)))
  | .connect fd a => do
    pure (netFaultFields (← onNet (SocketService.connect HostNet.backend f fd a)))
  | .bind6 fd a => do pure (netFaultFields (← onNet (SocketService.bind6 HostNet.backend f fd a)))
  | .accept fd a => do
    let (r, after) ← onNet (SocketService.accept HostNet.backend f fd a)
    let shown ← labelledSockAddr after
    pure ((← openedFields r) ++ [("addr", shown)])
  | .localAddr fd a => do
    let (r, after) ← onNet (SocketService.localAddr HostNet.backend f fd a)
    pure (("addr", ← labelledSockAddr after) :: netFaultFields r)
  | .send fd buf => do pure (countFields (← onNet (SocketService.send HostNet.backend f fd buf)))
  | .recv fd size => do
    pure (receivedFields (← onNet (SocketService.recv HostNet.backend f fd size)))
  | .sendTo fd buf a => do
    pure (countFields (← onNet (SocketService.sendTo HostNet.backend f fd buf a)))
  | .recvFrom fd size a => do
    let (r, after) ← onNet (SocketService.recvFrom HostNet.backend f fd size a)
    pure (receivedFields r ++ [("addr", ← labelledSockAddr after)])
  | .sendTo6 fd buf a => do
    pure (countFields (← onNet (SocketService.sendTo6 HostNet.backend f fd buf a)))
  | .recvFrom6 fd size a => do
    let (r, after) ← onNet (SocketService.recvFrom6 HostNet.backend f fd size a)
    pure (receivedFields r ++ [("addr", ← labelledSockAddr6 after)])
  | .select maxFd sets t => do
    -- the poll before a select without bound is the same select without waiting; one that
    -- fails counts as ready
    let ready : Bool :=
      match (SocketService.select HostNet.backend f maxFd sets 0).run (← get).net with
      | ((n, _), _) => n ≠ 0
    if t = -1 ∧ !ready then pure (wouldBlock "nothing ready")
    else
      let (n, after) ← onNet (SocketService.select HostNet.backend f maxFd sets t)
      let hs := (← get).handles
      pure [("ret", Value.int n), ("read", handleSetValue hs after.read),
        ("write", handleSetValue hs after.write), ("except", handleSetValue hs after.except)]
  | _ => pure []

/-- Run the steps in order, reading each just before it runs, against the bench as it stands.
A step that waits for its poll and is not let through answers that it would block, and the rest
of it is never read. -/
def runNetSteps (f : Features) : List Value → NetBench → Read (List Value)
  | [], _ => pure []
  | v :: rest, b => do
    let st ← match ← readNetStep b v with
      | .now st => pure (some st)
      | .afterPoll fd size more =>
        if pollAllows fd size b.net then some <$> more else pure none
    let (fields, b') := match st with
      | some st => (runNetStep f st).run b
      | none => (wouldBlock "nothing to receive", b)
    pure (.obj fields :: (← runNetSteps f rest b'))

def netRequest (build : Build) (req : Value) : Read Value := do
  let steps ← stepsField req
  pure (stepsAnswer (← runNetSteps build.features steps ⟨HostTable.initial, [], []⟩))

end PlatformLayer.Session
