import PlatformLayer.Socket.Basic
/-!
# A scripted socket backend

The scripted backend answers every call from a fixed script and records the call. An entry of
the script that is itself faulty stops the run only when a call needs it.
-/
namespace PlatformLayer.SocketScript

open Net

inductive Call where
  | init
  | cleanup
  | socket (fam : Family) (kind : SocketKind)
  | setV6Only (fd : Int)
  | close (fd : Int)
  | shutdown (fd : Int) (how : ShutdownHow)
  | bind (fd : Int) (addr : SockAddr)
  | bind6 (fd : Int) (addr : SockAddr6)
  | listen (fd backlog : Int)
  | accept (fd : Int)
  | connect (fd : Int) (addr : SockAddr)
  | sockName (fd : Int)
  | send (fd : Int) (buf : Bytes)
  | recv (fd : Int) (len : Nat)
  | sendTo (fd : Int) (buf : Bytes) (addr : SockAddr)
  | recvFrom (fd : Int) (len : Nat)
  | sendTo6 (fd : Int) (buf : Bytes) (addr : SockAddr6)
  | recvFrom6 (fd : Int) (len : Nat)
  | select (maxFd : Int) (sets : SelectSets) (timeout : Option Timeval)
  deriving DecidableEq, Repr

/-- What the backend answers. Each entry may instead be a fault of the script itself, which
stops the run when a call first needs that entry. -/
structure Script where
  err : Except String (Option String)
  v6err : Except String (Option String)
  fd : Except String Int
  count : Except String (Option Int)
  peer : Except String SockAddr
  peer6 : Except String SockAddr6

/-- The recorded calls, oldest first, in a run that a fault of the script stops. -/
abbrev Recorder := StateT (List Call) (Except String)

def record (c : Call) : Recorder Unit := modify (· ++ [c])

def entry {α : Type} (e : Except String α) : Recorder α := StateT.lift e

namespace Script

def status (s : Script) : Recorder (Except String Unit) := do
  match ← entry s.err with
  | some e => pure (.error e)
  | none => pure (.ok ())

/-- The answer of a call that returns a value only when it succeeds: the error is read first,
and the value only when there is none. -/
def onSuccess {α : Type} (s : Script) (value : Recorder α) : Recorder (Except String α) := do
  match ← entry s.err with
  | some e => pure (.error e)
  | none => pure (.ok (← value))

def transferred (s : Script) : Recorder Int := do pure ((← entry s.count).getD 0)

/-- The answer of a transfer: the error, then the count, which is read either way, then what
else the transfer gives. -/
def transfer {α β : Type} (s : Script) (more : Recorder β) (rest : Int → β → α) :
    Recorder (Except String α) := do
  let err ← entry s.err
  let n ← s.transferred
  let b ← more
  match err with
  | some e => pure (.error e)
  | none => pure (.ok (rest n b))

end Script

/-- The backend that records each call and answers from the script. Accept reads the error,
then the descriptor only when there is none, then the peer; the local-address query reads the
address before the error; a transfer reads the error, the count and then the peer. -/
def backend (s : Script) : SocketBackend Recorder String where
  init := do record .init; s.status
  cleanup := do record .cleanup; s.status
  socket fam k := do record (.socket fam k); s.onSuccess (entry s.fd)
  setV6Only fd := do
    record (.setV6Only fd)
    match ← entry s.v6err with
    | some e => pure (.error e)
    | none => pure (.ok ())
  close fd := do record (.close fd); s.status
  shutdown fd how := do record (.shutdown fd how); s.status
  bind fd a := do record (.bind fd a); s.status
  bind6 fd a := do record (.bind6 fd a); s.status
  listen fd backlog := do record (.listen fd backlog); s.status
  accept fd := do
    record (.accept fd)
    match ← entry s.err with
    | some e =>
      let _ ← entry s.peer
      pure (.error e)
    | none => pure (.ok (← entry s.fd, ← entry s.peer))
  connect fd a := do record (.connect fd a); s.status
  sockName fd := do
    record (.sockName fd)
    let peer ← entry s.peer
    s.onSuccess (pure peer)
  send fd buf := do record (.send fd buf); s.transfer (pure ()) fun k _ => k
  recv fd n := do record (.recv fd n); s.transfer (pure ()) fun k _ => (k, List.replicate n 0)
  sendTo fd buf a := do record (.sendTo fd buf a); s.transfer (pure ()) fun k _ => k
  recvFrom fd n := do
    record (.recvFrom fd n)
    s.transfer (entry s.peer) fun k peer => (k, List.replicate n 0, peer)
  sendTo6 fd buf a := do record (.sendTo6 fd buf a); s.transfer (pure ()) fun k _ => k
  recvFrom6 fd n := do
    record (.recvFrom6 fd n)
    s.transfer (entry s.peer6) fun k peer => (k, List.replicate n 0, peer)
  select maxFd sets tv := do
    record (.select maxFd sets tv)
    s.transfer (pure ()) fun k _ => (k, sets)

end PlatformLayer.SocketScript
