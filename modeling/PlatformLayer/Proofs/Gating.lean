import Mathlib
import PlatformLayer.Socket.Service
import PlatformLayer.Device.Service
import PlatformLayer.Socket.Script
/-!
# What the facades decide before their backends

The device and socket facades check each call before any backend action. A `Verdict` is that
decision, computed from the features and the arguments alone: refused as `notSupported` when the
call's capability group is off, refused as a plain `failure` when an argument check gives nothing,
and admitted with the checked arguments otherwise. `Follows op v x` says that the call `x`, in any
monad and over any backend, is what `v` prescribes: refused, it runs nothing and answers a fault of
the verdict's kind that names `op`; admitted, it is the backend action for the checked arguments,
whose error becomes the cause of a failure (`Fault.reported`).

Main statements: every entry point of the device facade (`device_calls_gated`) and of the socket
facade (`socket_calls_gated`) follows its verdict.
-/
namespace PlatformLayer

/-- The decision about a call before its backend: refused with an error of a kind, or admitted
with the checked arguments. -/
abbrev Verdict (α : Type) := Except ErrorKind α

/-- The verdict of a call of a capability group: unsupported when the group is off, a failure when
the argument check gives nothing, and admitted with what it gives otherwise. -/
def Verdict.of {α : Type} (group : Bool) (checked : Option α) : Verdict α :=
  if group then
    match checked with
    | some a => .ok a
    | none => .error .failure
  else .error .notSupported

/-- A backend answer as a facade reports it: an error becomes the cause of a failure of `op`. -/
def Fault.reported {ε α : Type} (op : String) (r : Except ε α) : Except (Fault ε) α :=
  r.mapError fun e => .failed op (some e)

section Follows

variable {m : Type → Type} [Monad m] {ε α γ : Type}

/-- The call `x` follows the verdict `v`: refused with a kind, it runs nothing and answers the
refusal built from a fault of that kind naming `op`; admitted with `a`, it is `admitted a`. -/
def Follows (op : String) (v : Verdict α) (x : m γ) (refusal : Fault ε → γ)
    (admitted : α → m γ) : Prop :=
  match v with
  | .error k => ∃ fault : Fault ε, fault.kind = k ∧ fault.op = op ∧ x = pure (refusal fault)
  | .ok a => x = admitted a

/-- The fault with which the facades refuse a call of verdict kind `k`. -/
def ErrorKind.refusal (op : String) : ErrorKind → Fault ε
  | .notSupported => .unsupported op
  | _ => .failed op none

/-- The call a verdict prescribes: the refusal of its kind, or the admitted action. -/
def Verdict.run (op : String) (v : Verdict α) (refusal : Fault ε → γ) (admitted : α → m γ) : m γ :=
  match v with
  | .error k => pure (refusal (k.refusal op))
  | .ok a => admitted a

/-- A call that is the run of its verdict follows it: a fault refuses as unsupported or as a
failure, so a verdict of either kind is met by the refusal of its kind. -/
theorem follows_of_run {op : String} {v : Verdict α} {x : m γ} {refusal : Fault ε → γ}
    {admitted : α → m γ} (hv : v ≠ .error .plain) (h : x = v.run op refusal admitted) :
    Follows op v x refusal admitted := by
  subst h
  rcases v with (_ | _ | _) | a
  · exact ⟨_, rfl, rfl, rfl⟩
  · exact ⟨_, rfl, rfl, rfl⟩
  · exact absurd rfl hv
  · rfl

theorem Verdict.of_ne_plain (g : Bool) (c : Option α) : Verdict.of g c ≠ .error .plain := by
  rcases g <;> rcases c <;> simp [Verdict.of]

@[simp] theorem Verdict.error_bind {β : Type} (k : ErrorKind) (w : α → Verdict β) :
    (Except.error k >>= w : Verdict β) = .error k := rfl

@[simp] theorem Verdict.ok_bind {β : Type} (a : α) (w : α → Verdict β) :
    (Except.ok a >>= w : Verdict β) = w a := rfl

/-- Checks made one after another refuse with the kind of the first that refuses. -/
theorem Verdict.bind_ne_plain {β : Type} {v : Verdict α} {w : α → Verdict β}
    (hv : v ≠ .error .plain) (hw : ∀ a, w a ≠ .error .plain) : (v >>= w) ≠ .error .plain := by
  rcases v with k | a
  · rw [Verdict.error_bind]
    simpa using hv
  · exact hw a

@[simp] theorem run_of_off {op : String} {c : Option α} {refusal : Fault ε → γ}
    {admitted : α → m γ} :
    (Verdict.of false c).run op refusal admitted = pure (refusal (.unsupported op)) := rfl

@[simp] theorem run_of_none {op : String} {g : Bool} {refusal : Fault ε → γ}
    {admitted : α → m γ} (hg : g = true) :
    (Verdict.of g none).run op refusal admitted = pure (refusal (.failed op none)) := by
  subst hg
  rfl

@[simp] theorem run_of_some {op : String} {g : Bool} {a : α} {refusal : Fault ε → γ}
    {admitted : α → m γ} (hg : g = true) :
    (Verdict.of g (some a)).run op refusal admitted = admitted a := by
  subst hg
  rfl

end Follows

namespace DeviceService

variable {m : Type → Type} [Monad m] {ε : Type}

@[simp] theorem guarded_some {α : Type} (fault : Fault ε) (op : String) (act : m (Except ε α)) :
    guarded (some fault) op act = pure (.error fault) := rfl

@[simp] theorem guarded_none {α : Type} (op : String) (act : m (Except ε α)) :
    guarded none op act = act >>= fun r => pure (Fault.reported op r) := by
  show (act >>= _) = act >>= _
  congr 1
  funext r
  cases r <;> rfl

variable (b : DeviceBackend m ε) (f : Features)

@[simp] theorem fdCheck_eq (op : String) (fd : Int) :
    (fdCheck f op fd : Option (Fault ε)) =
      if !f.device then some (.unsupported op) else if 0 ≤ fd then none else some (.failed op none) := by
  by_cases h : 0 ≤ fd
  · simp [fdCheck, h, not_lt.2 h]
  · simp [fdCheck, h, lt_of_not_ge h]

/-- Every entry point of the device facade follows its verdict. Each needs the device group; a
name must not be empty and a descriptor not negative; a read or write needs a buffer, which may be
empty. A select needs the device-select group too: without a watched set it only sleeps, whatever
the bound, and with one the bound must lie in `[0, 1024]`; the set to mark starts as the watched
set and lands in the output set, if one is given. -/
structure Gated : Prop where
  openPath : ∀ name, Follows "device-open" (Verdict.of f.device (if name.isEmpty then none else some ()))
    (openPath b f name) .error
    fun _ => b.openPath name >>= fun r => pure (Fault.reported "device-open" r)
  close : ∀ fd, Follows "device-close" (Verdict.of f.device (if 0 ≤ fd then some () else none))
    (close b f fd) .error
    fun _ => b.close fd >>= fun r => pure (Fault.reported "device-close" r)
  write : ∀ fd data, Follows "device-write" (Verdict.of f.device (if 0 ≤ fd then data else none))
    (write b f fd data) .error
    fun bs => b.write fd bs >>= fun r => pure (Fault.reported "device-write" r)
  read : ∀ fd size, Follows "device-read" (Verdict.of f.device (if 0 ≤ fd then size else none))
    (read b f fd size) .error
    fun n => b.read fd n >>= fun r => pure (Fault.reported "device-read" r)
  control : ∀ fd cmd arg, Follows "device-control"
    (Verdict.of f.device (if 0 ≤ fd then some () else none))
    (control b f fd cmd arg) .error
    fun _ => b.control fd cmd arg >>= fun r => pure (Fault.reported "device-control" r)
  select : ∀ sleep maxFd readIn readOut t, Follows "device-select"
    (Verdict.of (f.device && f.deviceSelect)
      (if readIn.isNone ∨ (0 ≤ maxFd ∧ maxFd ≤ 1024) then some readIn else none))
    (select b f sleep maxFd readIn readOut t) (fun e => (.error e, readOut))
    fun
    | none => sleep t >>= fun _ => pure (.ok 0, readOut)
    | some watch => b.select maxFd watch watch t >>= fun p =>
        pure (Fault.reported "device-select" p.1, readOut.map fun _ => p.2)

theorem openPath_follows (name : String) :
    Follows "device-open" (Verdict.of f.device (if name.isEmpty then none else some ()))
      (openPath b f name) .error
      fun _ => b.openPath name >>= fun r => pure (Fault.reported "device-open" r) := by
  apply follows_of_run (Verdict.of_ne_plain _ _)
  rcases hd : f.device <;> by_cases hn : name.isEmpty <;> simp [openPath, hd, hn]

theorem close_follows (fd : Int) :
    Follows "device-close" (Verdict.of f.device (if 0 ≤ fd then some () else none))
      (close b f fd) .error
      fun _ => b.close fd >>= fun r => pure (Fault.reported "device-close" r) := by
  apply follows_of_run (Verdict.of_ne_plain _ _)
  rcases hd : f.device <;> by_cases h : 0 ≤ fd <;> simp [close, hd, h]

theorem write_follows (fd : Int) (data : Option Bytes) :
    Follows "device-write" (Verdict.of f.device (if 0 ≤ fd then data else none))
      (write b f fd data) .error
      fun bs => b.write fd bs >>= fun r => pure (Fault.reported "device-write" r) := by
  apply follows_of_run (Verdict.of_ne_plain _ _)
  rcases hd : f.device <;> by_cases h : 0 ≤ fd <;> rcases data with _ | bs <;>
    simp [write, hd, h]

theorem read_follows (fd : Int) (size : Option Nat) :
    Follows "device-read" (Verdict.of f.device (if 0 ≤ fd then size else none))
      (read b f fd size) .error
      fun n => b.read fd n >>= fun r => pure (Fault.reported "device-read" r) := by
  apply follows_of_run (Verdict.of_ne_plain _ _)
  rcases hd : f.device <;> by_cases h : 0 ≤ fd <;> rcases size with _ | n <;>
    simp [read, hd, h]

theorem control_follows (fd : Int) (cmd arg : Nat) :
    Follows "device-control" (Verdict.of f.device (if 0 ≤ fd then some () else none))
      (control b f fd cmd arg) .error
      fun _ => b.control fd cmd arg >>= fun r => pure (Fault.reported "device-control" r) := by
  apply follows_of_run (Verdict.of_ne_plain _ _)
  rcases hd : f.device <;> by_cases h : 0 ≤ fd <;> simp [control, hd, h]

theorem select_follows (sleep : Nat → m Unit) (maxFd : Int) (readIn readOut : Option DescriptorSet)
    (t : Nat) :
    Follows "device-select"
      (Verdict.of (f.device && f.deviceSelect)
        (if readIn.isNone ∨ (0 ≤ maxFd ∧ maxFd ≤ 1024) then some readIn else none))
      (select b f sleep maxFd readIn readOut t) (fun e => (.error e, readOut))
      fun
      | none => sleep t >>= fun _ => pure (.ok 0, readOut)
      | some watch => b.select maxFd watch watch t >>= fun p =>
          pure (Fault.reported "device-select" p.1, readOut.map fun _ => p.2) := by
  apply follows_of_run (Verdict.of_ne_plain _ _)
  rcases hd : f.device <;> rcases hs : f.deviceSelect <;> rcases readIn with _ | watch <;>
    simp [select, hd, hs]
  -- a watched set is left: the bound decides between a refusal and the backend call
  by_cases hb : 0 ≤ maxFd ∧ maxFd ≤ 1024
  · have hr : ¬ (maxFd < 0 ∨ 1024 < maxFd) := by omega
    simp only [hb, hr, and_self, if_true, if_false, run_of_some]
    congr 1
    funext p
    rcases p with ⟨_ | n, marked⟩ <;> rfl
  · have hr : maxFd < 0 ∨ 1024 < maxFd := by omega
    simp [hb, hr]

/-- The device facade gates every call, in every monad and over every backend. -/
theorem device_calls_gated : Gated b f :=
  ⟨openPath_follows b f, close_follows b f, write_follows b f, read_follows b f,
    control_follows b f, select_follows b f⟩

end DeviceService

namespace SocketService

open Net

variable {m : Type → Type} [Monad m] {ε : Type}

@[simp] theorem guarded_some {α : Type} (fault : Fault ε) (op : String) (act : m (Except ε α)) :
    guarded (some fault) op act = pure (.error fault) := rfl

@[simp] theorem guarded_none {α : Type} (op : String) (act : m (Except ε α)) :
    guarded none op act = act >>= fun r => pure (Fault.reported op r) := by
  show (act >>= _) = act >>= _
  congr 1
  funext r
  cases r <;> rfl

variable (b : SocketBackend m ε) (f : Features)

/-- Every entry point of the socket facade follows its verdict. Each needs the socket group, and
the IPv6 entry points the IPv6 group as well, checked before anything else. Then a descriptor must
not be negative, a buffer not empty, an address the call sends to or fills must be given, a socket
type must be stream or datagram, and a select's bound must lie in `[0, 1024]` and its timeout be
`-1` (no bound) or more. A shutdown checks its own group after the descriptor, then its
direction. An admitted call makes one backend call with the checked arguments, except that an
IPv6 create then asks the new socket for IPv6 traffic only and ignores the answer. A select
answers `-1` for every failure. -/
structure Gated : Prop where
  init : Follows "socket-init" (Verdict.of f.socket (some ())) (init b f) .error
    fun _ => b.init >>= fun r => pure (Fault.reported "socket-init" r)
  cleanup : Follows "socket-cleanup" (Verdict.of f.socket (some ())) (cleanup b f) .error
    fun _ => b.cleanup >>= fun r => pure (Fault.reported "socket-cleanup" r)
  create : ∀ t, Follows "socket-create" (Verdict.of f.socket (SocketKind.ofCode? t))
    (create b f t) .error
    fun k => b.socket .inet k >>= fun r => pure (Fault.reported "socket-create" r)
  create6 : ∀ t, Follows "socket-create-ipv6"
    (Verdict.of (f.socket && f.ipv6) (SocketKind.ofCode? t)) (create6 b f t) .error
    fun k => b.socket .inet6 k >>= fun
      | .ok fd => b.setV6Only fd >>= fun _ => pure (.ok fd)
      | .error e => pure (.error (.failed "socket-create-ipv6" (some e)))
  close : ∀ fd, Follows "socket-close" (Verdict.of f.socket (if 0 ≤ fd then some () else none))
    (close b f fd) .error
    fun _ => b.close fd >>= fun r => pure (Fault.reported "socket-close" r)
  shutdown : ∀ fd how, Follows "socket-shutdown"
    (Verdict.of f.socket (if 0 ≤ fd then some () else none) >>= fun _ =>
      Verdict.of f.socketShutdown (ShutdownHow.ofCode? how))
    (shutdown b f fd how) .error
    fun h => b.shutdown fd h >>= fun r => pure (Fault.reported "socket-shutdown" r)
  bind : ∀ fd addr, Follows "socket-bind" (Verdict.of f.socket (if 0 ≤ fd then addr else none))
    (bind b f fd addr) .error
    fun a => b.bind fd a >>= fun r => pure (Fault.reported "socket-bind" r)
  listen : ∀ fd backlog, Follows "socket-listen"
    (Verdict.of f.socket (if 0 ≤ fd then some () else none)) (listen b f fd backlog) .error
    fun _ => b.listen fd backlog >>= fun r => pure (Fault.reported "socket-listen" r)
  accept : ∀ fd addr, Follows "socket-accept"
    (Verdict.of f.socket (if 0 ≤ fd then some () else none)) (accept b f fd addr)
    (fun e => (.error e, addr))
    fun _ => b.accept fd >>= fun r => pure ((Fault.reported "socket-accept" r).map Prod.fst,
      match r with
      | .ok p => addr.map fun _ => p.2
      | .error _ => addr)
  connect : ∀ fd addr, Follows "socket-connect"
    (Verdict.of f.socket (if 0 ≤ fd then addr else none)) (connect b f fd addr) .error
    fun a => b.connect fd a >>= fun r => pure (Fault.reported "socket-connect" r)
  localAddr : ∀ fd addr, Follows "socket-localaddr"
    (Verdict.of f.socket (if 0 ≤ fd then addr else none)) (localAddr b f fd addr)
    (fun e => (.error e, addr))
    fun _ => b.sockName fd >>= fun r => pure ((Fault.reported "socket-localaddr" r).map fun _ => (),
      match r with
      | .ok here => some here
      | .error _ => addr)
  send : ∀ fd buf, Follows "socket-send"
    (Verdict.of f.socket (if 0 ≤ fd ∧ buf ≠ [] then some () else none)) (send b f fd buf) .error
    fun _ => b.send fd buf >>= fun r => pure (Fault.reported "socket-send" r)
  recv : ∀ fd size, Follows "socket-recv"
    (Verdict.of f.socket (if 0 ≤ fd ∧ size ≠ 0 then some () else none)) (recv b f fd size) .error
    fun _ => b.recv fd size >>= fun r => pure (Fault.reported "socket-recv" r)
  sendTo : ∀ fd buf addr, Follows "socket-sendto"
    (Verdict.of f.socket (if 0 ≤ fd ∧ buf ≠ [] then addr else none)) (sendTo b f fd buf addr) .error
    fun a => b.sendTo fd buf a >>= fun r => pure (Fault.reported "socket-sendto" r)
  recvFrom : ∀ fd size addr, Follows "socket-recvfrom"
    (Verdict.of f.socket (if 0 ≤ fd ∧ size ≠ 0 then addr else none)) (recvFrom b f fd size addr)
    (fun e => (.error e, addr))
    fun _ => b.recvFrom fd size >>= fun r =>
      pure ((Fault.reported "socket-recvfrom" r).map fun p => (p.1, p.2.1),
        match r with
        | .ok p => some p.2.2
        | .error _ => addr)
  select : ∀ maxFd sets t, Follows "socket-select"
    (Verdict.of f.socket (if 0 ≤ maxFd ∧ maxFd ≤ 1024 ∧ -1 ≤ t then
      some (if t = -1 then none else some ⟨t / 1000, t % 1000 * 1000⟩) else none))
    (select b f maxFd sets t) (fun (_ : Fault ε) => (-1, sets))
    fun tv => b.select maxFd sets tv >>= fun r => pure (match r with
      | .ok p => p
      | .error _ => (-1, sets))
  bind6 : ∀ fd addr, Follows "socket-bind-ipv6"
    (Verdict.of (f.socket && f.ipv6) (if 0 ≤ fd then addr else none)) (bind6 b f fd addr) .error
    fun a => b.bind6 fd a >>= fun r => pure (Fault.reported "socket-bind-ipv6" r)
  sendTo6 : ∀ fd buf addr, Follows "socket-sendto-ipv6"
    (Verdict.of (f.socket && f.ipv6) (if 0 ≤ fd ∧ buf ≠ [] then addr else none))
    (sendTo6 b f fd buf addr) .error
    fun a => b.sendTo6 fd buf a >>= fun r => pure (Fault.reported "socket-sendto-ipv6" r)
  recvFrom6 : ∀ fd size addr, Follows "socket-recvfrom-ipv6"
    (Verdict.of (f.socket && f.ipv6) (if 0 ≤ fd ∧ size ≠ 0 then addr else none))
    (recvFrom6 b f fd size addr) (fun e => (.error e, addr))
    fun _ => b.recvFrom6 fd size >>= fun r =>
      pure ((Fault.reported "socket-recvfrom-ipv6" r).map fun p => (p.1, p.2.1),
        match r with
        | .ok p => some p.2.2
        | .error _ => addr)

@[simp] theorem ipv6Check_eq (op : String) :
    (ipv6Check f op : Option (Fault ε)) =
      if f.socket && f.ipv6 then none else some (.unsupported op) := by
  rcases hs : f.socket <;> rcases h6 : f.ipv6 <;> simp [ipv6Check, enabledCheck, groupCheck, hs, h6]

@[simp] theorem fdCheck_eq (op : String) (fd : Int) :
    (fdCheck f op fd : Option (Fault ε)) =
      if !f.socket then some (.unsupported op) else if 0 ≤ fd then none else some (.failed op none) := by
  rcases hs : f.socket <;> by_cases h : 0 ≤ fd <;> simp [fdCheck, enabledCheck, groupCheck, hs, h]

@[simp] theorem xferCheck_eq (op : String) (fd : Int) (len : Nat) :
    (xferCheck f op fd len : Option (Fault ε)) =
      if !f.socket then some (.unsupported op)
      else if 0 ≤ fd ∧ len ≠ 0 then none else some (.failed op none) := by
  rcases hs : f.socket <;> by_cases h : 0 ≤ fd <;> by_cases hl : len = 0 <;>
    simp [xferCheck, hs, h, hl]

theorem selectWait?_of_wait {t : Int} (h : -1 ≤ t) :
    selectWait? t = some (if t = -1 then none else some ⟨t / 1000, t % 1000 * 1000⟩) := by
  rcases (show t = -1 ∨ t = 0 ∨ 0 < t by omega) with rfl | rfl | ht
  · rfl
  · rfl
  · simp [selectWait?_positive ht, show t ≠ -1 by omega]

theorem selectWait?_of_lt {t : Int} (h : t < -1) : selectWait? t = none := by
  have h1 : t ≠ -1 := by omega
  have h2 : t ≠ 0 := by omega
  simp [selectWait?, h1, h2]
  omega

theorem init_follows :
    Follows "socket-init" (Verdict.of f.socket (some ())) (init b f) .error
      fun _ => b.init >>= fun r => pure (Fault.reported "socket-init" r) := by
  apply follows_of_run (Verdict.of_ne_plain _ _)
  rcases hs : f.socket <;> simp [init, enabledCheck, groupCheck, hs]

theorem cleanup_follows :
    Follows "socket-cleanup" (Verdict.of f.socket (some ())) (cleanup b f) .error
      fun _ => b.cleanup >>= fun r => pure (Fault.reported "socket-cleanup" r) := by
  apply follows_of_run (Verdict.of_ne_plain _ _)
  rcases hs : f.socket <;> simp [cleanup, enabledCheck, groupCheck, hs]

theorem create_follows (t : Int) :
    Follows "socket-create" (Verdict.of f.socket (SocketKind.ofCode? t)) (create b f t) .error
      fun k => b.socket .inet k >>= fun r => pure (Fault.reported "socket-create" r) := by
  apply follows_of_run (Verdict.of_ne_plain _ _)
  rcases hs : f.socket <;> rcases hk : SocketKind.ofCode? t with _ | k <;>
    simp [create, createIn, enabledCheck, groupCheck, hs, hk]

theorem create6_follows [LawfulMonad m] (t : Int) :
    Follows "socket-create-ipv6" (Verdict.of (f.socket && f.ipv6) (SocketKind.ofCode? t))
      (create6 b f t) .error
      fun k => b.socket .inet6 k >>= fun
        | .ok fd => b.setV6Only fd >>= fun _ => pure (.ok fd)
        | .error e => pure (.error (.failed "socket-create-ipv6" (some e))) := by
  apply follows_of_run (Verdict.of_ne_plain _ _)
  rcases hg : (f.socket && f.ipv6) <;> rcases hk : SocketKind.ofCode? t with _ | k <;>
    simp [create6, createIn, hg, hk]
  -- the backend's reply is reported before the match, which gives the same failure
  congr 1
  funext r
  cases r <;> rfl

theorem close_follows (fd : Int) :
    Follows "socket-close" (Verdict.of f.socket (if 0 ≤ fd then some () else none))
      (close b f fd) .error
      fun _ => b.close fd >>= fun r => pure (Fault.reported "socket-close" r) := by
  apply follows_of_run (Verdict.of_ne_plain _ _)
  rcases hs : f.socket <;> by_cases h : 0 ≤ fd <;> simp [close, hs, h]

theorem shutdown_follows (fd how : Int) :
    Follows "socket-shutdown"
      (Verdict.of f.socket (if 0 ≤ fd then some () else none) >>= fun _ =>
        Verdict.of f.socketShutdown (ShutdownHow.ofCode? how))
      (shutdown b f fd how) .error
      fun h => b.shutdown fd h >>= fun r => pure (Fault.reported "socket-shutdown" r) := by
  apply follows_of_run (Verdict.bind_ne_plain (Verdict.of_ne_plain _ _) fun _ => Verdict.of_ne_plain _ _)
  rcases hs : f.socket <;> by_cases h : 0 ≤ fd <;> rcases hsh : f.socketShutdown <;>
    rcases hh : ShutdownHow.ofCode? how with _ | sh <;>
    simp [shutdown, groupCheck, Verdict.of, Verdict.run, ErrorKind.refusal, hs, h, hsh, hh]

theorem bind_follows (fd : Int) (addr : Option SockAddr) :
    Follows "socket-bind" (Verdict.of f.socket (if 0 ≤ fd then addr else none))
      (bind b f fd addr) .error
      fun a => b.bind fd a >>= fun r => pure (Fault.reported "socket-bind" r) := by
  apply follows_of_run (Verdict.of_ne_plain _ _)
  rcases hs : f.socket <;> by_cases h : 0 ≤ fd <;> rcases addr with _ | a <;>
    simp [bind, presentCheck, hs, h]

theorem listen_follows (fd backlog : Int) :
    Follows "socket-listen" (Verdict.of f.socket (if 0 ≤ fd then some () else none))
      (listen b f fd backlog) .error
      fun _ => b.listen fd backlog >>= fun r => pure (Fault.reported "socket-listen" r) := by
  apply follows_of_run (Verdict.of_ne_plain _ _)
  rcases hs : f.socket <;> by_cases h : 0 ≤ fd <;> simp [listen, hs, h]

theorem accept_follows [LawfulMonad m] (fd : Int) (addr : Option SockAddr) :
    Follows "socket-accept" (Verdict.of f.socket (if 0 ≤ fd then some () else none))
      (accept b f fd addr) (fun e => (.error e, addr))
      fun _ => b.accept fd >>= fun r => pure ((Fault.reported "socket-accept" r).map Prod.fst,
        match r with
        | .ok p => addr.map fun _ => p.2
        | .error _ => addr) := by
  apply follows_of_run (Verdict.of_ne_plain _ _)
  rcases hs : f.socket <;> by_cases h : 0 ≤ fd <;> simp [accept, hs, h]
  rw [map_eq_bind_pure_comp]
  congr 1
  funext r
  rcases r with _ | ⟨nfd, peer⟩ <;> rfl

theorem connect_follows (fd : Int) (addr : Option SockAddr) :
    Follows "socket-connect" (Verdict.of f.socket (if 0 ≤ fd then addr else none))
      (connect b f fd addr) .error
      fun a => b.connect fd a >>= fun r => pure (Fault.reported "socket-connect" r) := by
  apply follows_of_run (Verdict.of_ne_plain _ _)
  rcases hs : f.socket <;> by_cases h : 0 ≤ fd <;> rcases addr with _ | a <;>
    simp [connect, presentCheck, hs, h]

theorem localAddr_follows [LawfulMonad m] (fd : Int) (addr : Option SockAddr) :
    Follows "socket-localaddr" (Verdict.of f.socket (if 0 ≤ fd then addr else none))
      (localAddr b f fd addr) (fun e => (.error e, addr))
      fun _ => b.sockName fd >>= fun r =>
        pure ((Fault.reported "socket-localaddr" r).map fun _ => (),
          match r with
          | .ok here => some here
          | .error _ => addr) := by
  apply follows_of_run (Verdict.of_ne_plain _ _)
  rcases hs : f.socket <;> by_cases h : 0 ≤ fd <;> rcases addr with _ | a <;>
    simp [localAddr, presentCheck, hs, h]
  rw [map_eq_bind_pure_comp]
  congr 1
  funext r
  rcases r with _ | here <;> rfl

theorem send_follows (fd : Int) (buf : Bytes) :
    Follows "socket-send" (Verdict.of f.socket (if 0 ≤ fd ∧ buf ≠ [] then some () else none))
      (send b f fd buf) .error
      fun _ => b.send fd buf >>= fun r => pure (Fault.reported "socket-send" r) := by
  apply follows_of_run (Verdict.of_ne_plain _ _)
  rcases hs : f.socket <;> by_cases h : 0 ≤ fd <;> by_cases hb : buf = [] <;> simp [send, hs, h, hb]

theorem recv_follows (fd : Int) (size : Nat) :
    Follows "socket-recv" (Verdict.of f.socket (if 0 ≤ fd ∧ size ≠ 0 then some () else none))
      (recv b f fd size) .error
      fun _ => b.recv fd size >>= fun r => pure (Fault.reported "socket-recv" r) := by
  apply follows_of_run (Verdict.of_ne_plain _ _)
  rcases hs : f.socket <;> by_cases h : 0 ≤ fd <;> by_cases hn : size = 0 <;> simp [recv, hs, h, hn]

theorem sendTo_follows (fd : Int) (buf : Bytes) (addr : Option SockAddr) :
    Follows "socket-sendto" (Verdict.of f.socket (if 0 ≤ fd ∧ buf ≠ [] then addr else none))
      (sendTo b f fd buf addr) .error
      fun a => b.sendTo fd buf a >>= fun r => pure (Fault.reported "socket-sendto" r) := by
  apply follows_of_run (Verdict.of_ne_plain _ _)
  rcases hs : f.socket <;> by_cases h : 0 ≤ fd <;> by_cases hb : buf = [] <;>
    rcases addr with _ | a <;> simp [sendTo, presentCheck, hs, h, hb]

theorem recvFrom_follows [LawfulMonad m] (fd : Int) (size : Nat) (addr : Option SockAddr) :
    Follows "socket-recvfrom" (Verdict.of f.socket (if 0 ≤ fd ∧ size ≠ 0 then addr else none))
      (recvFrom b f fd size addr) (fun e => (.error e, addr))
      fun _ => b.recvFrom fd size >>= fun r =>
        pure ((Fault.reported "socket-recvfrom" r).map fun p => (p.1, p.2.1),
          match r with
          | .ok p => some p.2.2
          | .error _ => addr) := by
  apply follows_of_run (Verdict.of_ne_plain _ _)
  rcases hs : f.socket <;> by_cases h : 0 ≤ fd <;> by_cases hn : size = 0 <;>
    rcases addr with _ | a <;> simp [recvFrom, presentCheck, hs, h, hn]
  rw [map_eq_bind_pure_comp]
  congr 1
  funext r
  rcases r with _ | ⟨n, data, src⟩ <;> rfl

theorem select_follows (maxFd : Int) (sets : SelectSets) (t : Int) :
    Follows "socket-select"
      (Verdict.of f.socket (if 0 ≤ maxFd ∧ maxFd ≤ 1024 ∧ -1 ≤ t then
        some (if t = -1 then none else some ⟨t / 1000, t % 1000 * 1000⟩) else none))
      (select b f maxFd sets t) (fun (_ : Fault ε) => (-1, sets))
      fun tv => b.select maxFd sets tv >>= fun r => pure (match r with
        | .ok p => p
        | .error _ => (-1, sets)) := by
  apply follows_of_run (Verdict.of_ne_plain _ _)
  rcases hs : f.socket
  · simp [select, hs]
  by_cases hb : 0 ≤ maxFd ∧ maxFd ≤ 1024
  · have hr : ¬ (maxFd < 0 ∨ 1024 < maxFd) := by omega
    by_cases ht : -1 ≤ t
    · simp only [select, hs, hr, selectWait?_of_wait ht, hb, ht, and_self, if_true, if_false,
        Bool.not_true, Bool.false_eq_true, false_or, run_of_some]
      congr 1
      funext r
      rcases r with _ | ⟨n, after⟩ <;> rfl
    · simp [select, hs, hb, hr, ht, selectWait?_of_lt (lt_of_not_ge ht)]
  · have hr : maxFd < 0 ∨ 1024 < maxFd := by omega
    have hc : ¬ (0 ≤ maxFd ∧ maxFd ≤ 1024 ∧ -1 ≤ t) := by omega
    simp [select, hs, hr, hc]

theorem bind6_follows (fd : Int) (addr : Option SockAddr6) :
    Follows "socket-bind-ipv6" (Verdict.of (f.socket && f.ipv6) (if 0 ≤ fd then addr else none))
      (bind6 b f fd addr) .error
      fun a => b.bind6 fd a >>= fun r => pure (Fault.reported "socket-bind-ipv6" r) := by
  apply follows_of_run (Verdict.of_ne_plain _ _)
  rcases hs : f.socket <;> rcases h6 : f.ipv6 <;> by_cases h : 0 ≤ fd <;> rcases addr with _ | a <;>
    simp [bind6, presentCheck, hs, h6, h]

theorem sendTo6_follows (fd : Int) (buf : Bytes) (addr : Option SockAddr6) :
    Follows "socket-sendto-ipv6"
      (Verdict.of (f.socket && f.ipv6) (if 0 ≤ fd ∧ buf ≠ [] then addr else none))
      (sendTo6 b f fd buf addr) .error
      fun a => b.sendTo6 fd buf a >>= fun r => pure (Fault.reported "socket-sendto-ipv6" r) := by
  apply follows_of_run (Verdict.of_ne_plain _ _)
  rcases hs : f.socket <;> rcases h6 : f.ipv6 <;> by_cases h : 0 ≤ fd <;> by_cases hb : buf = [] <;>
    rcases addr with _ | a <;> simp [sendTo6, presentCheck, hs, h6, h, hb]

theorem recvFrom6_follows [LawfulMonad m] (fd : Int) (size : Nat) (addr : Option SockAddr6) :
    Follows "socket-recvfrom-ipv6"
      (Verdict.of (f.socket && f.ipv6) (if 0 ≤ fd ∧ size ≠ 0 then addr else none))
      (recvFrom6 b f fd size addr) (fun e => (.error e, addr))
      fun _ => b.recvFrom6 fd size >>= fun r =>
        pure ((Fault.reported "socket-recvfrom-ipv6" r).map fun p => (p.1, p.2.1),
          match r with
          | .ok p => some p.2.2
          | .error _ => addr) := by
  apply follows_of_run (Verdict.of_ne_plain _ _)
  rcases hs : f.socket <;> rcases h6 : f.ipv6 <;> by_cases h : 0 ≤ fd <;> by_cases hn : size = 0 <;>
    rcases addr with _ | a <;> simp [recvFrom6, presentCheck, hs, h6, h, hn]
  rw [map_eq_bind_pure_comp]
  congr 1
  funext r
  rcases r with _ | ⟨n, data, src⟩ <;> rfl

/-- The socket facade gates every call, in every lawful monad and over every backend. -/
theorem socket_calls_gated [LawfulMonad m] : Gated b f :=
  ⟨init_follows b f, cleanup_follows b f, create_follows b f, create6_follows b f,
    close_follows b f, shutdown_follows b f, bind_follows b f, listen_follows b f,
    accept_follows b f, connect_follows b f, localAddr_follows b f, send_follows b f,
    recv_follows b f, sendTo_follows b f, recvFrom_follows b f, select_follows b f,
    bind6_follows b f, sendTo6_follows b f, recvFrom6_follows b f⟩

/-- The recording backend whose calls all succeed, creating and accepting descriptor 3, runs in
a lawful monad, and the facade over it gates every call. -/
theorem scripted_socket_calls_gated :
    LawfulMonad SocketScript.Recorder ∧
      Gated (SocketScript.backend ⟨.ok none, .ok none, .ok 3, .ok none, .ok SockAddr.zero,
        .ok SockAddr6.zero⟩) Features.all :=
  ⟨inferInstance, socket_calls_gated _ _⟩

end SocketService

end PlatformLayer
