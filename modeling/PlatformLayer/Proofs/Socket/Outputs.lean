import Mathlib
import PlatformLayer.Proofs.Gating
/-!
# Output addresses of the socket facade

Accept, the local-address query and the two receives hand the caller's address back after the
call. `WritesOnSuccess` says that such a call leaves the address as it was unless it succeeds,
and that on success the address holds what the backend gave. A refused call runs nothing and
answers the address it got. An admitted call is the backend action followed by an answer computed
from the backend's reply alone (`Answers`). A backend reply is a value or an error, so an address
that a backend hands back together with its error is dropped before the facade sees it. Reading a
dotted quad changes only the address part of a socket address, and only when it succeeds.

Main statement: `outputs_written_on_success`.
-/
namespace PlatformLayer

theorem Verdict.isOk_of {γ : Type} (group : Bool) (checked : Option γ) :
    (Verdict.of group checked).isOk = (group && checked.isSome) := by
  cases group <;> cases checked <;> rfl

namespace SocketService

open Net

variable {m : Type → Type} [Monad m] {ε α β A : Type}

/-- An answer made from a backend reply: it succeeds exactly when the backend does, keeps the
caller's address `addr` when the backend fails, and holds `written v` for a backend value `v`. -/
structure Answers (k : Except ε β → Result ε α × Option A) (addr : Option A)
    (written : β → Option A) : Prop where
  succeeds : ∀ r, (k r).1.isOk = r.isOk
  keeps : ∀ e, (k (.error e)).2 = addr
  writes : ∀ v, (k (.ok v)).2 = written v

/-- A call that answers an output address writes it only on success. When `refused` holds it runs
nothing and fails with `addr` unchanged; otherwise it is the backend action `act` followed by an
answer from its reply. -/
def WritesOnSuccess (refused : Bool) (x : m (Result ε α × Option A)) (act : m (Except ε β))
    (addr : Option A) (written : β → Option A) : Prop :=
  if refused then ∃ fault, x = pure (.error fault, addr)
  else ∃ k, Answers k addr written ∧ x = act >>= fun r => pure (k r)

theorem Answers.of_reported {op : String} {g : β → α} {k : Except ε β → Result ε α × Option A}
    {addr : Option A} {written : β → Option A}
    (hk : ∀ r, (k r).1 = (Fault.reported op r).map g) (hkeep : ∀ e, (k (.error e)).2 = addr)
    (hwrite : ∀ v, (k (.ok v)).2 = written v) : Answers k addr written where
  succeeds r := by cases r <;> simp [hk, Fault.reported, Except.mapError, Except.map,
    Except.isOk, Except.toBool]
  keeps := hkeep
  writes := hwrite

/-- A call that follows a verdict that refuses exactly when `refused` holds, and that answers
from the backend reply when admitted, writes its address only on success. -/
theorem writesOnSuccess_of_follows {γ : Type} {op : String} {v : Verdict γ} {refused : Bool}
    {x : m (Result ε α × Option A)} {act : m (Except ε β)} {addr : Option A}
    {written : β → Option A} {k : Except ε β → Result ε α × Option A}
    (hx : Follows op v x (fun e => (.error e, addr)) fun _ => act >>= fun r => pure (k r))
    (hv : v.isOk = !refused) (hk : Answers k addr written) :
    WritesOnSuccess refused x act addr written := by
  cases v with
  | error kind =>
    have hr : refused = true := by simpa [Except.isOk, Except.toBool] using hv
    obtain ⟨fault, -, -, hx⟩ := hx
    simp only [WritesOnSuccess, hr, if_true]
    exact ⟨fault, hx⟩
  | ok a =>
    have hr : refused = false := by simpa [Except.isOk, Except.toBool] using hv
    simp only [WritesOnSuccess, hr, Bool.false_eq_true, if_false]
    exact ⟨k, hk, hx⟩

theorem aton_eq_ok_iff {s : String} {addr : Option SockAddr} {sa' : SockAddr} :
    aton s addr = .ok sa' ↔
      ∃ sa a, addr = some sa ∧ parseAddr s = .ok (.v4 a) ∧ sa' = { sa with addr := a } := by
  cases addr with
  | none => simp [aton]
  | some sa =>
    cases hp : parseAddr s with
    | error e => simp [aton, hp]
    | ok ip =>
      cases ip with
      | v4 a => simp [aton, hp, eq_comm]
      | v6 a zone => simp [aton, hp]
      | invalid => simp [aton, hp]

variable (b : SocketBackend m ε) (f : Features)

/-- The entry points that fill an address write it only when they succeed. Accept is refused only
for its group and descriptor, so without an address it still runs and writes nothing; the others
are refused without an address. Reading a dotted quad changes only the address part. -/
structure OutputsOnSuccess : Prop where
  accept : ∀ fd addr, WritesOnSuccess (!f.socket || decide (fd < 0)) (accept b f fd addr)
    (b.accept fd) addr fun p => addr.map fun _ => p.2
  localAddr : ∀ fd addr, WritesOnSuccess (!f.socket || decide (fd < 0) || addr.isNone)
    (localAddr b f fd addr) (b.sockName fd) addr some
  recvFrom : ∀ fd size addr,
    WritesOnSuccess (!f.socket || decide (fd < 0) || size == 0 || addr.isNone)
      (recvFrom b f fd size addr) (b.recvFrom fd size) addr fun p => some p.2.2
  recvFrom6 : ∀ fd size addr,
    WritesOnSuccess (!(f.socket && f.ipv6) || decide (fd < 0) || size == 0 || addr.isNone)
      (recvFrom6 b f fd size addr) (b.recvFrom6 fd size) addr fun p => some p.2.2
  aton : ∀ s addr sa', aton s addr = .ok sa' →
    ∃ sa, addr = some sa ∧ sa' = { sa with addr := sa'.addr }

/-- In every lawful monad, under every set of features and over every backend, the socket facade
writes output addresses only on success. -/
theorem outputs_written_on_success [LawfulMonad m] : OutputsOnSuccess b f where
  accept fd addr := by
    refine writesOnSuccess_of_follows (accept_follows b f fd addr) ?_
      (.of_reported (fun _ => rfl) (fun _ => rfl) fun _ => rfl)
    by_cases h : 0 ≤ fd <;> cases f.socket <;> simp [Verdict.isOk_of, h, ← not_le]
  localAddr fd addr := by
    refine writesOnSuccess_of_follows (localAddr_follows b f fd addr) ?_
      (.of_reported (fun _ => rfl) (fun _ => rfl) fun _ => rfl)
    by_cases h : 0 ≤ fd <;> cases f.socket <;> cases addr <;> simp [Verdict.isOk_of, h, ← not_le]
  recvFrom fd size addr := by
    refine writesOnSuccess_of_follows (recvFrom_follows b f fd size addr) ?_
      (.of_reported (fun _ => rfl) (fun _ => rfl) fun _ => rfl)
    by_cases h : 0 ≤ fd <;> by_cases hn : size = 0 <;> cases f.socket <;> cases addr <;>
      simp [Verdict.isOk_of, h, hn, ← not_le]
  recvFrom6 fd size addr := by
    refine writesOnSuccess_of_follows (recvFrom6_follows b f fd size addr) ?_
      (.of_reported (fun _ => rfl) (fun _ => rfl) fun _ => rfl)
    by_cases h : 0 ≤ fd <;> by_cases hn : size = 0 <;> cases f.socket <;> cases f.ipv6 <;>
      cases addr <;> simp [Verdict.isOk_of, h, hn, ← not_le]
  aton s addr sa' h := by
    obtain ⟨sa, a, rfl, -, rfl⟩ := aton_eq_ok_iff.mp h
    exact ⟨sa, rfl, rfl⟩

/-- The recording backend that fails every call while still holding a peer address runs in a
lawful monad, and the facade over it writes output addresses only on success. -/
theorem failingScript_outputs_written_on_success :
    LawfulMonad SocketScript.Recorder ∧
      OutputsOnSuccess (SocketScript.backend ⟨.ok (some "refused"), .ok none, .ok 3, .ok none,
        .ok SockAddr.zero, .ok SockAddr6.zero⟩) Features.all :=
  ⟨inferInstance, outputs_written_on_success _ _⟩

end SocketService

end PlatformLayer
