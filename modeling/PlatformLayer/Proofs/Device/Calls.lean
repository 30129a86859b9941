import Mathlib
import PlatformLayer.Device.Emulation
/-!
# Calls of the memory device service

A call is one entry point of the service with its arguments. `call` makes it and gives the
reply and the state after, or the text that stops the program. `Trace s t s'` says that the
calls of `t`, made in order from `s`, give the replies listed in `t` and end in `s'`; every
history of the service is such a trace.
-/
namespace PlatformLayer.Emulation

/-- An entry point of the service with its arguments. -/
inductive Call where
  | openPath (name : String)
  | close (fd : Int)
  | write (fd : Int) (msg : Bytes)
  | read (fd : Int) (size : Nat)
  | control (fd : Int) (cmd : Nat)
  | select (maxFd : Int) (watch ready : DescriptorSet)
  | register (d : Driver)
  | unregister (d : Driver)
  | makeNode (path : String)
  deriving Repr

/-- What a call answers; a select also gives the ready set after. -/
inductive Reply where
  | opened (r : Except DeviceError Int)
  | closed (r : Except DeviceError Unit)
  | read (r : Except DeviceError (Nat × Bytes))
  | wrote (r : Except DeviceError Nat)
  | controlled (r : Except DeviceError Nat)
  | selected (r : Except DeviceError Nat) (ready : DescriptorSet)
  | changed (r : Except DeviceError Unit)
  deriving Repr

/-- The calls that work on descriptors rather than on drivers and nodes. -/
def Call.onDescriptors : Call → Bool
  | .register _ | .unregister _ | .makeNode _ => false
  | _ => true

/-- Whether a reply reports an error. -/
def Reply.failed : Reply → Bool
  | .opened r => !r.isOk
  | .closed r => !r.isOk
  | .read r => !r.isOk
  | .wrote r => !r.isOk
  | .controlled r => !r.isOk
  | .selected r _ => !r.isOk
  | .changed r => !r.isOk

variable {σ : Type} (fs : NodeStore σ)

def call : Call → Emulation σ → Except String (Reply × Emulation σ)
  | .openPath name, s => .ok (.opened (openDevice fs name s).1, (openDevice fs name s).2)
  | .close fd, s => .ok (.closed (close fd s).1, (close fd s).2)
  | .write fd msg, s => .ok (.wrote (write fd msg s).1, (write fd msg s).2)
  | .read fd size, s => .ok (.read (read fd size s).1, (read fd size s).2)
  | .control fd cmd, s => .ok (.controlled (control fd cmd s).1, (control fd cmd s).2)
  | .select maxFd watch ready, s =>
    .ok (.selected (s.select maxFd watch ready).1 (s.select maxFd watch ready).2, s)
  | .register d, s => .ok (.changed (register fs d s).1, (register fs d s).2)
  | .unregister d, s => (unregister fs d s).map fun r => (.changed r.1, r.2)
  | .makeNode path, s => .ok (.changed (makeServedNode fs path s).1, (makeServedNode fs path s).2)

/-- The calls of a list made in order from a state, with their replies, ending in a state. -/
inductive Trace : Emulation σ → List (Call × Reply) → Emulation σ → Prop
  | nil (s : Emulation σ) : Trace s [] s
  | cons {s s₁ s' : Emulation σ} {c : Call} {r : Reply} {t : List (Call × Reply)} :
      call fs c s = .ok (r, s₁) → Trace s₁ t s' → Trace s ((c, r) :: t) s'

end PlatformLayer.Emulation
