import PlatformLayer.Platform
/-!
# The terminal service

The terminal service switches the echo and the line mode of a terminal and reboots the system,
each through one call of its backend. Echo off and on set the echo; setting keypress mode turns
line mode off and resetting it turns line mode back on. The echo and keypress requests need the
termios group and reboot needs the misc group; without its group a request makes no call. A
failed call is only logged, so a request answers nothing.
-/
namespace PlatformLayer

inductive TermCall where
  | setEcho (on : Bool)
  | setLineMode (on : Bool)
  | reboot
  deriving DecidableEq, Repr

inductive TermRequest where
  | echoOff
  | echoOn
  | keypressSet
  | keypressReset
  | reboot
  deriving DecidableEq, Repr

structure TermBackend (m : Type → Type) (ε : Type) where
  setEcho : Bool → m (Except ε Unit)
  setLineMode : Bool → m (Except ε Unit)
  reboot : m (Except ε Unit)

namespace TermRequest

def call : TermRequest → TermCall
  | .echoOff => .setEcho false
  | .echoOn => .setEcho true
  | .keypressSet => .setLineMode false
  | .keypressReset => .setLineMode true
  | .reboot => .reboot

def enabled (f : Features) : TermRequest → Bool
  | .reboot => f.misc
  | _ => f.termios

/-- Serve a request: make its call, if its group is built in, and drop any error. -/
def serve {m : Type → Type} [Monad m] {ε : Type} (b : TermBackend m ε) (f : Features)
    (r : TermRequest) : m Unit :=
  if r.enabled f then do
    let _ ← match r.call with
      | .setEcho on => b.setEcho on
      | .setLineMode on => b.setLineMode on
      | .reboot => b.reboot
    pure ()
  else pure ()

end TermRequest

end PlatformLayer
