import PlatformLayer.Time.Tick
/-!
# Sleeping and reading the clocks

A time source sleeps and reads elapsed time against a reference; the tick source reads its 32-bit
millisecond counter (`Tick`). `TimerCheck.holds` says whether what a check saw at a moment is what
the services promise.
-/
namespace PlatformLayer

inductive TimeSource where
  | monotonic
  | generic
  | tick
  deriving DecidableEq, Repr

/-- The microsecond sleep that recalibrates the tick source's busy wait. -/
def recalibrate : Nat := 4294967295

namespace TimeSource

def msReading (_ : TimeSource) (now : Nat) : UInt32 := UInt32.ofNat (now / 1000)

def elapsedMs (s : TimeSource) (now : Nat) (ref : UInt32) : UInt32 := s.msReading now - ref

def elapsedSec (s : TimeSource) (now : Nat) (ref : UInt32) : UInt32 :=
  match s with
  | .tick => Tick.elapsedSec (s.msReading now) ref
  | _ => UInt32.ofNat (now / 1000000) - ref

def sleepUsLasts (s : TimeSource) (us : Nat) : Nat :=
  if s = .tick ∧ us = recalibrate then 0 else us

end TimeSource

inductive TimerCheck where
  | sleepMs
  | sleepUs
  | sleepS
  | elapsedS
  | wallclock
  deriving DecidableEq, Repr

def TimerCheck.holds (s : TimeSource) (now value : Nat) : TimerCheck → Bool
  | .sleepMs =>
    let r := s.elapsedMs (now + value * 1000) (s.msReading now)
    value ≤ r.toNat ∧ r.toNat < value + 5000
  | .sleepUs =>
    let lasted := s.sleepUsLasts value
    if s = .tick then decide (lasted ≤ 5000000) else decide (value ≤ lasted)
  | .sleepS => decide (value * 1000000 ≤ 1000000)
  | .elapsedS => decide ((s.elapsedSec now (s.elapsedSec now 0)).toNat ≤ 1)
  | .wallclock => true

end PlatformLayer
