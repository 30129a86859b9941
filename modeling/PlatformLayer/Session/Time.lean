import PlatformLayer.Session.Read
import PlatformLayer.Time.Clock
/-!
# Requests on elapsed time and sleeps

A tick request sets the tick counter and reads elapsed milliseconds or seconds against a
reference, step by step. A timer request runs one check of a time source and answers whether it
held; sleeps are kept short, and the microsecond sleep of `recalibrate` is for the tick source
alone.
-/
namespace PlatformLayer.Session

/-- The answer to one tick step: its ticks and reference are read before what it does. -/
def tickStep (v : Value) : Read Value := do
  let ticks := UInt32.ofNat (← intField v "ticks" .u32 0).toNat
  let ref := UInt32.ofNat (← intField v "ref" .u32 0).toNat
  match ← stringField v "do" "" with
  | "ms" => pure (Value.nat (Tick.elapsedMs ticks ref).toNat)
  | "sec" => pure (Value.nat (Tick.elapsedSec ticks ref).toNat)
  | _ => refuse "tick" "unknown step"

def tickRequest (req : Value) : Read Value := do
  pure (stepsAnswer (← (← stepsField req).mapM tickStep))

/-- `{"ok"}` of a timer check. The source is read and checked first, then the value, then the
check. -/
def timerRequest (req : Value) : Read Value := do
  let source ←
    match ← stringField req "provider" "default" with
    | "default" => pure TimeSource.monotonic
    | "generic" => pure TimeSource.generic
    | "tick" => pure TimeSource.tick
    | _ => refuse "timer" "unknown provider"
  let value := (← intField req "value" .u32 0).toNat
  let check ←
    match ← stringField req "check" "" with
    | "sleep_ms" => pure TimerCheck.sleepMs
    | "sleep_us" => pure TimerCheck.sleepUs
    | "sleep_s" => pure TimerCheck.sleepS
    | "elapsed_s" => pure TimerCheck.elapsedS
    | "wallclock" => pure TimerCheck.wallclock
    | _ => refuse "timer" "unknown check"
  let allowed : Bool :=
    match check with
    | .sleepMs => value ≤ 50
    | .sleepUs => value ≤ 50000 ∨ (source = .tick ∧ value = recalibrate)
    | .sleepS => value = 0
    | _ => true
  if !allowed then refuse "value" "too long"
  pure (.obj [("ok", .bool (check.holds source 0 value))])

end PlatformLayer.Session
