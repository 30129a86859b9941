/-!
# Elapsed time from a millisecond tick counter

A 32-bit counter of milliseconds since boot wraps every `2^32` ms, a little under fifty days.
Elapsed milliseconds are the difference of two readings modulo `2^32`, so they are exact across
one wrap. Elapsed seconds divide the current reading by 1000 first; a reference of 0 asks for the
seconds since boot, and a reference above the current seconds is taken to lie before the last
wrap, which holds `tickMaxSec` whole seconds.
-/
namespace PlatformLayer

namespace Tick

/-- The whole seconds in one turn of the counter: `⌊(2^32 - 1) / 1000⌋`. -/
def tickMaxSec : UInt32 := 4294967

def elapsedMs (ticks ref : UInt32) : UInt32 := ticks - ref

def elapsedSec (ticks ref : UInt32) : UInt32 :=
  let cur := ticks / 1000
  if ref = 0 then cur
  else if ref ≤ cur then cur - ref
  else tickMaxSec - ref + cur

theorem tickMaxSec_eq : tickMaxSec.toNat = 4294967295 / 1000 := by decide

theorem elapsedMs_self (t : UInt32) : elapsedMs t t = 0 := by
  simp [elapsedMs]

end Tick

end PlatformLayer
