import PlatformLayer.Probe.Run
/-!
# The probe's command line

Runs the probe on the arguments against the standard build, prints what it printed and exits
with its status. A sleep is timed on the monotonic clock and reported as `slept <n> ms`; the
UDP echo service, on a host where no datagram arrives, waits until the process is stopped.
-/
namespace PlatformLayer.Probe

/-- Wait until the process is stopped. -/
partial def idle : IO Unit := do
  IO.sleep 500
  idle

def runMain (args : List String) : IO UInt32 := do
  let out := run Build.standard args
  let stdout ← IO.getStdout
  stdout.putStr out.stdout
  stdout.flush
  match out.ending with
  | .exit status => pure (UInt32.ofNat status)
  | .sleep ms =>
    let t0 ← IO.monoMsNow
    IO.sleep (UInt32.ofNat ms)
    let t1 ← IO.monoMsNow
    stdout.putStrLn ("slept " ++ toString (t1 - t0) ++ " ms")
    pure 0
  | .serve _ =>
    idle
    pure 0

end PlatformLayer.Probe

def main (args : List String) : IO UInt32 := PlatformLayer.Probe.runMain args
