import PlatformLayer.Session.DeviceFiles
import PlatformLayer.Probe.Run
/-!
# Requests on the probe's command line

A request gives the probe's arguments and is answered with what the probe printed and its exit
status, or with a halt when the probe cannot be started. Arguments whose work happens in real
time or in files are refused, also with a value after `=`, and a device named by `--name` or
`-name` must be one a device file request may open.
-/
namespace PlatformLayer.Session

/-- The words whose work happens in real time or in files: two commands and two flags, each
flag in both spellings. -/
def refusedWords : List String :=
  ["sleep", "udp-echo", "--log", "-log", "--profile", "-profile"]

def argWord (arg : String) : String := (arg.splitOn "=").headD arg

/-- The device name an argument gives: itself when it follows `--name` or `-name`, or the text
after `--name=` or `-name=`. -/
def namedDevice? (afterName : Bool) (arg : String) : Option String :=
  if afterName then some arg
  else if arg.startsWith "--name=" then some (arg.drop 7).toString
  else if arg.startsWith "-name=" then some (arg.drop 6).toString
  else none

/-- Check the arguments one at a time, in order: each must be text, must not be refused, and
then must not name a device that may not be opened. `afterName` tells whether the argument
before was `--name` or `-name`. -/
def checkArgs (afterName : Bool) : List Value → Read (List String)
  | [] => pure []
  | v :: rest => do
    let arg ← match v with
      | .str s => pure s
      | _ => refuse "args" "not a string"
    let word := argWord arg
    -- the refusal's text is the one the answers carry, word for word
    if refusedWords.contains word then refuse "args" (word ++ " is not run by the oracle")
    if let some name := namedDevice? afterName arg then
      if !allowedDeviceName name then throw (pathRefusal name)
    pure (arg :: (← checkArgs (arg == "--name" || arg == "-name") rest))

/-- The file the probe is started from, as a failure to start it names it. -/
def probePath : String := "/opt/oracle_build/driver/osal-probe"

/-- Why the probe cannot be started with checked arguments: no argument of a new process may
hold a NUL character. -/
def startFailure? (args : List String) : Option String :=
  if args.any (·.contains '\x00') then some ("fork/exec " ++ probePath ++ ": invalid argument")
  else none

/-- `{"stdout", "exit"}` of a run of the probe. The probe is built once, with no tags, so
every build answers alike. Arguments are checked before the probe is started, and a probe that
cannot be started halts the request. -/
def cliRequest (req : Value) : Answer := do
  let args ← (do checkArgs false ((← listField? req "args").getD [])).toAnswer
  if let some failure := startFailure? args then throw (.panic failure)
  let out := Probe.run Build.standard args
  match out.ending with
  | .exit status => pure (.obj [("stdout", .str out.stdout), ("exit", Value.nat status)])
  | _ => throw (.badInput "args: the command runs in real time")

end PlatformLayer.Session
