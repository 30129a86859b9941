import PlatformLayer.Probe.Pages
/-!
# The probe's commands

The probe's global flags and commands, as its help pages show them: the device command is a
group with read and write under it, and both the application and the group answer `help` (or
`h`).
-/
namespace PlatformLayer.Probe

inductive Action where
  | platform
  | sleep
  | udpSelftest
  | udpEcho
  | device
  | deviceRead
  | deviceWrite
  | echo
  | help
  deriving DecidableEq, Repr

def helpFlag : FlagSpec := ⟨["help", "h"], .bool, "show help", ""⟩

def logFlag : FlagSpec := ⟨["log"], .text, "log file path", "/dev/stdout"⟩

def logLevelFlag : FlagSpec :=
  ⟨["log-level"], .text, "log categories to include (debug, info, warning, error, fatal)", "info"⟩

def termFdFlag : FlagSpec :=
  ⟨["term-fd"], .int, "terminal descriptor for echo control (default: stdin)", "-1"⟩

def memDeviceFlag : FlagSpec :=
  ⟨["mem-device"], .text, "physical memory device (default: platform specific)", ""⟩

def profileFlag : FlagSpec := ⟨["profile"], .text, "write a cpu profile to the given directory", ""⟩

def msFlag : FlagSpec := ⟨["ms"], .uint, "milliseconds to sleep", "100"⟩

def portFlag : FlagSpec := ⟨["port"], .uint, "udp port to listen on", "7007"⟩

def nameFlag : FlagSpec := ⟨["name"], .text, "device to open", ""⟩

def sizeFlag : FlagSpec := ⟨["size"], .int, "maximum bytes to read", "256"⟩

def logLevels : List String := ["debug", "info", "warning", "error", "fatal"]

def programName : String := "osal-probe"

def programUsage : String :=
  "osal-probe\n\nosal-probe exercises the platform abstraction layer of the running build:\n" ++
    "time, sockets, devices and terminal control.\n"

def command (name usage argsUsage : String) (flags : List FlagSpec) (a : Action) :
    Command Action :=
  ⟨name, [], usage, argsUsage, "", flags, a⟩

def helpCommand : Command Action :=
  ⟨"help", ["h"], "Shows a list of commands or help for one command", "[command]", "", [], .help⟩

def subcommands : Action → List (Command Action)
  | .device =>
    [command "read" "Read once from the device" "" [sizeFlag] .deviceRead,
     command "write" "Write the argument to the device" "<data>" [] .deviceWrite]
  | _ => []

def commands : List (Command Action) :=
  [command "platform" "Show the platform and capability groups of this build" "" [] .platform,
   command "sleep" "Sleep and report the elapsed time measured by the layer" "" [msFlag] .sleep,
   command "udp-selftest" "Send a datagram to ourselves over loopback" "" [] .udpSelftest,
   command "udp-echo" "Run a UDP echo service until interrupted" "" [portFlag] .udpEcho,
   command "device" "Raw device access" "" [nameFlag] .device,
   command "echo" "Switch terminal echo" "off|on" [] .echo]

def nameCommands (helpName : String) (cs : List (Command Action)) : List (Command Action) :=
  cs.map fun c => if c.helpName.isEmpty then { c with helpName := helpName ++ " " ++ c.name } else c

def withFlag (flags : List FlagSpec) (f : FlagSpec) : List FlagSpec :=
  if flags.contains f then flags else flags ++ [f]

/-- The probe as an application, set up to run: its commands named, then the help command and
the help flag added. -/
def probeApp : App Action :=
  let named := nameCommands programName commands
  let all := if named.any (·.hasName "help") then named else named ++ [helpCommand]
  { name := programName
    helpName := programName
    usage := programUsage
    argsUsage := ""
    flags := withFlag [logFlag, logLevelFlag, termFdFlag, memDeviceFlag, profileFlag] helpFlag
    commands := all
    listed := all }

/-- A command group as an application of its own under `parent`: named after both, with the
group's flags, and its subcommands followed by the help command, which is found but not
listed. A group with a page name takes its full name as page name, and one without keeps the
empty one. -/
def groupApp (parent : App Action) (c : Command Action) : App Action :=
  let name := parent.name ++ " " ++ c.name
  let helpName := if c.helpName.isEmpty then "" else name
  let subs := subcommands c.action
  let withHelp := !subs.isEmpty && !subs.any (·.hasName "help")
  { name := name
    helpName := helpName
    usage := c.usage
    argsUsage := c.argsUsage
    flags := if withHelp then withFlag c.flags helpFlag else c.flags
    commands := nameCommands helpName (if withHelp then subs ++ [helpCommand] else subs)
    listed := subs }

end PlatformLayer.Probe
