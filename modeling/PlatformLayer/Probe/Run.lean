import PlatformLayer.Probe.Commands
import PlatformLayer.Probe.Actions
import PlatformLayer.Platform
/-!
# Running the probe

A run reads the global flags, then the command and its flags, and ends with what it printed and
its exit status: 1 for a flag that does not read or a command that fails, 3 for help on an
unknown topic, and 2 for a device read whose buffer the host cannot hold.
-/
namespace PlatformLayer.Probe

/-- How a run ends: with an exit status, or by handing over to real time: sleeping for some
milliseconds and then reporting the time slept, or serving UDP echo on a port until
interrupted. -/
inductive Ending where
  | exit (status : Nat)
  | sleep (ms : Nat)
  | serve (port : Nat)
  deriving DecidableEq, Repr

structure Outcome where
  stdout : String
  ending : Ending
  deriving DecidableEq, Repr

/-- The flags a command runs with: the application's, those of the level it was found at, and
its own, with its arguments. -/
structure Context where
  global : FlagsRead
  parent : FlagsRead
  own : FlagsRead

def finish (out : String) (status : Nat) : Outcome := ⟨out, .exit status⟩

/-- The end of a command's work: its text, or a failure with status 1. -/
def ofText : Except String String → Outcome
  | .ok out => finish out 0
  | .error _ => finish "" 1

def perform (b : Build) (ctx : Context) : Action → Outcome
  | .platform =>
    finish ("platform: " ++ b.platform.name ++ "\nfeatures: " ++ b.features.render ++ "\n") 0
  | .sleep => ⟨"", .sleep (ctx.own.nat msFlag % 4294967296)⟩
  | .udpSelftest => ofText (udpSelftestText b.features)
  | .udpEcho =>
    let port := ctx.own.nat portFlag % 65536
    match udpEchoStart b.features port with
    | none => ⟨"", .serve port⟩
    | some _ => finish "" 1
  | .deviceRead =>
    let size := ctx.own.int sizeFlag
    -- a buffer the probe cannot make stops it as a crash does
    if size ≥ bufferLimit then finish "" 2
    else ofText (deviceReadText b.features (ctx.parent.text nameFlag) size)
  | .deviceWrite =>
    ofText (deviceWriteText b.features (ctx.parent.text nameFlag) (ctx.own.rest.headD ""))
  | .echo => if ["off", "on"].contains (ctx.own.rest.headD "") then finish "" 0 else finish "" 1
  | .device | .help => finish "" 0

/-- Help on the topic an application was asked for: its command's page, or status 3. -/
def topicOutcome (a : App Action) (topic : String) : Outcome :=
  match a.topicHelp topic with
  | .ok page => finish page 0
  | .error _ => finish "" 3

def helpOutcome (a : App Action) : List String → Outcome
  | [] => finish a.page 0
  | topic :: _ => topicOutcome a topic

def commandPage (a : App Action) (name : String) : String :=
  match a.topicHelp name with
  | .ok page => page
  | .error _ => ""

def runCommand (b : Build) (a : App Action) (global parent : FlagsRead) (c : Command Action)
    (args : List String) : Outcome :=
  let flags := withFlag c.flags helpFlag
  let (read, err) := readFlags flags (reorderArgs flags args)
  match err <|> twoFormsError flags read.given with
  | some e => finish ("Incorrect Usage: " ++ e ++ "\n\n" ++ commandPage a c.name) 1
  | none =>
    if read.isSet helpFlag then finish (commandPage a c.name) 0
    else
      match c.action with
      | .help => helpOutcome a read.rest
      | act => perform b ⟨global, parent, read⟩ act

def runGroup (b : Build) (top : App Action) (global : FlagsRead) (c : Command Action)
    (args : List String) : Outcome :=
  let a := groupApp top c
  let (read, err) := readFlags a.flags args
  match twoFormsError a.flags read.given, err with
  | some e, _ => finish (e ++ "\n\n" ++ a.groupPage) 1
  | none, some e => finish ("Incorrect Usage. " ++ e ++ "\n\n" ++ a.groupPage) 1
  | none, none =>
    if read.isSet helpFlag then finish a.groupPage 0
    else
      match read.rest with
      | [] => finish a.groupPage 0
      | name :: rest =>
        match a.command? name with
        | some sub => runCommand b a global read sub rest
        | none => topicOutcome a name

def run (b : Build) (args : List String) : Outcome :=
  let a := probeApp
  let (read, err) := readFlags a.flags args
  match twoFormsError a.flags read.given, err with
  | some e, _ => finish (e ++ "\n" ++ a.page) 1
  | none, some e => finish ("Incorrect Usage. " ++ e ++ "\n\n" ++ a.page) 1
  | none, none =>
    if read.isSet helpFlag then finish a.page 0
    else
      let level := read.text logLevelFlag
      if !level.isEmpty && !logLevels.contains level then finish "" 1
      else
        match read.rest with
        | [] => finish a.page 0
        | name :: rest =>
          match a.command? name with
          | some c =>
            if (subcommands c.action).isEmpty then runCommand b a read read c rest
            else runGroup b a read c rest
          | none => helpOutcome a (name :: rest)

end PlatformLayer.Probe
