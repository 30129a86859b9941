import PlatformLayer.Session.Read
import PlatformLayer.Terminal
/-!
# Requests on the terminal service

A terminal request serves its steps in order over a backend that records every call and fails
each with the scripted error, if one is given, and answers the calls each step made.
-/
namespace PlatformLayer.Session

def termRecorder (err : Option String) : TermBackend (StateM (List TermCall)) String :=
  let record (c : TermCall) : StateM (List TermCall) (Except String Unit) := do
    modify (· ++ [c])
    pure (match err with | some e => .error e | none => .ok ())
  ⟨fun on => record (.setEcho on), fun on => record (.setLineMode on), record .reboot⟩

def termCallValue : TermCall → Value
  | .setEcho on => .obj [("m", .str "SetEcho"), ("on", .bool on)]
  | .setLineMode on => .obj [("m", .str "SetLineMode"), ("on", .bool on)]
  | .reboot => .obj [("m", .str "Reboot")]

def readTermRequest : Value → Read TermRequest
  | .str "echo_off" => pure .echoOff
  | .str "echo_on" => pure .echoOn
  | .str "keypress_set" => pure .keypressSet
  | .str "keypress_reset" => pure .keypressReset
  | .str "reboot" => pure .reboot
  | _ => refuse "term" "unknown step"

def termRequest (req : Value) : Read Value := do
  let err ← providerError req "p_err"
  let f ← featuresField req
  let steps ← (← stepList req).mapM readTermRequest
  let b := termRecorder err
  let calls := steps.map fun r => ((r.serve b f).run []).2
  pure (stepsAnswer (calls.map fun cs => .arr (cs.map termCallValue)))

end PlatformLayer.Session
