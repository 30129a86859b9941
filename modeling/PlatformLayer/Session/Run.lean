import PlatformLayer.Session.Platform
import PlatformLayer.Session.Sets
import PlatformLayer.Session.Address
import PlatformLayer.Session.Socket
import PlatformLayer.Session.Device
import PlatformLayer.Session.Memory
import PlatformLayer.Session.Time
import PlatformLayer.Session.Terminal
import PlatformLayer.Session.Layer
import PlatformLayer.Session.Cli
import PlatformLayer.Session.Json
/-!
# Answering a request line

A request names its operation in `"op"`; `answerIn` picks the request kind and gives the answer
value for a build, or the refusal line when the request cannot be run. `answer` serves the
standard build, and a variant request hands its inner request to another build; `respond` reads
a line of JSON text and writes its answer as one.
-/
namespace PlatformLayer.Session

def tagListMessage : Build.TagListError → String
  | .unknownTag => "tags: unknown tag"
  | .notBuilt => "tags: variant not built"

def unknownOp : Refusal := .badInput "unknown op"

/-- The answer to one request under a build, or why there is none. A variant request runs its
inner request under the build its tags name, which may itself be a variant request; `depth`
bounds how deeply they nest. -/
def answerIn : Nat → Build → Value → Answer
  | depth, b, req =>
    match req.get? "op" with
    | some (.str "platform") => (platformRequest req).toAnswer
    | some (.str "features") => (featuresRequest req).toAnswer
    | some (.str "socktype") => (socketTypeRequest req).toAnswer
    | some (.str "build") => pure (buildAnswer b)
    | some (.str "failure") => (failureRequest req).toAnswer
    | some (.str "fdset") => (setRequest req).toAnswer
    | some (.str "sockaddr") => (sockAddrRequest req).toAnswer
    | some (.str "sockaddr6") => (sockAddr6Request req).toAnswer
    | some (.str "addrport") => (addrPortRequest req).toAnswer
    | some (.str "aton") => (atonRequest req).toAnswer
    | some (.str "socket") => (socketRequest req).toAnswer
    | some (.str "device") => deviceRequest req
    | some (.str "ioservice") => ioServiceRequest req
    | some (.str "copy") => (copyRequest b req).toAnswer
    | some (.str "process_copy") => (processCopyRequest req).toAnswer
    | some (.str "process_mem") => (processMemRequest req).toAnswer
    | some (.str "memmap") => (memMapRequest req).toAnswer
    | some (.str "tick") => (tickRequest req).toAnswer
    | some (.str "timer") => (timerRequest req).toAnswer
    | some (.str "term") => (termRequest req).toAnswer
    | some (.str "net") => (netRequest b req).toAnswer
    | some (.str "devfile") => (deviceFileRequest b req).toAnswer
    | some (.str "layer") => (layerRequest b req).toAnswer
    | some (.str "cli") => cliRequest req
    | some (.str "variant") => do
      let tags ← (stringField req "tags" "").toAnswer
      let vb ← match Build.ofTagList tags with
        | .ok vb => pure vb
        | .error e => .error (.badInput (tagListMessage e))
      match field? req "request", depth with
      | some inner@(.obj _), d + 1 => pure (.obj [("answer", answerLine (answerIn d vb inner))])
      -- an absent request names no op
      | none, _ => pure (.obj [("answer", unknownOp.toValue)])
      | _, _ => .error (.badInput "request: not an object")
    | some (.str _) | some .null | none => .error unknownOp
    | some _ => .error (.badInput "op: not a string")

def answer (req : Value) : Value := answerLine (answerIn req.depth Build.standard req)

def invalidLine : Refusal := .badInput "invalid json"

/-- The answer line to a request line. A line that is not JSON text, or whose value is neither
an object nor null, is refused; null is a request without fields. -/
def respond (line : String) : String :=
  match Value.ofText? line with
  | .ok req@(.obj _) | .ok req@.null => (answer req).render
  | _ => invalidLine.toValue.render

end PlatformLayer.Session
