import PlatformLayer.Session.Platform
import PlatformLayer.Device.Emulation
import PlatformLayer.Device.Service
/-!
# Requests on the device service over the memory device service

Each step is a call of the device service, a call straight to the memory device service, or a
change of its drivers and nodes. Calls answer with `ret`, read data as `data` (only when there
was a buffer and the read worked), output sets as `out` or `ready`, the scratch set as `set`,
the sleeps of the step as `slept`, and the error fields on failure. An unregistration that
finds a node without its parent stops the whole request.
-/
namespace PlatformLayer.Session

structure DeviceBench where
  emu : Emulation FileTree
  naps : List Nat

abbrev BenchM := StateM DeviceBench

def onEmulation {α : Type} (act : Emulation.Step FileTree α) : BenchM α :=
  modifyGet fun b => let (a, e) := act b.emu; (a, { b with emu := e })

def emulationBackend : DeviceBackend BenchM DeviceError where
  openPath name := onEmulation (Emulation.openDevice FileTree.store name)
  close fd := onEmulation (Emulation.close fd)
  read fd n := do pure ((← onEmulation (Emulation.read fd n)).map fun (k, bs) => ((k : Int), bs))
  write fd bs := do pure ((← onEmulation (Emulation.write fd bs)).map fun k => (k : Int))
  control fd cmd _ := do pure ((← onEmulation (Emulation.control fd cmd)).map fun k => (k : Int))
  select maxFd watch ready _ := do
    let b ← get
    let (r, marked) := b.emu.select maxFd watch ready
    pure (r.map fun k => (k : Int), marked)

def nap (ms : Nat) : BenchM Unit := modify fun b => { b with naps := b.naps ++ [ms] }

inductive DeviceStep where
  | openPath (name : String) (times : Nat)
  | close (fd : Int)
  | write (fd : Int) (data : Option Bytes)
  | read (fd : Int) (size : Option Nat)
  | control (fd : Int) (cmd arg : Nat)
  | select (maxFd : Int) (readIn readOut : Option DescriptorSet) (timeoutMs : Nat)
  | fdSet (fd : Int) (noSet : Bool)
  | fdIsSet (fd : Int) (noSet : Bool)
  | fdZero (noSet : Bool)
  | rawOpen (name : String)
  | rawClose (fd : Int)
  | rawWrite (fd : Int) (data : Option Bytes)
  | rawRead (fd : Int) (size : Option Nat)
  | rawControl (fd : Int) (cmd : Nat)
  | rawSelect (maxFd : Int) (watch ready : DescriptorSet)
  | register (d : Driver)
  | unregister (d : Driver)
  | makeNode (path : String)
  | nodes
  | serviceType
  deriving Repr

/-- Read a driver from the fields of an object: its name, path and switch first, then the kind,
which is echo unless given. -/
def readDriver (v : Value) : Read Driver := do
  let name ← stringField v "name" ""
  let path ← stringField v "path" ""
  let enabled ← boolField v "enabled" true
  let k ← match ← stringField v "kind" "echo" with
    | "echo" => pure DriverKind.echo
    | "null" => pure DriverKind.null
    | _ => refuse "driver" "unknown kind"
  pure (.ofKind k name path enabled)

/-- A step whose name ends in "select", known or not, and that gives a set to watch, may not
wait longer than `longestWait`; the set is not read for this. -/
def checkWait (v : Value) (step : String) (t : Int) : Read Unit :=
  match field? v "in" with
  | none | some .null => pure ()
  | some _ => if step.endsWith "select" then discard (limitWait t) else pure ()

/-- Read a step of a device request. Every step gives its descriptor, `nil` flag, name and
timeout first, and a select that watches a set is held to `longestWait`; then the step's own
fields follow, with the buffers and sets a call fills prepared before the rest. An open that is
made no times does not read its name. -/
def DeviceStep.decode (v : Value) : Read DeviceStep := do
  let fd ← intField v "fd" .i64 0
  let noSet ← boolField v "nil" false
  let step ← stringField v "do" ""
  let t ← intField v "timeout" .u32 0
  checkWait v step t
  match step with
  | "open" =>
    let times ← intField v "repeat" .i64 1
    if times ≤ 0 then pure (.openPath "" 0)
    else pure (.openPath (← stringField v "name" "") times.toNat)
  | "close" => pure (.close fd)
  | "write" => pure (.write fd (← bytesField v "data"))
  | "read" => pure (.read fd (← bufferField v "size"))
  | "control" =>
    let cmd ← natField v "cmd" .u64 0
    pure (.control fd cmd (← natField v "arg" .u64 0))
  | "select" =>
    let readIn ← setField v "in"
    let readOut ← setField v "out"
    pure (.select (← intField v "max" .i64 0) readIn readOut t.toNat)
  | "fd_set" => pure (.fdSet fd noSet)
  | "fd_isset" => pure (.fdIsSet fd noSet)
  | "fd_zero" => pure (.fdZero noSet)
  | "raw_open" => pure (.rawOpen (← stringField v "name" ""))
  | "raw_close" => pure (.rawClose fd)
  | "raw_write" => pure (.rawWrite fd (← bytesField v "data"))
  | "raw_read" => pure (.rawRead fd (← bufferField v "size"))
  | "raw_ioctl" =>
    let cmd ← natField v "cmd" .u64 0
    let _ ← natField v "arg" .u64 0
    pure (.rawControl fd cmd)
  | "raw_select" =>
    let watch ← setField v "in"
    let ready ← setField v "ready"
    match watch, ready with
    | some watch, some ready => pure (.rawSelect (← intField v "max" .i64 0) watch ready)
    | _, _ => refuse "raw_select" "needs in and ready sets"
  | "register" => pure (.register (← readDriver v))
  | "unregister" => pure (.unregister (← readDriver v))
  | "mknode" => pure (.makeNode (← stringField v "path" ""))
  | "nodes" => pure .nodes
  | "service_type" => pure .serviceType
  | _ => refuse "device" "unknown step"

def deviceFaultFields : Fault DeviceError → List (String × Value)
  | fault => [("error", .str fault.kind.name), ("message", .str (fault.message DeviceError.message))]

def deviceErrorFields (e : DeviceError) : List (String × Value) :=
  [("error", .str ErrorKind.plain.name), ("message", .str e.message)]

def serviceCountFields : DeviceService.Result DeviceError Int → List (String × Value)
  | .ok n => [("ret", .int n)]
  | .error fault => ("ret", .int (-1)) :: deviceFaultFields fault

def serviceUnitFields : DeviceService.Result DeviceError Unit → List (String × Value)
  | .ok () => []
  | .error fault => deviceFaultFields fault

def rawCountFields : Except DeviceError Nat → List (String × Value)
  | .ok n => [("ret", .nat n)]
  | .error e => ("ret", .int (-1)) :: deviceErrorFields e

def rawUnitFields : Except DeviceError Unit → List (String × Value)
  | .ok () => []
  | .error e => deviceErrorFields e

/-- Open `times` times, keeping the last outcome; no times at all is 0. -/
def openRepeatedly (f : Features) (name : String) : Nat → BenchM (DeviceService.Result DeviceError Int)
  | 0 => pure (.ok 0)
  | 1 => DeviceService.openPath emulationBackend f name
  | k + 1 => do
    let _ ← DeviceService.openPath emulationBackend f name
    openRepeatedly f name k

def runDeviceStep (f : Features) (scratch : DescriptorSet) :
    DeviceStep → BenchM (Except String (List (String × Value) × DescriptorSet))
  | .openPath name times => do
    pure (.ok (serviceCountFields (← openRepeatedly f name times), scratch))
  | .close fd => do pure (.ok (serviceUnitFields (← DeviceService.close emulationBackend f fd), scratch))
  | .write fd data => do
    pure (.ok (serviceCountFields (← DeviceService.write emulationBackend f fd data), scratch))
  | .read fd size => do
    let fields := match ← DeviceService.read emulationBackend f fd size with
      | .ok (n, buf) => [("ret", .int n), ("data", bytesValue (some (buf.take n.toNat)))]
      | .error fault => ("ret", .int (-1)) :: deviceFaultFields fault
    pure (.ok (fields, scratch))
  | .control fd cmd arg => do
    pure (.ok (serviceCountFields (← DeviceService.control emulationBackend f fd cmd arg), scratch))
  | .select maxFd readIn readOut t => do
    let before := (← get).naps.length
    let (r, out) ← DeviceService.select emulationBackend f nap maxFd readIn readOut t
    let naps := (← get).naps.drop before
    let slept := if naps.isEmpty then []
      else [("slept", .arr (naps.map fun ms => .obj [("ms", .nat ms)]))]
    pure (.ok (serviceCountFields r ++ [("out", setValue out)] ++ slept, scratch))
  | .fdSet fd noSet =>
    let s := if noSet then scratch else (DescriptorSet.insertValid (some scratch) fd).getD scratch
    pure (.ok ([("set", setValue (some s))], s))
  | .fdIsSet fd noSet =>
    let hit := if noSet then false else DescriptorSet.holds (some scratch) fd
    pure (.ok ([("ret", .bool hit), ("set", setValue (some scratch))], scratch))
  | .fdZero noSet =>
    let s := if noSet then scratch else DescriptorSet.empty
    pure (.ok ([("set", setValue (some s))], s))
  | .rawOpen name => do
    let fields := match ← onEmulation (Emulation.openDevice FileTree.store name) with
      | .ok fd => [("ret", .int fd)]
      | .error e => ("ret", .int (-1)) :: deviceErrorFields e
    pure (.ok (fields, scratch))
  | .rawClose fd => do pure (.ok (rawUnitFields (← onEmulation (Emulation.close fd)), scratch))
  | .rawWrite fd data => do
    pure (.ok (rawCountFields (← onEmulation (Emulation.write fd (data.getD []))), scratch))
  | .rawRead fd size => do
    let fields := match ← onEmulation (Emulation.read fd (size.getD 0)), size with
      | .ok (n, buf), some _ => [("ret", .nat n), ("data", bytesValue (some (buf.take n)))]
      | .ok (n, _), none => [("ret", .nat n)]
      | .error e, _ => ("ret", .int (-1)) :: deviceErrorFields e
    pure (.ok (fields, scratch))
  | .rawControl fd cmd => do
    pure (.ok (rawCountFields (← onEmulation (Emulation.control fd cmd)), scratch))
  | .rawSelect maxFd watch ready => do
    let (r, marked) := (← get).emu.select maxFd watch ready
    pure (.ok (rawCountFields r ++ [("ready", setValue (some marked))], scratch))
  | .register d => do pure (.ok (rawUnitFields (← onEmulation (Emulation.register FileTree.store d)), scratch))
  | .unregister d => do
    let b ← get
    match Emulation.unregister FileTree.store d b.emu with
    | .error halt => pure (.error halt)
    | .ok (r, e) =>
      set { b with emu := e }
      pure (.ok (rawUnitFields r, scratch))
  | .makeNode path => do
    pure (.ok (rawUnitFields (← onEmulation (Emulation.makeServedNode FileTree.store path)), scratch))
  | .nodes => do pure (.ok ([("ret", .arr (((← get).emu.nodes FileTree.store).map .str))], scratch))
  | .serviceType => pure (.ok ([("ret", .nat 2)], scratch))

/-- Read and run the steps in order, each read just before it runs, stopping the request at
the first step that cannot be read or that halts the program. -/
def runDeviceSteps (f : Features) : List Value → DescriptorSet → DeviceBench →
    Except Refusal (List Value)
  | [], _, _ => pure []
  | v :: rest, scratch, bench => do
    let st ← (do DeviceStep.decode v).toAnswer
    match (runDeviceStep f scratch st).run bench with
    | (.error halt, _) => .error (.panic halt)
    | (.ok (fields, scratch'), bench') =>
      pure (.obj fields :: (← runDeviceSteps f rest scratch' bench'))

def deviceRequest (req : Value) : Answer := do
  let drivers ← (match field? req "drivers" with
    | some (.arr ds) => ds.mapM fun
      | d@(Value.obj _) => readDriver d
      | _ => refuse "drivers" "not an object"
    | some _ => refuse "drivers" "not a list"
    | none => pure Driver.defaults).toAnswer
  let f ← (featuresField req).toAnswer
  let steps ← (stepsField req).toAnswer
  let answers ← runDeviceSteps f steps DescriptorSet.empty ⟨Emulation.withDrivers FileTree.store FileTree.empty drivers, []⟩
  pure (stepsAnswer answers)

/-- Which input/output service a type number builds: 1 the device files, 2 the memory devices;
any other number stops the program. -/
def ioServiceRequest (req : Value) : Answer := do
  let t ← (intField req "type" .i64 0).toAnswer
  if t = 1 ∨ t = 2 then pure (.obj [("service_type", .int t)])
  else .error (.panic ("Unsupported ioService required: " ++ toString t))

end PlatformLayer.Session
