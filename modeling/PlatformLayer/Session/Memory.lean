import PlatformLayer.Session.Platform
import PlatformLayer.Memory.Copy
import PlatformLayer.Memory.Mapping
/-!
# Requests on copies, process memory and mappings

A copy request runs the copy service over a provider and answers the result and the whole
destination after. A process copy moves bytes within the calling process. A process memory
request reads or writes an area of memory through the kernel and answers the count, the local
buffer and the area after. A mapping request runs map and unmap steps against one source and
answers the pointers after each step.
-/
namespace PlatformLayer.Session

def intField? (o : Value) (key : String) (w : Width) : Read (Option Int) :=
  match field? o key with
  | some v => do pure (some (← readInt key w v))
  | none => pure none

def copyDirectionField (op : String) (req : Value) : Read CopyDirection := do
  match ← stringField req "dir" "from" with
  | "from" => pure .fromUser
  | "to" => pure .toUser
  | _ => refuse op "unknown dir"

/-- `{"ret", "to"}` of a copy through the copy service. The default provider is the build's;
the scripted provider's count and error are read, in that order, only when the copy reaches
it. -/
def copyRequest (b : Build) (req : Value) : Read Value := do
  let name ← stringField req "provider" "default"
  if !(["default", "process", "script"].contains name) then refuse "copy" "unknown provider"
  let dst ← bytesField req "to"
  let src ← bytesField req "from"
  let size ← intField req "size" .i64 0
  let dir ← copyDirectionField "copy" req
  let provider : CopyProvider String ←
    match name with
    | "process" => pure .ownProcess
    | "script" =>
      if CopyService.sizeOk dst src size then do
        let count ← intField? req "p_n" .i64
        pure (.scripted count (← providerError req "p_err"))
      else pure (.scripted none none)
    | _ => pure (if b.copiesThroughProcess then .ownProcess else .plain)
  let (result, after) := CopyService.copy provider dir dst src size
  pure (.obj [("ret", bytesValue result), ("to", bytesValue after)])

def processCopyRequest (req : Value) : Read Value := do
  let dst ← bytesField req "to"
  let src ← bytesField req "from"
  let _ ← copyDirectionField "process" req
  let (after, n) := copyWithin (dst.getD []) (src.getD [])
  pure (.obj [("ret", Value.nat n), ("to", bytesValue (dst.map fun _ => after))])

def errorFields (message : String) : List (String × Value) :=
  [("error", .str "error"), ("message", .str message)]

def processMemRequest (req : Value) : Read Value := do
  let target ←
    match ← stringField req "pid" "self" with
    | "self" => pure Target.own
    | "absent" => pure (Target.gone 4194305)
    | _ => refuse "pid" "only \"self\" or \"absent\""
  let init := (← bytesField req "remote_init").getD []
  -- the edge and unmapped areas are laid out in a page, which the initial bytes must fit
  let page : Read Unit :=
    if init.length > 4096 then refuse "remote_init" "longer than a page" else pure ()
  let area ←
    match ← stringField req "remote" "buffer" with
    | "buffer" => pure (RemoteArea.buffer (if init.isEmpty then [0] else init))
    | "edge" => do page; pure (RemoteArea.edge init)
    | "unmapped" => do page; pure RemoteArea.unmapped
    | _ => refuse "process_mem" "unknown remote"
  let dir ←
    match ← stringField req "dir" "read" with
    | "read" => pure Direction.read
    | "write" => pure Direction.write
    | _ => refuse "process_mem" "unknown dir"
  let size ← match dir with
    | .read => bufferField req "size"
    | .write => pure none
  let data ← match dir with
    | .read => pure none
    | .write => bytesField req "data"
  let room := area.reachable.length
  let fits : Bool :=
    match area, dir with
    | .buffer _, .read => decide (size.getD 0 ≤ room)
    | .buffer _, .write => decide ((data.getD []).length ≤ room)
    | _, _ => true
  if !fits then
    match dir with
    | .read => refuse "size" "larger than the remote buffer"
    | .write => refuse "data" "larger than the remote buffer"
  let fields (o : TransferOutcome) (n : Nat) : List (String × Value) :=
    [("ret", Value.int o.count)] ++ ((o.message? dir target n).map errorFields).getD []
  match dir with
  | .read =>
    match size with
    | none =>
      pure (.obj [("ret", Value.int 0), ("local", .null), ("remote", bytesValue area.contents?)])
    | some n =>
      let (o, here) := readMemory target area n
      pure (.obj (fields o n ++ [("local", bytesValue (some here)),
        ("remote", bytesValue area.contents?)]))
  | .write =>
    let bs := data.getD []
    let (o, area') := writeMemory target area bs
    pure (.obj (fields o bs.length ++ [("remote", bytesValue area'.contents?)]))

/-- An out-pointer field: `null` is no pointer, `"last"` the address of the last mapping made,
and a number that address. -/
def addressField (o : Value) (key : String) (last : Address) : Read (Option Address) :=
  match field? o key with
  | none => pure none
  | some (.str "last") => pure (some last)
  | some v => do pure (some (.num (← readInt key .u64 v).toNat))

/-- An address in an answer: decimal, `"mapped"` for a place the kernel chose, `null` for no
pointer. -/
def addressValue : Option Address → Value
  | some (.num n) => .str (toString n)
  | some (.mapped _ _) => .str "mapped"
  | none => .null

inductive MapStep where
  | map (phys : Nat) (size : Int) (virt : Option Address)
  | unmap (phys : Option Address) (size : Int) (virt : Option Address)

def MapStep.decode (last : Address) (v : Value) : Read MapStep := do
  match ← stringField v "do" "" with
  | "map" =>
    let phys ← intField v "phys" .u64 0
    let size ← intField v "size" .i64 0
    let virt ← addressField v "virt" last
    let _ ← stringField v "name" ""
    pure (.map phys.toNat size virt)
  | "unmap" =>
    let phys ← addressField v "phys" last
    let virt ← addressField v "virt" last
    pure (.unmap phys (← intField v "size" .i64 0) virt)
  | _ => refuse "memmap" "unknown step"

def memDevicePath : String := "<dir>/mem"

def runMapSteps (device : Bool) : List Value → Mapper → Address → Read (List Value)
  | [], _, _ => pure []
  | v :: rest, m, last => do
    match ← MapStep.decode last v with
    | .map phys size virt =>
      let ((r, virt'), m') := MemMapService.map m phys size virt
      let countAfter : List (String × Value) :=
        if device then [("mappings", Value.nat m'.mappings)] else []
      match r, virt' with
      | .ok (), some a =>
        let window := match m'.window? a with
          | some bs => [("window", bytesValue (some bs))]
          | none => []
        let last' := if device then a else last
        pure (.obj ([("virt", addressValue virt')] ++ window ++ countAfter) ::
          (← runMapSteps device rest m' last'))
      | .error fault, _ =>
        pure (.obj ([("virt", addressValue virt')] ++ countAfter ++
          faultFields (fault.mapCause MapError.message)) :: (← runMapSteps device rest m' last))
      | .ok (), none => pure (.obj [("virt", .null)] :: (← runMapSteps device rest m' last))
    | .unmap phys _ virt =>
      let ((phys', virt'), m') := MemMapService.unmap m phys virt
      let countAfter : List (String × Value) :=
        if device then [("mappings", Value.nat m'.mappings)] else []
      pure (.obj ([("phys", addressValue phys'), ("virt", addressValue virt')] ++ countAfter) ::
        (← runMapSteps device rest m' last))

def memMapRequest (req : Value) : Read Value := do
  let device ←
    match ← stringField req "provider" "identity" with
    | "identity" => pure false
    | "devmem" => pure true
    | _ => refuse "memmap" "unknown provider"
  let source ←
    if device then do pure (MapSource.deviceFile memDevicePath (← bytesField req "file") 4096)
    else pure .identity
  pure (stepsAnswer (← runMapSteps device (← stepsField req) (Mapper.start source) Address.zero))

end PlatformLayer.Session
