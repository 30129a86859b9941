import PlatformLayer.Session.Memory
import PlatformLayer.Session.Net
import PlatformLayer.Session.DeviceFiles
/-!
# Requests on the whole layer

A layer request builds every service of a build at once and tries each: the platform and its
groups, a mapping through a memory device when one is configured, a copy, opening `/dev/null`,
starting the sockets, and the terminal requests on `/dev/null` when asked for, which fail
without a word.
-/
namespace PlatformLayer.Session

def layerMapFields (path : String) (phys : Nat) (size : Int) : List (String × Value) :=
  let m := Mapper.start (.deviceFile path none 4096)
  let ((r, virt), _) := MemMapService.map m phys size (some Address.zero)
  let zero := (virt.map Address.isZero).getD false
  let errors := match r with
    | .ok () => []
    | .error fault => faultFields (fault.mapCause MapError.message)
  ("virt_zero", .bool zero) :: errors

def defaultMemDevice : String := "/dev/mem"

/-- The answer to a layer request under a build. The memory device is read and checked first,
then the terminal switch, then whether the default layer is asked for. -/
def layerRequest (b : Build) (req : Value) : Read Value := do
  let memDevice ← stringField req "mem_device" ""
  if !memDevice.isEmpty ∧ !memDevice.startsWith "/nonexistent/" then
    refuse "mem_device" "only paths under /nonexistent/"
  let termOnNull ← boolField req "term_devnull" false
  let useDefault ← boolField req "default" false
  let f := b.features
  let provider : CopyProvider String := if b.copiesThroughProcess then .ownProcess else .plain
  let (copied, _) :=
    CopyService.copy provider .fromUser (some (List.replicate 4 0)) (some (utf8 "copy")) 4
  let device : Value :=
    match (DeviceService.openPath HostFiles.backend f "/dev/null").run HostTable.initial with
    | (.ok _, _) => .obj [("opened", .bool true)]
    | (.error fault, _) =>
      .obj (("opened", .bool false) :: faultFields (fault.mapCause Errno.text))
  let socketInit : Value :=
    match (SocketService.init HostNet.backend f).run HostTable.initial with
    | (.ok (), _) => .obj []
    | (.error fault, _) => .obj (faultFields (fault.mapCause Errno.text))
  -- the default layer maps through its own memory device, which the host does not have
  let mapping : List (String × Value) ←
    if memDevice.isEmpty then pure []
    else do
      let phys ← intField req "phys" .u64 0
      let size ← intField req "size" .i64 16
      let path := if useDefault then defaultMemDevice else memDevice
      pure [("map", .obj (layerMapFields path phys.toNat size))]
  let term : List (String × Value) := if termOnNull then [("term", .str "called")] else []
  pure (.obj ([("platform", .str b.platform.name), ("features", .str f.render)] ++ mapping ++
    [("copy", bytesValue copied), ("device", device), ("socket_init", socketInit)] ++ term ++
    [("process_supported", .bool true)]))

end PlatformLayer.Session
