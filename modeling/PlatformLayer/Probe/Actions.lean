import PlatformLayer.Host.Network
import PlatformLayer.Host.Devices
import PlatformLayer.Socket.Service
import PlatformLayer.Text.Quoted
/-!
# What the probe's commands do on the host

Each command runs the layer's services on a fresh host and gives the text it prints, or the
message of the error that stopped it: reading or writing a device once, and sending a datagram to
itself over loopback.
-/
namespace PlatformLayer.Probe

open Net

abbrev NetRun := ExceptT String (StateM HostNet)

abbrev FileRun := ExceptT String (StateM HostFiles)

def utf8Bytes (s : String) : Bytes := s.toUTF8.toList

def serviceCall {σ α : Type} (act : StateM σ (Except (Fault Errno) α)) :
    ExceptT String (StateM σ) α :=
  ExceptT.mk do
    match ← act with
    | .ok a => pure (.ok a)
    | .error fault => pure (.error (fault.message Errno.text))

def outputAddress {σ α : Type} (r : Except (Fault Errno) Unit) (addr : α) :
    ExceptT String (StateM σ) α :=
  match r with
  | .ok () => pure addr
  | .error fault => throw (fault.message Errno.text)

def loopbackAddress : Except String SockAddr :=
  match aton "127.0.0.1" (some SockAddr.zero) with
  | .ok a => .ok a
  | .error fault => .error (fault.message AddrError.message)

def boundDatagram (f : Features) (addr : SockAddr) : NetRun (Int × SockAddr) := do
  let b := HostNet.backend
  serviceCall (SocketService.init b f)
  let fd ← serviceCall (SocketService.create b f 1)
  serviceCall (SocketService.bind b f fd (some addr))
  let (r, here) ← (SocketService.localAddr b f fd (some addr) : StateM HostNet _)
  let here ← outputAddress r (here.getD addr)
  pure (fd, here)

def udpSelftest (f : Features) (payload : Bytes) : NetRun Unit := do
  let b := HostNet.backend
  let addr ← match loopbackAddress with
    | .ok a => pure a
    | .error e => throw e
  let (fd, here) ← boundDatagram f addr
  let _ ← serviceCall (SocketService.sendTo b f fd payload (some here))
  let watched : SelectSets := ⟨some (DescriptorSet.empty.insert fd), none, none⟩
  let (n, _) ← (SocketService.select b f (fd + 1) watched 1000 : StateM HostNet _)
  if n ≠ 1 then throw ("datagram not received (select returned " ++ toString n ++ ")")
  let (r, source) ←
    (SocketService.recvFrom b f fd (payload.length + 16) (some SockAddr.zero) : StateM HostNet _)
  let (got, buf) ← match r with
    | .ok v => pure v
    | .error fault => throw (fault.message Errno.text)
  let data := buf.take got.toNat
  if got ≠ payload.length ∨ data ≠ payload then
    throw ("received " ++ Quoted.quoteBytes data ++ " from " ++ ntoa source ++ "; sent " ++
      Quoted.quoteBytes payload)

def udpSelftestText (f : Features) : Except String String :=
  match ((udpSelftest f (utf8Bytes "0123456789")).run.run HostTable.initial).1 with
  | .ok () => .ok "udp selftest passed\n"
  | .error e => .error e

def udpEchoStart (f : Features) (port : Nat) : Option String :=
  match ((boundDatagram f ⟨Ip4.zero, UInt16.ofNat port⟩).run.run HostTable.initial).1 with
  | .ok _ => none
  | .error e => some e

def onDevice {α : Type} (f : Features) (name : String)
    (act : Int → StateM HostFiles (Except (Fault Errno) α)) : FileRun α := do
  let b := HostFiles.backend
  let fd ← serviceCall (DeviceService.openPath b f name)
  let r ← (act fd : StateM HostFiles _)
  let _ ← (DeviceService.close b f fd : StateM HostFiles _)
  serviceCall (pure r)

/-- The memory of the host: 32 GiB (`32 * 2^30` bytes), with no swap. -/
def hostMemory : Int := 34359738368

/-- The size from which the probe cannot make a buffer: the host commits no more memory in one
piece than it has. -/
def bufferLimit : Int := hostMemory

/-- What reading a device once prints: `<n> bytes: <quoted bytes>`. -/
def deviceReadText (f : Features) (name : String) (size : Int) : Except String String :=
  if size ≤ 0 then .error ("invalid read size " ++ toString size)
  else
    let run := onDevice f name fun fd => DeviceService.read HostFiles.backend f fd (some size.toNat)
    match (run.run.run HostTable.initial).1 with
    | .ok (n, bs) => .ok (toString n ++ " bytes: " ++ Quoted.quoteBytes (bs.take n.toNat) ++ "\n")
    | .error e => .error e

def deviceWriteText (f : Features) (name data : String) : Except String String :=
  let run := onDevice f name fun fd =>
    DeviceService.write HostFiles.backend f fd (some (utf8Bytes data))
  match (run.run.run HostTable.initial).1 with
  | .ok n => .ok (toString n ++ " bytes written\n")
  | .error e => .error e

end PlatformLayer.Probe
