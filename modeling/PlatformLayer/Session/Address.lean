import PlatformLayer.Session.Platform
import PlatformLayer.Socket.Service
import PlatformLayer.Host.Network
/-!
# Requests on addresses

Socket addresses travel as `{"addr": [octets], "port": n}`, with `"zone": n` for IPv6. A
missing address is all zeros and a missing port or zone is 0. The requests print socket
addresses, read an address with port and convert it both ways, and read a dotted quad into a
socket address.
-/
namespace PlatformLayer.Session

open Net

def readOctets (what : String) (n : Nat) (v : Value) : Read (List UInt8) := do
  let xs ← match v with
    | .arr xs => pure xs
    | _ => refuse what ("need " ++ toString n ++ " bytes")
  if xs.length ≠ n then refuse what ("need " ++ toString n ++ " bytes")
  else xs.mapM fun x => do pure (← readInt what .u8 x).toNat.toUInt8

/-- The octets of an address field; absent is all zeros. -/
def octetsField (o : Value) (what : String) (n : Nat) : Read (List UInt8) :=
  match field? o "addr" with
  | some v => readOctets what n v
  | none => pure (List.replicate n 0)

def readSockAddrWith (name : String) (port : Value → Read UInt16) : Value → Read SockAddr
  | v@(.obj _) => do
    let p ← match field? v "port" with
      | some pv => port pv
      | none => pure 0
    pure ⟨Ip4.ofList (← octetsField v name 4), p⟩
  | _ => refuse name "not an address"

/-- Read an IPv6 socket address reported under `name`, with a reader for its port; the port
and zone are read before the address bytes. -/
def readSockAddr6With (name : String) (port : Value → Read UInt16) : Value → Read SockAddr6
  | v@(.obj _) => do
    let p ← match field? v "port" with
      | some pv => port pv
      | none => pure 0
    let zone ← natField v "zone" .u32 0
    pure ⟨Ip6.ofList (← octetsField v name 16), p, zone.toUInt32⟩
  | _ => refuse name "not an address"

def readPort (v : Value) : Read UInt16 := do
  pure (← readInt "port" .u16 v).toNat.toUInt16

def readSockAddr (name : String) : Value → Read SockAddr := readSockAddrWith name readPort

def readSockAddr6 (name : String) : Value → Read SockAddr6 := readSockAddr6With name readPort

def sockAddrField (o : Value) (key : String) : Read (Option SockAddr) :=
  match field? o key with
  | some v => do pure (some (← readSockAddr key v))
  | none => pure none

def sockAddr6Field (o : Value) (key : String) : Read (Option SockAddr6) :=
  match field? o key with
  | some v => do pure (some (← readSockAddr6 key v))
  | none => pure none

def octetsValue (bs : List UInt8) : Value := .arr (bs.map fun b => .nat b.toNat)

def sockAddrValueWith (port : UInt16 → Value) (sa : SockAddr) : Value :=
  .obj [("addr", octetsValue sa.addr.octets.toList), ("port", port sa.port)]

def sockAddr6ValueWith (port : UInt16 → Value) (sa : SockAddr6) : Value :=
  .obj [("addr", octetsValue sa.addr.octets.toList), ("port", port sa.port),
    ("zone", .nat sa.zone.toNat)]

def sockAddrValue : SockAddr → Value := sockAddrValueWith fun p => .nat p.toNat

def sockAddr6Value : SockAddr6 → Value := sockAddr6ValueWith fun p => .nat p.toNat

def sockAddrRequest (req : Value) : Read Value := do
  let sa ← readSockAddr "sockaddr" req
  pure (.obj [("string", .str sa.render), ("ntoa", .str (ntoa (some sa)))])

def sockAddr6Request (req : Value) : Read Value := do
  let sa ← readSockAddr6 "sockaddr6" req
  pure (.obj [("string", .str sa.render)])

def conversionValue {α : Type} (render : α → String) (encode : α → Value) (zero : α) :
    Option α → Value
  | some a => .obj [("ok", .bool true), ("sockaddr", encode a), ("string", .str (render a))]
  | none => .obj [("ok", .bool false), ("sockaddr", encode zero), ("string", .str (render zero))]

def addrPortRequest (req : Value) : Read Value := do
  let s ← stringField req "s" ""
  match parseAddrPort s with
  | none => pure (.obj [("parsed", .bool false)])
  | some ap =>
    pure (.obj [("parsed", .bool true),
      ("v4", conversionValue SockAddr.render sockAddrValue SockAddr.zero (SockAddr.ofAddrPort? ap)),
      ("v6", conversionValue SockAddr6.render sockAddr6Value SockAddr6.zero
        (SockAddr6.ofAddrPort? HostNet.interfaceIndex? ap))])

def atonFaultFields (fault : AtonFault) : List (String × Value) :=
  [("error", .str fault.kind.name), ("message", .str (fault.message AddrError.message))]

def atonFields (s : String) (addr : Option SockAddr) : List (String × Value) :=
  match aton s addr with
  | .ok sa => [("addr", sockAddrValue sa)]
  | .error fault => ("addr", Value.ofOption sockAddrValue addr) :: atonFaultFields fault

def atonRequest (req : Value) : Read Value := do
  let addr ← sockAddrField req "addr"
  pure (.obj (atonFields (← stringField req "s" "") addr))

end PlatformLayer.Session
