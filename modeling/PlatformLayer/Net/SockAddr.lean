import PlatformLayer.Net.Address.Parse
/-!
# Socket addresses

An IPv4 socket address is an address and a port; an IPv6 one adds a numeric zone, 0 for none.
The conversions from an address with port take the mapped block back to IPv4, or IPv4 into it,
and refuse the invalid address.
-/
namespace PlatformLayer.Net

structure SockAddr where
  addr : Ip4
  port : UInt16
  deriving DecidableEq, Repr

/-- An IPv6 socket address; zone 0 is no zone. -/
structure SockAddr6 where
  addr : Ip6
  port : UInt16
  zone : UInt32
  deriving DecidableEq, Repr

def Ip4.zero : Ip4 := Ip4.ofList []

namespace SockAddr

def zero : SockAddr := ⟨Ip4.zero, 0⟩

instance : Inhabited SockAddr := ⟨zero⟩

def toAddrPort (sa : SockAddr) : AddrPort := ⟨.v4 sa.addr, sa.port⟩

def render (sa : SockAddr) : String := sa.toAddrPort.render

def ofAddrPort? (ap : AddrPort) : Option SockAddr :=
  match ap.addr.unmap with
  | .v4 a => some ⟨a, ap.port⟩
  | _ => none

end SockAddr

/-- A zone as a number: empty is 0, and otherwise decimal digits only, below 2^32. -/
def zoneNumber? (zone : String) : Option UInt32 :=
  if zone.isEmpty then some 0
  else if zone.all Char.isDigit then
    let n := zone.foldl (fun n c => n * 10 + decimalValue c) 0
    if n < 4294967296 then some n.toUInt32 else none
  else none

namespace SockAddr6

def zero : SockAddr6 := ⟨Ip6.unspecified, 0, 0⟩

instance : Inhabited SockAddr6 := ⟨zero⟩

def toAddrPort (sa : SockAddr6) : AddrPort :=
  ⟨.v6 sa.addr (if sa.zone = 0 then "" else toString sa.zone.toNat), sa.port⟩

def render (sa : SockAddr6) : String := sa.toAddrPort.render

/-- The IPv6 socket address of an address with port: none for the invalid address; IPv4 goes
into the mapped block, and the zone is a number or else the name of a network interface, looked
up in `interfaces`. -/
def ofAddrPort? (interfaces : String → Option UInt32) (ap : AddrPort) : Option SockAddr6 :=
  if !ap.addr.isValid then none
  else
    let zone := ap.addr.zone
    ((zoneNumber? zone).orElse fun _ => interfaces zone).map fun z => ⟨ap.addr.as16, ap.port, z⟩

end SockAddr6

end PlatformLayer.Net
