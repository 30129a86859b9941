import PlatformLayer.Text.Hex
/-!
# IP addresses and their text

An IPv4 address prints as a dotted quad, an IPv6 address as lowercase hex groups with the first
longest run of zero groups as `::`, the mapped block as `::ffff:a.b.c.d`, and a zone as `%zone`.
The zero value is the invalid address, printed `invalid IP`.
-/
namespace PlatformLayer.Net

structure Ip4 where
  octets : Vector UInt8 4
  deriving DecidableEq, Repr

structure Ip6 where
  octets : Vector UInt8 16
  deriving DecidableEq, Repr

/-- An IP address: IPv4, IPv6 with a zone (`""` for none), or the invalid zero value. -/
inductive IpAddr where
  | v4 (a : Ip4)
  | v6 (a : Ip6) (zone : String)
  | invalid
  deriving DecidableEq, Repr

structure AddrPort where
  addr : IpAddr
  port : UInt16
  deriving DecidableEq, Repr

def bytesToVector (n : Nat) (bs : List UInt8) : Vector UInt8 n := Vector.ofFn fun i => bs.getD i.val 0

namespace Ip4

def ofList (bs : List UInt8) : Ip4 := ⟨bytesToVector 4 bs⟩

def render (a : Ip4) : String :=
  ".".intercalate (a.octets.toList.map fun b => toString b.toNat)

def toMapped (a : Ip4) : Ip6 :=
  ⟨bytesToVector 16 (List.replicate 10 0 ++ [0xff, 0xff] ++ a.octets.toList)⟩

end Ip4

namespace Ip6

def ofList (bs : List UInt8) : Ip6 := ⟨bytesToVector 16 bs⟩

def unspecified : Ip6 := ofList []

def groups (a : Ip6) : List Nat :=
  (List.range 8).map fun i => (a.octets.toList.getD (2 * i) 0).toNat * 256 +
    (a.octets.toList.getD (2 * i + 1) 0).toNat

/-- Whether the address lies in `::ffff:0:0/96`, the IPv4-mapped block. -/
def isMapped (a : Ip6) : Bool :=
  a.octets.toList.take 12 == List.replicate 10 0 ++ [0xff, 0xff]

def lowIp4 (a : Ip6) : Ip4 := Ip4.ofList (a.octets.toList.drop 12)

def zeroRun (gs : List Nat) : Nat := (gs.takeWhile (· == 0)).length

/-- The start and length of the first of the longest runs of at least two zero groups. -/
def longestZeroRun (gs : List Nat) : Option (Nat × Nat) :=
  (List.range gs.length).foldl (fun best i =>
    let l := zeroRun (gs.drop i)
    match best with
    | some (_, bl) => if l > bl then some (i, l) else best
    | none => if l ≥ 2 then some (i, l) else none) none

def joinGroups (gs : List Nat) : String := ":".intercalate (gs.map Hex.ofNat)

def renderGroups (a : Ip6) : String :=
  let gs := a.groups
  match longestZeroRun gs with
  | some (start, len) => joinGroups (gs.take start) ++ "::" ++ joinGroups (gs.drop (start + len))
  | none => joinGroups gs

/-- The text of the address with its zone: `::ffff:a.b.c.d` for the mapped block, groups
otherwise, then `%zone` when there is one. -/
def render (a : Ip6) (zone : String) : String :=
  (if a.isMapped then "::ffff:" ++ a.lowIp4.render else a.renderGroups) ++
    (if zone.isEmpty then "" else "%" ++ zone)

end Ip6

namespace IpAddr

def render : IpAddr → String
  | .v4 a => a.render
  | .v6 a z => a.render z
  | .invalid => "invalid IP"

def isValid : IpAddr → Bool
  | .invalid => false
  | _ => true

def isV4 : IpAddr → Bool
  | .v4 _ => true
  | _ => false

/-- The address with an IPv4-mapped IPv6 address taken back to IPv4, dropping its zone;
other addresses are unchanged. -/
def unmap : IpAddr → IpAddr
  | .v6 a z => if a.isMapped then .v4 a.lowIp4 else .v6 a z
  | a => a

/-- The sixteen octets of the address, IPv4 as IPv4-mapped; all zero for the zero value. -/
def as16 : IpAddr → Ip6
  | .v4 a => a.toMapped
  | .v6 a _ => a
  | .invalid => Ip6.unspecified

def zone : IpAddr → String
  | .v6 _ z => z
  | _ => ""

end IpAddr

def AddrPort.render (ap : AddrPort) : String :=
  match ap.addr with
  | .v4 a => a.render ++ ":" ++ toString ap.port.toNat
  | .v6 a z => "[" ++ a.render z ++ "]" ++ ":" ++ toString ap.port.toNat
  | .invalid => "invalid AddrPort"

end PlatformLayer.Net
