import PlatformLayer.Net.Address
import PlatformLayer.Text.Quoted
/-!
# Reading IP addresses

`parseAddr` reads an IPv4 or IPv6 address, the first `.`, `:` or `%` of the text deciding which,
and a failure names the problem and where it was found. `parseAddrPort` reads `a.b.c.d:port` or
`[address]:port`.
-/
namespace PlatformLayer.Net

inductive AddrProblem where
  | noSeparator
  | missingIpv6
  | leadingZero
  | octetTooLarge
  | emptyOctet
  | ipv4TooLong
  | unexpectedChar
  | ipv4TooShort
  | emptyZone
  | groupTooLong
  | emptyGroup
  | misplacedIpv4
  | noRoomForIpv4
  | wantColon
  | danglingColon
  | twoEllipses
  | trailingGarbage
  | ipv6TooShort
  | emptyEllipsis
  deriving DecidableEq, Repr

def AddrProblem.text : AddrProblem → String
  | .noSeparator => "unable to parse IP"
  | .missingIpv6 => "missing IPv6 address"
  | .leadingZero => "IPv4 field has octet with leading zero"
  | .octetTooLarge => "IPv4 field has value >255"
  | .emptyOctet => "IPv4 field must have at least one digit"
  | .ipv4TooLong => "IPv4 address too long"
  | .unexpectedChar => "unexpected character"
  | .ipv4TooShort => "IPv4 address too short"
  | .emptyZone => "zone must be a non-empty string"
  | .groupTooLong => "each group must have 4 or less digits"
  | .emptyGroup => "each colon-separated field must have at least one digit"
  | .misplacedIpv4 => "embedded IPv4 address must replace the final 2 fields of the address"
  | .noRoomForIpv4 => "too many hex fields to fit an embedded IPv4 at the end of the address"
  | .wantColon => "unexpected character, want colon"
  | .danglingColon => "colon must be followed by more characters"
  | .twoEllipses => "multiple :: in address"
  | .trailingGarbage => "trailing garbage after address"
  | .ipv6TooShort => "address string too short"
  | .emptyEllipsis => "the :: must expand to at least one field of zeros"

/-- A failure to read an address: the whole text, the problem, and the rest of the text where
it was found (`[]` when the problem has no place). -/
structure AddrError where
  input : String
  problem : AddrProblem
  rest : List Char
  deriving DecidableEq, Repr

/-- `ParseAddr("<text>"): <problem>`, then ` (at "<rest>")` when the rest is not empty. -/
def AddrError.message (e : AddrError) : String :=
  "ParseAddr(" ++ Quoted.quote e.input ++ "): " ++ e.problem.text ++
    (if e.rest.isEmpty then "" else " (at " ++ Quoted.quote (String.ofList e.rest) ++ ")")

abbrev AddrRead := Except AddrError

def decimalValue (c : Char) : Nat := c.toNat - 48

/-- The four octets of a dotted quad, read from `cs`; failures quote `input`. `fresh` holds at
the start and after a dot; `val` and `digits` describe the field being read, and `done` holds
the fields already read. -/
def dottedQuad (input : String) : List Char → Bool → Nat → Nat → List UInt8 → AddrRead (List UInt8)
  | [], _, val, _, done =>
    if done.length < 3 then throw ⟨input, .ipv4TooShort, []⟩ else pure (done ++ [val.toUInt8])
  | c :: cs, fresh, val, digits, done =>
    if c.isDigit then
      if digits = 1 ∧ val = 0 then throw ⟨input, .leadingZero, []⟩
      else
        let v := val * 10 + decimalValue c
        if v > 255 then throw ⟨input, .octetTooLarge, []⟩
        else dottedQuad input cs false v (digits + 1) done
    else if c = '.' then
      if fresh ∨ cs.isEmpty then throw ⟨input, .emptyOctet, c :: cs⟩
      else if done.length = 3 then throw ⟨input, .ipv4TooLong, []⟩
      else dottedQuad input cs true 0 0 (done ++ [val.toUInt8])
    else throw ⟨input, .unexpectedChar, c :: cs⟩

def parseIp4 (s : String) : AddrRead Ip4 := do
  pure (Ip4.ofList (← dottedQuad s s.toList true 0 0 []))

def isHexDigit (c : Char) : Bool := (Hex.value? c).isSome

def groupValue (ds : List Char) : Nat := ds.foldl (fun n c => n * 16 + (Hex.value? c).getD 0) 0

/-- The state of reading IPv6 groups: the octets read so far, where `::` stood (as an octet
index) if it was seen, and the text still to read. -/
structure GroupScan where
  octets : List UInt8
  ellipsis : Option Nat
  rest : List Char

/-- Read hex groups, each followed by a colon or the end, and possibly an embedded dotted quad
at the end. At most `fuel` more groups are read; `fuel` starts at eight, which is as many groups
as sixteen octets hold, and the scan also stops once sixteen octets are read. -/
def scanGroups (input : String) : Nat → GroupScan → AddrRead GroupScan
  | 0, st => pure st
  | fuel + 1, st =>
    if st.octets.length ≥ 16 then pure st
    else
      let s := st.rest
      let ds := s.takeWhile isHexDigit
      let after := s.dropWhile isHexDigit
      if ds.length > 4 then throw ⟨input, .groupTooLong, s⟩
      else if ds.isEmpty then throw ⟨input, .emptyGroup, s⟩
      else if after.head? = some '.' then
        let i := st.octets.length
        if st.ellipsis.isNone ∧ i ≠ 12 then throw ⟨input, .misplacedIpv4, s⟩
        else if i + 4 > 16 then throw ⟨input, .noRoomForIpv4, s⟩
        else do
          let quad ← dottedQuad input s true 0 0 []
          pure { st with octets := st.octets ++ quad, rest := [] }
      else
        let v := groupValue ds
        let octets := st.octets ++ [(v / 256).toUInt8, (v % 256).toUInt8]
        match after with
        | [] => pure { st with octets := octets, rest := [] }
        | c :: more =>
          if c ≠ ':' then throw ⟨input, .wantColon, after⟩
          else if more.isEmpty then throw ⟨input, .danglingColon, after⟩
          else if more.head? = some ':' then
            if st.ellipsis.isSome then throw ⟨input, .twoEllipses, more⟩
            else
              let tail := more.drop 1
              if tail.isEmpty then pure { octets := octets, ellipsis := some octets.length, rest := [] }
              else scanGroups input fuel { octets := octets, ellipsis := some octets.length, rest := tail }
          else scanGroups input fuel { st with octets := octets, rest := more }

def parseIp6 (input : String) : AddrRead IpAddr := do
  let cs := input.toList
  let body := cs.takeWhile (· ≠ '%')
  let zone := String.ofList ((cs.dropWhile (· ≠ '%')).drop 1)
  if cs.contains '%' ∧ zone.isEmpty then throw ⟨input, .emptyZone, []⟩
  let start : GroupScan :=
    match body with
    | ':' :: ':' :: tail => { octets := [], ellipsis := some 0, rest := tail }
    | _ => { octets := [], ellipsis := none, rest := body }
  if start.ellipsis.isSome ∧ start.rest.isEmpty then
    return .v6 Ip6.unspecified zone
  let st ← scanGroups input 8 start
  if !st.rest.isEmpty then throw ⟨input, .trailingGarbage, st.rest⟩
  let n := st.octets.length
  if n < 16 then
    match st.ellipsis with
    | none => throw ⟨input, .ipv6TooShort, []⟩
    | some e =>
      let filled := st.octets.take e ++ List.replicate (16 - n) 0 ++ st.octets.drop e
      return .v6 (Ip6.ofList filled) zone
  else if st.ellipsis.isSome then throw ⟨input, .emptyEllipsis, []⟩
  else return .v6 (Ip6.ofList st.octets) zone

/-- Read an IPv4 or IPv6 address: the first `.`, `:` or `%` of the text picks the form. -/
def parseAddr (s : String) : AddrRead IpAddr :=
  match s.toList.find? (fun c => c = '.' ∨ c = ':' ∨ c = '%') with
  | some '.' => do pure (.v4 (← parseIp4 s))
  | some ':' => parseIp6 s
  | some _ => throw ⟨s, .missingIpv6, []⟩
  | none => throw ⟨s, .noSeparator, []⟩

/-- A port: decimal digits only, leading zeros allowed, below 65536. -/
def parsePort (cs : List Char) : Option UInt16 :=
  if !cs.isEmpty ∧ cs.all Char.isDigit then
    let n := cs.foldl (fun n c => n * 10 + decimalValue c) 0
    if n < 65536 then some n.toUInt16 else none
  else none

/-- Read `address:port`, split at the last colon. IPv6 addresses must stand in brackets, and
IPv4 addresses must not. -/
def parseAddrPort (s : String) : Option AddrPort :=
  let cs := s.toList
  match cs.reverse.findIdx? (· = ':') with
  | none => none
  | some k =>
    let i := cs.length - 1 - k
    let ip := cs.take i
    let port := cs.drop (i + 1)
    if ip.isEmpty ∨ port.isEmpty then none
    else
      let bracketed := ip.head? = some '['
      if bracketed ∧ (ip.length < 2 ∨ ip.getLast? ≠ some ']') then none
      else
        let ipText := if bracketed then (ip.drop 1).dropLast else ip
        match parsePort port, parseAddr (String.ofList ipText) with
        | some p, .ok a =>
          if bracketed ∧ a.isV4 then none
          else if !bracketed ∧ !a.isV4 then none
          else some ⟨a, p⟩
        | _, _ => none

end PlatformLayer.Net
