import Mathlib
import PlatformLayer.Proofs.Net.RoundTrip
/-!
# Socket addresses of an address with port

The IPv4 conversion accepts exactly the IPv4 addresses and the IPv6 addresses of the
IPv4-mapped block, whatever their zone, and keeps the four octets the address carries and the
port. The IPv6 conversion keeps every address in its sixteen-octet form (IPv4 goes into the
mapped block) and reads the zone: empty is 0, a decimal numeral below 2^32 is its value, leading
zeros allowed and no sign (`ZoneNumeral`), and anything else is looked up among the network
interfaces. When no interface is named other than by such a zone, the lookup never decides, and
the conversion succeeds exactly on those zones (`SockAddr6.ofAddrPort?_eq_some_iff`). When both
conversions succeed, the IPv6 form is the IPv4 one in the mapped block.

Both conversions refuse the invalid address, and so the zero value of an address with port: the
IPv4 one because it is no IPv4 address, the IPv6 one by testing for it before the zone.
-/
namespace PlatformLayer.Net

/-! ## The IPv4-mapped block -/

theorem Ip4.toMapped_toList (a : Ip4) :
    a.toMapped.octets.toList = List.replicate 10 0 ++ [255, 255] ++ a.octets.toList :=
  bytesToVector_toList_of_length (by simp)

theorem Ip4.toMapped_isMapped (a : Ip4) : a.toMapped.isMapped = true := by
  simp [Ip6.isMapped, Ip4.toMapped_toList]

theorem Ip4.lowIp4_toMapped (a : Ip4) : a.toMapped.lowIp4 = a := by
  simp [Ip6.lowIp4, Ip4.toMapped_toList, Ip4.ofList_toList]

theorem Ip6.eq_of_toList {a b : Ip6} (h : a.octets.toList = b.octets.toList) : a = b := by
  cases a
  cases b
  simpa [Vector.toList_inj] using h

theorem Ip6.toMapped_lowIp4 {a : Ip6} (h : a.isMapped = true) : a.lowIp4.toMapped = a := by
  have hlow : a.lowIp4.octets.toList = a.octets.toList.drop 12 :=
    bytesToVector_toList_of_length (by simp)
  have hprefix : a.octets.toList.take 12 = List.replicate 10 0 ++ [255, 255] := by
    simpa [Ip6.isMapped] using h
  apply Ip6.eq_of_toList
  rw [Ip4.toMapped_toList, hlow, ← hprefix, List.take_append_drop]

/-! ## To IPv4 -/

theorem SockAddr.ofAddrPort?_eq_some_iff (ap : AddrPort) (sa : SockAddr) :
    SockAddr.ofAddrPort? ap = some sa ↔
      (ap.addr = .v4 sa.addr ∨ ∃ zone, ap.addr = .v6 sa.addr.toMapped zone) ∧
        sa.port = ap.port := by
  obtain ⟨addr, port⟩ := ap
  cases addr with
  | v4 a =>
    simp only [SockAddr.ofAddrPort?, IpAddr.unmap, Option.some.injEq, IpAddr.v4.injEq,
      reduceCtorEq, exists_false, or_false]
    constructor
    · rintro rfl
      exact ⟨rfl, rfl⟩
    · rintro ⟨rfl, hp⟩
      cases sa
      simp_all
  | v6 a zone =>
    by_cases hm : a.isMapped = true
    · simp only [SockAddr.ofAddrPort?, IpAddr.unmap, hm, if_true, Option.some.injEq,
        reduceCtorEq, IpAddr.v6.injEq, false_or]
      constructor
      · rintro rfl
        exact ⟨⟨zone, (Ip6.toMapped_lowIp4 hm).symm, rfl⟩, rfl⟩
      · rintro ⟨⟨z, rfl, rfl⟩, hp⟩
        cases sa
        simp_all [Ip4.lowIp4_toMapped]
    -- an address outside the mapped block is no mapped form of any IPv4 address
    · simp only [SockAddr.ofAddrPort?, IpAddr.unmap, hm, if_false, reduceCtorEq, false_or,
        IpAddr.v6.injEq, false_iff, not_and]
      rintro ⟨z, rfl, rfl⟩
      exact absurd sa.addr.toMapped_isMapped hm
  | invalid => simp [SockAddr.ofAddrPort?, IpAddr.unmap]

theorem SockAddr.ofAddrPort?_eq_none_iff (ap : AddrPort) :
    SockAddr.ofAddrPort? ap = none ↔
      ap.addr = .invalid ∨ ∃ a zone, ap.addr = .v6 a zone ∧ a.isMapped = false := by
  obtain ⟨addr, port⟩ := ap
  cases addr with
  | v4 a => simp [SockAddr.ofAddrPort?, IpAddr.unmap]
  | v6 a zone =>
    by_cases hm : a.isMapped = true <;> simp [SockAddr.ofAddrPort?, IpAddr.unmap, hm]
  | invalid => simp [SockAddr.ofAddrPort?, IpAddr.unmap]

theorem as16_of_ofAddrPort? {ap : AddrPort} {sa : SockAddr}
    (h : SockAddr.ofAddrPort? ap = some sa) : ap.addr.as16 = sa.addr.toMapped ∧ ap.port = sa.port := by
  obtain ⟨h4 | ⟨zone, h6⟩, hp⟩ := (SockAddr.ofAddrPort?_eq_some_iff ap sa).1 h
  · exact ⟨by simp [h4, IpAddr.as16], hp.symm⟩
  · exact ⟨by simp [h6, IpAddr.as16], hp.symm⟩

/-! ## Zones -/

theorem ofDigitChars_eq_ofDigits (cs : List Char) (init : Nat) :
    Nat.ofDigitChars 10 cs init =
      init * 10 ^ cs.length + Nat.ofDigits 10 (cs.reverse.map fun c => c.toNat - '0'.toNat) := by
  induction cs generalizing init with
  | nil => simp
  | cons c cs ih =>
    rw [Nat.ofDigitChars_cons, ih, List.reverse_cons, List.map_append, Nat.ofDigits_append]
    simp [pow_succ]
    ring

/-- The value of a text of decimal digits, its first digit the most significant. -/
def decimalNumeral (s : String) : Nat :=
  Nat.ofDigits 10 (s.toList.reverse.map fun c => c.toNat - '0'.toNat)

/-- A zone written as a number: one or more ASCII digits, leading zeros allowed and no sign,
with value `v` below 2^32. -/
def ZoneNumeral (zone : String) (v : Nat) : Prop :=
  zone ≠ "" ∧ (∀ c ∈ zone.toList, c.isDigit) ∧ decimalNumeral zone = v ∧ v < 4294967296

/-- The zone number an IPv6 socket address takes from a zone: 0 for none, else its value. -/
def ZoneValue (zone : String) (v : Nat) : Prop := (zone = "" ∧ v = 0) ∨ ZoneNumeral zone v

theorem ZoneValue.lt {zone : String} {v : Nat} (h : ZoneValue zone v) : v < 4294967296 := by
  rcases h with ⟨-, rfl⟩ | ⟨-, -, -, hv⟩
  · decide
  · exact hv

theorem zoneNumber?_of_digits {zone : String} (he : zone ≠ "") (hd : ∀ c ∈ zone.toList, c.isDigit) :
    zoneNumber? zone =
      if decimalNumeral zone < 4294967296 then some (decimalNumeral zone).toUInt32 else none := by
  have hne : zone.isEmpty = false := by simpa using he
  have hall : zone.all Char.isDigit = true := by simpa [String.all_bool_eq] using hd
  have hval : zone.foldl (fun n c => n * 10 + decimalValue c) 0 = decimalNumeral zone := by
    rw [String.foldl_eq_foldl_toList, foldl_decimal, ofDigitChars_eq_ofDigits]
    simp [decimalNumeral]
  simp only [zoneNumber?, hne, hall, hval, Bool.false_eq_true, if_true, if_false]

theorem zoneNumber?_of_not_digits {zone : String} (he : zone ≠ "")
    (hd : ¬ ∀ c ∈ zone.toList, c.isDigit) : zoneNumber? zone = none := by
  have hne : zone.isEmpty = false := by simpa using he
  have hall : zone.all Char.isDigit = false := by simpa [String.all_bool_eq] using hd
  simp only [zoneNumber?, hne, hall, Bool.false_eq_true, if_false]

theorem zoneNumber?_eq_some_iff (zone : String) (z : UInt32) :
    zoneNumber? zone = some z ↔ ZoneValue zone z.toNat := by
  have hz := z.toNat_lt
  by_cases he : zone = ""
  · subst he
    have h0 : zoneNumber? "" = some 0 := rfl
    have hn : ¬ ZoneNumeral "" z.toNat := fun h => h.1 rfl
    rw [h0, Option.some_inj, ZoneValue]
    simp only [hn, or_false, true_and]
    rw [eq_comm, ← UInt32.toNat_inj]
    rfl
  simp only [ZoneValue, ZoneNumeral, he, false_and, false_or, ne_eq, not_false_eq_true, true_and]
  by_cases hd : ∀ c ∈ zone.toList, c.isDigit
  · rw [zoneNumber?_of_digits he hd]
    split
    · rename_i hv
      have hback : (decimalNumeral zone).toUInt32.toNat = decimalNumeral zone := by
        simpa using Nat.mod_eq_of_lt hv
      constructor
      · rintro ⟨⟩
        exact ⟨hd, hback.symm, by omega⟩
      · rintro ⟨-, hdec, -⟩
        rw [hdec]
        simp
    -- a numeral of 2^32 or more names no zone number
    · rename_i hv
      simp only [reduceCtorEq, false_iff, not_and]
      omega
  · rw [zoneNumber?_of_not_digits he hd]
    simp only [reduceCtorEq, false_iff, not_and]
    exact fun h => absurd h hd

theorem zoneNumber?_of_zoneValue {zone : String} {v : Nat} (h : ZoneValue zone v) :
    zoneNumber? zone = some v.toUInt32 := by
  have hv : v.toUInt32.toNat = v := by simpa using Nat.mod_eq_of_lt h.lt
  rw [zoneNumber?_eq_some_iff, hv]
  exact h

/-- With no interface named other than by a zone number, the lookup of a zone among the
interfaces never decides it. -/
theorem zoneLookup_eq {interfaces : String → Option UInt32}
    (hnames : ∀ zone i, interfaces zone = some i → ∃ v, ZoneValue zone v) (zone : String) :
    (zoneNumber? zone).orElse (fun _ => interfaces zone) = zoneNumber? zone := by
  cases hz : zoneNumber? zone with
  | some z => rfl
  | none =>
    cases hi : interfaces zone with
    | none => rfl
    | some i =>
      obtain ⟨v, hv⟩ := hnames zone i hi
      rw [zoneNumber?_of_zoneValue hv] at hz
      cases hz

/-! ## To IPv6 -/

theorem SockAddr6.ofAddrPort?_of_invalid (interfaces : String → Option UInt32) {ap : AddrPort}
    (h : ap.addr = .invalid) : SockAddr6.ofAddrPort? interfaces ap = none := by
  simp [SockAddr6.ofAddrPort?, h, IpAddr.isValid]

/-- Past the validity test, the IPv6 form is the sixteen octets, the port and the zone's number. -/
theorem SockAddr6.ofAddrPort?_of_ne_invalid (interfaces : String → Option UInt32) {ap : AddrPort}
    (h : ap.addr ≠ .invalid) :
    SockAddr6.ofAddrPort? interfaces ap =
      ((zoneNumber? ap.addr.zone).orElse fun _ => interfaces ap.addr.zone).map
        fun z => ⟨ap.addr.as16, ap.port, z⟩ := by
  have hv : ap.addr.isValid = true := by
    cases hc : ap.addr with
    | invalid => exact absurd hc h
    | v4 _ | v6 _ _ => rfl
  simp [SockAddr6.ofAddrPort?, hv]

section Interfaces

variable {interfaces : String → Option UInt32}
  (hnames : ∀ zone i, interfaces zone = some i → ∃ v, ZoneValue zone v)
include hnames

theorem SockAddr6.ofAddrPort?_eq_some_iff (ap : AddrPort) (sa6 : SockAddr6) :
    SockAddr6.ofAddrPort? interfaces ap = some sa6 ↔
      ap.addr ≠ .invalid ∧ sa6.addr = ap.addr.as16 ∧ sa6.port = ap.port ∧
        ZoneValue ap.addr.zone sa6.zone.toNat := by
  by_cases hv : ap.addr = .invalid
  · simp [SockAddr6.ofAddrPort?_of_invalid interfaces hv, hv]
  rw [SockAddr6.ofAddrPort?_of_ne_invalid interfaces hv, zoneLookup_eq hnames,
    Option.map_eq_some_iff]
  simp only [ne_eq, hv, not_false_eq_true, true_and]
  constructor
  · rintro ⟨z, hz, rfl⟩
    exact ⟨rfl, rfl, (zoneNumber?_eq_some_iff _ _).1 hz⟩
  · rintro ⟨ha, hp, hz⟩
    refine ⟨sa6.zone, (zoneNumber?_eq_some_iff _ _).2 hz, ?_⟩
    cases sa6
    simp_all

theorem SockAddr6.ofAddrPort?_eq_none_iff (ap : AddrPort) :
    SockAddr6.ofAddrPort? interfaces ap = none ↔
      ap.addr = .invalid ∨ ∀ v, ¬ ZoneValue ap.addr.zone v := by
  by_cases hv : ap.addr = .invalid
  · simp [SockAddr6.ofAddrPort?_of_invalid interfaces hv, hv]
  rw [SockAddr6.ofAddrPort?_of_ne_invalid interfaces hv, zoneLookup_eq hnames,
    Option.map_eq_none_iff]
  simp only [hv, false_or]
  constructor
  · intro h v hv
    rw [zoneNumber?_of_zoneValue hv] at h
    cases h
  · intro h
    cases hz : zoneNumber? ap.addr.zone with
    | none => rfl
    | some z => exact absurd ((zoneNumber?_eq_some_iff _ _).1 hz) (h z.toNat)

/-- Both conversions, with every network interface named by a zone number or not at all: the
IPv4 form exists exactly for IPv4 and IPv4-mapped addresses, the IPv6 form exactly for a valid
address with an empty or numeric zone, and where both exist they agree. Neither takes the
invalid address. -/
theorem addrPort_conversions (ap : AddrPort) :
    (∀ sa, SockAddr.ofAddrPort? ap = some sa ↔
      (ap.addr = .v4 sa.addr ∨ ∃ zone, ap.addr = .v6 sa.addr.toMapped zone) ∧
        sa.port = ap.port) ∧
    (SockAddr.ofAddrPort? ap = none ↔
      ap.addr = .invalid ∨ ∃ a zone, ap.addr = .v6 a zone ∧ a.isMapped = false) ∧
    (∀ sa6, SockAddr6.ofAddrPort? interfaces ap = some sa6 ↔
      ap.addr ≠ .invalid ∧ sa6.addr = ap.addr.as16 ∧ sa6.port = ap.port ∧
        ZoneValue ap.addr.zone sa6.zone.toNat) ∧
    (SockAddr6.ofAddrPort? interfaces ap = none ↔
      ap.addr = .invalid ∨ ∀ v, ¬ ZoneValue ap.addr.zone v) ∧
    (∀ sa sa6, SockAddr.ofAddrPort? ap = some sa →
      SockAddr6.ofAddrPort? interfaces ap = some sa6 →
        sa6.addr = sa.addr.toMapped ∧ sa6.port = sa.port) := by
  refine ⟨SockAddr.ofAddrPort?_eq_some_iff ap, SockAddr.ofAddrPort?_eq_none_iff ap,
    SockAddr6.ofAddrPort?_eq_some_iff hnames ap, SockAddr6.ofAddrPort?_eq_none_iff hnames ap,
    fun sa sa6 h4 h6 => ?_⟩
  obtain ⟨-, haddr, hport, -⟩ := (SockAddr6.ofAddrPort?_eq_some_iff hnames ap sa6).1 h6
  obtain ⟨h16, hp⟩ := as16_of_ofAddrPort? h4
  exact ⟨haddr.trans h16, hport.trans hp⟩

end Interfaces

/-- `[::ffff:10.0.0.1%007]:53` with no interfaces: the IPv4 form drops the zone, and the IPv6
form reads it as 7. The zero value, the invalid address with port 0, has neither form. -/
theorem mapped_and_zero_addrPort_conversions :
    (∀ zone i, (fun _ => none : String → Option UInt32) zone = some i → ∃ v, ZoneValue zone v) ∧
    SockAddr.ofAddrPort? ⟨.v6 (Ip4.ofList [10, 0, 0, 1]).toMapped "007", 53⟩ =
      some ⟨Ip4.ofList [10, 0, 0, 1], 53⟩ ∧
    SockAddr6.ofAddrPort? (fun _ => none) ⟨.v6 (Ip4.ofList [10, 0, 0, 1]).toMapped "007", 53⟩ =
      some ⟨(Ip4.ofList [10, 0, 0, 1]).toMapped, 53, 7⟩ ∧
    SockAddr.ofAddrPort? ⟨.invalid, 0⟩ = none ∧
    SockAddr6.ofAddrPort? (fun _ => none) ⟨.invalid, 0⟩ = none := by
  have hnames : ∀ zone i, (fun _ => none : String → Option UInt32) zone = some i →
      ∃ v, ZoneValue zone v := by simp
  have h := addrPort_conversions hnames ⟨.v6 (Ip4.ofList [10, 0, 0, 1]).toMapped "007", 53⟩
  have h0 := addrPort_conversions hnames ⟨.invalid, 0⟩
  have h7 : ZoneNumeral "007" 7 := ⟨by decide, by simp, by simp [decimalNumeral, Nat.ofDigits], by decide⟩
  exact ⟨hnames, (h.1 _).2 ⟨.inr ⟨"007", rfl⟩, rfl⟩, (h.2.2.1 _).2 ⟨by simp, rfl, rfl, .inr h7⟩,
    h0.2.1.2 (.inl rfl), h0.2.2.2.1.2 (.inl rfl)⟩

end PlatformLayer.Net
