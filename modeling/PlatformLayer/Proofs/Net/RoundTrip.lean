import Mathlib
import PlatformLayer.Proofs.Net.Ip6Text
/-!
# Socket addresses survive their text

An address with port prints as `a.b.c.d:port` or `[address%zone]:port`, and `parseAddrPort`
reads every such text back to the address with port it came from: the last colon is the port's,
the brackets are where IPv6 needs them, and the address and the port read back on their own
(`parseAddr_render`, `parsePort_toDigits`). Main statement: every IPv4 socket address and every
IPv6 socket address, whatever its octets, port and zone, comes back from its text through the
conversions from an address with port, whatever the network interfaces are named.
-/
namespace PlatformLayer.Net

/-! ## Addresses -/

theorem Ip4.ofList_toList (a : Ip4) : Ip4.ofList a.octets.toList = a := by
  simp [Ip4.ofList, bytesToVector_toList]

/-- The dotted quad of every IPv4 address is read back as the address. -/
theorem parseIp4_render (a : Ip4) : parseIp4 a.render = pure a := by
  have hq : dottedQuad a.render (quadText a.octets.toList) true 0 0 [] = pure ([] ++ a.octets.toList) :=
    dottedQuad_quadText a.render (List.ne_nil_of_length_eq_add_one a.octets.length_toList) []
      (by simp)
  rw [List.nil_append] at hq
  simp [parseIp4, Ip4.render_toList, hq, Ip4.ofList_toList]

theorem ne_sep_of_isDigit {c : Char} (hc : c.isDigit = true) :
    ¬ (c = '.' ∨ c = ':' ∨ c = '%') := by
  rintro (rfl | rfl | rfl) <;> revert hc <;> decide

/-- The first `.`, `:` or `%` of a dotted quad is its first dot: the text is read as IPv4. -/
theorem find_sep_quadText {bs : List UInt8} (h4 : bs.length = 4) :
    (quadText bs).find? (fun c => c = '.' ∨ c = ':' ∨ c = '%') = some '.' := by
  obtain ⟨b, c, rest, rfl⟩ : ∃ b c rest, bs = b :: c :: rest := by
    match bs, h4 with
    | b :: c :: rest, _ => exact ⟨b, c, rest, rfl⟩
  have hnone : (Nat.toDigits 10 b.toNat).find? (fun c => c = '.' ∨ c = ':' ∨ c = '%') = none :=
    List.find?_eq_none.2 fun d hd => by
      simpa using ne_sep_of_isDigit (Nat.isDigit_of_mem_toDigits (by decide) (by decide) hd)
  rw [quadText_cons_cons, List.find?_append, hnone]
  simp

/-- The text of every IP address, with any zone, is read back as that address; the text of the
invalid zero value names none. -/
theorem parseAddr_render {a : IpAddr} (h : a.isValid) : parseAddr a.render = pure a := by
  cases a with
  | v4 a =>
    have hfind := find_sep_quadText a.octets.length_toList
    rw [← Ip4.render_toList] at hfind
    unfold parseAddr IpAddr.render
    rw [hfind]
    simp [parseIp4_render]
  | v6 a zone =>
    have hfind := (ip6Text_body a).find_sep (zoneText zone)
    rw [← Ip6.render_toList] at hfind
    unfold parseAddr IpAddr.render
    rw [hfind]
    exact parseIp6_render a zone
  | invalid => simp [IpAddr.isValid] at h

/-! ## Addresses with ports -/

theorem colon_not_mem_toDigits (n : Nat) : ':' ∉ Nat.toDigits 10 n := fun h =>
  ne_sep_of_isDigit (Nat.isDigit_of_mem_toDigits (by decide) (by decide) h) (.inr (.inl rfl))

/-- The last colon of text that ends in `:` and digits is that colon. -/
theorem findIdx_last_colon (ip : List Char) {digits : List Char} (hd : ':' ∉ digits) :
    (ip ++ ':' :: digits).reverse.findIdx? (· = ':') = some digits.length := by
  have hnone : digits.reverse.findIdx? (· = ':') = none :=
    List.findIdx?_eq_none_iff.2 fun c hc => by
      simpa using fun h : c = ':' => hd (h ▸ List.mem_reverse.1 hc)
  rw [List.reverse_append, List.reverse_cons, List.append_assoc, List.findIdx?_append, hnone]
  simp [List.findIdx?_cons]

/-- Text cut at the last colon: the address part before it, the port's digits after it. -/
theorem take_drop_last_colon (ip digits : List Char) :
    (ip ++ ':' :: digits).take ((ip ++ ':' :: digits).length - 1 - digits.length) = ip ∧
      (ip ++ ':' :: digits).drop ((ip ++ ':' :: digits).length - 1 - digits.length + 1) =
        digits := by
  have hi : (ip ++ ':' :: digits).length - 1 - digits.length = ip.length := by simp
  rw [hi]
  exact ⟨List.take_left' rfl, by simp⟩

/-- The text of every address with port is read back as that address with port. -/
theorem parseAddrPort_render {ap : AddrPort} (h : ap.addr.isValid) :
    parseAddrPort ap.render = some ap := by
  obtain ⟨a, p⟩ := ap
  have hport := parsePort_toDigits p
  have hcolon := colon_not_mem_toDigits p.toNat
  have hdigits : Nat.toDigits 10 p.toNat ≠ [] := Nat.toDigits_ne_nil
  cases a with
  | v4 a =>
    -- no brackets: the text starts with the first octet's digits
    have hs : (AddrPort.render ⟨.v4 a, p⟩).toList =
        quadText a.octets.toList ++ ':' :: Nat.toDigits 10 p.toNat := by
      simp [AddrPort.render, Ip4.render_toList, Nat.toList_repr]
    have hne : quadText a.octets.toList ≠ [] := by
      obtain ⟨b, rest, h⟩ := List.exists_cons_of_length_eq_add_one a.octets.length_toList
      rw [h]
      exact quadText_ne_nil b rest
    have hhead : (quadText a.octets.toList).head? ≠ some '[' := fun h => by
      rcases mem_quadText (List.mem_of_head? h) with h | h <;> revert h <;> decide
    have haddr : parseAddr (String.ofList (quadText a.octets.toList)) = .ok (.v4 a) := by
      rw [← Ip4.render_toList, String.ofList_toList]
      exact @parseAddr_render (.v4 a) rfl
    obtain ⟨htake, hdrop⟩ := take_drop_last_colon (quadText a.octets.toList) (Nat.toDigits 10 p.toNat)
    simp only [parseAddrPort, hs, findIdx_last_colon _ hcolon, htake, hdrop]
    simp [hne, hdigits, hhead, hport, haddr, IpAddr.isV4]
  | v6 a zone =>
    -- brackets around the address and zone
    have hs : (AddrPort.render ⟨.v6 a zone, p⟩).toList =
        ('[' :: (a.render zone).toList ++ [']']) ++ ':' :: Nat.toDigits 10 p.toNat := by
      simp [AddrPort.render, Nat.toList_repr]
    have haddr : parseAddr (a.render zone) = .ok (.v6 a zone) := @parseAddr_render (.v6 a zone) rfl
    obtain ⟨htake, hdrop⟩ :=
      take_drop_last_colon ('[' :: (a.render zone).toList ++ [']']) (Nat.toDigits 10 p.toNat)
    simp only [parseAddrPort, hs, findIdx_last_colon _ hcolon, htake, hdrop]
    have hlast : ('[' :: ((a.render zone).toList ++ [']'])).getLast? = some ']' := by
      rw [← List.cons_append, List.getLast?_concat]
    simp [hdigits, hport, haddr, hlast, IpAddr.isV4]
  | invalid => simp [IpAddr.isValid] at h

/-! ## Socket addresses -/

theorem SockAddr.ofAddrPort?_toAddrPort (sa : SockAddr) : SockAddr.ofAddrPort? sa.toAddrPort = some sa := by
  simp [SockAddr.ofAddrPort?, SockAddr.toAddrPort, IpAddr.unmap]

/-- The zone written for an IPv6 socket address is read back as its number, without looking up
an interface: no zone for zone 0, and the zone in decimal otherwise. -/
theorem SockAddr6.ofAddrPort?_toAddrPort (interfaces : String → Option UInt32) (sa : SockAddr6) :
    SockAddr6.ofAddrPort? interfaces sa.toAddrPort = some sa := by
  obtain ⟨a, p, z⟩ := sa
  by_cases hz : z = 0
  · subst hz
    simp [SockAddr6.ofAddrPort?, SockAddr6.toAddrPort, IpAddr.isValid, IpAddr.zone, IpAddr.as16,
      zoneNumber?]
  · have hzone : zoneNumber? z.toNat.repr = some z := zoneNumber?_toString z
    simp [SockAddr6.ofAddrPort?, SockAddr6.toAddrPort, IpAddr.isValid, IpAddr.zone, IpAddr.as16, hz,
      hzone]

/-- Every socket address comes back from its text. An IPv4 socket address is read back as itself;
an IPv6 socket address, of any sixteen octets, port and zone number, is read back as itself
whatever names the network interfaces have. This covers IPv4-mapped addresses written as
`[::ffff:a.b.c.d]`, the first longest run of zero groups written `::`, and a zone written in
decimal after `%`. -/
theorem sockAddr_text_round_trip (interfaces : String → Option UInt32) :
    (∀ sa : SockAddr, ∃ ap, parseAddrPort sa.render = some ap ∧ SockAddr.ofAddrPort? ap = some sa) ∧
    (∀ sa : SockAddr6, ∃ ap, parseAddrPort sa.render = some ap ∧
      SockAddr6.ofAddrPort? interfaces ap = some sa) :=
  ⟨fun sa => ⟨sa.toAddrPort, parseAddrPort_render rfl, SockAddr.ofAddrPort?_toAddrPort sa⟩,
    fun sa => ⟨sa.toAddrPort, parseAddrPort_render rfl, SockAddr6.ofAddrPort?_toAddrPort interfaces sa⟩⟩

end PlatformLayer.Net
