import Mathlib
import PlatformLayer.Proofs.Net.RoundTrip
import PlatformLayer.Proofs.Socket.Outputs
/-!
# Dotted quads are exactly the printed IPv4 addresses

The dotted-quad reader takes back only what the printer writes: a text it accepts is the text of
the octets it returns (`dottedQuad_sound`), carried by the invariant `FieldState` on the field
being read. With `parseAddr_render` this makes a text read as an IPv4 address exactly when it is
that address's dotted quad, since the IPv6 reader never answers IPv4. The same texts are those of
the grammar `isDottedQuad`: four dot-separated fields of decimal digits, each without a leading
zero and at most 255.

Main statement: `aton_inverts_ntoa`, for reading a dotted quad into a socket address.
-/
namespace PlatformLayer.Net

/-! ## Reading back a dotted quad -/

theorem digitChar_decimalValue {c : Char} (hc : c.isDigit = true) :
    decimalValue c < 10 ∧ Nat.digitChar (decimalValue c) = c := by
  have h := Char.isDigit_iff_toNat.mp hc
  simp only [Char.reduceToNat] at h
  have hlt : decimalValue c < 10 := by rw [decimalValue]; omega
  refine ⟨hlt, Char.toNat_inj.mp ?_⟩
  rw [Nat.toNat_digitChar_of_lt_ten hlt, decimalValue]
  omega

theorem toDigits_append_digit {n : Nat} (hn : 0 < n) {c : Char} (hc : c.isDigit = true) :
    Nat.toDigits 10 n ++ [c] = Nat.toDigits 10 (n * 10 + decimalValue c) := by
  obtain ⟨hlt, hchar⟩ := digitChar_decimalValue hc
  rw [Nat.mul_comm, ← Nat.toDigits_append_toDigits (by decide) hn hlt,
    Nat.toDigits_of_lt_base hlt, hchar]

section Reader

variable {input : String} {cs : List Char} {fresh : Bool} {val digits : Nat} {done os : List UInt8}

/-! The reader's transitions, each read off one accepting call. -/

theorem dottedQuad_nil (h : dottedQuad input [] fresh val digits done = .ok os) :
    3 ≤ done.length ∧ os = done ++ [val.toUInt8] := by
  simp only [dottedQuad] at h
  split at h
  · cases h
  · rename_i h3
    cases h
    exact ⟨by omega, rfl⟩

theorem dottedQuad_digit {c : Char} (hc : c.isDigit = true)
    (h : dottedQuad input (c :: cs) fresh val digits done = .ok os) :
    ¬(digits = 1 ∧ val = 0) ∧ val * 10 + decimalValue c ≤ 255 ∧
      dottedQuad input cs false (val * 10 + decimalValue c) (digits + 1) done = .ok os := by
  simp only [dottedQuad, hc, if_true] at h
  split at h
  · cases h
  · rename_i hlz
    split at h
    · cases h
    · rename_i hle
      exact ⟨hlz, by omega, h⟩

theorem dottedQuad_dot (h : dottedQuad input ('.' :: cs) fresh val digits done = .ok os) :
    fresh = false ∧ cs ≠ [] ∧ done.length ≠ 3 ∧
      dottedQuad input cs true 0 0 (done ++ [val.toUInt8]) = .ok os := by
  rw [dottedQuad, if_neg (show ¬('.'.isDigit = true) by decide), if_pos rfl] at h
  split at h
  · cases h
  · rename_i hfield
    split at h
    · cases h
    · rename_i h3
      simp only [not_or, Bool.not_eq_true, List.isEmpty_eq_false_iff] at hfield
      exact ⟨hfield.1, hfield.2, h3, h⟩

theorem dottedQuad_other {c : Char} (hc : c.isDigit = false) (hdot : c ≠ '.') :
    dottedQuad input (c :: cs) fresh val digits done ≠ .ok os := by
  simp [dottedQuad, hc, hdot]

end Reader

/-- Where the dotted-quad reader stands in a field: at its start nothing is read; after some
digits, the value so far is at most 255 and `digits` counts its digits. -/
def FieldState : Bool → Nat → Nat → Prop
  | true, val, digits => val = 0 ∧ digits = 0
  | false, val, digits => val ≤ 255 ∧ digits = (Nat.toDigits 10 val).length

/-- The digits of the current field that the reader has taken. -/
def fieldRead : Bool → Nat → List Char
  | true, _ => []
  | false, val => Nat.toDigits 10 val

/-- A digit the reader takes keeps the field an octet whose digits are those read: a field that
is `0` takes no further digit, so any other field so far reads as a positive number. -/
theorem FieldState.digit {fresh : Bool} {val digits : Nat} {c : Char}
    (hst : FieldState fresh val digits) (hc : c.isDigit = true) (hlz : ¬(digits = 1 ∧ val = 0))
    (hle : val * 10 + decimalValue c ≤ 255) :
    FieldState false (val * 10 + decimalValue c) (digits + 1) ∧
      fieldRead fresh val ++ [c] = Nat.toDigits 10 (val * 10 + decimalValue c) := by
  obtain ⟨hlt, hchar⟩ := digitChar_decimalValue hc
  cases fresh with
  | true =>
    obtain ⟨rfl, rfl⟩ := hst
    have hone : Nat.toDigits 10 (0 * 10 + decimalValue c) = [c] := by
      rw [Nat.zero_mul, Nat.zero_add, Nat.toDigits_of_lt_base hlt, hchar]
    exact ⟨⟨hle, by rw [hone]; rfl⟩, by rw [hone]; rfl⟩
  | false =>
    obtain ⟨-, hdig⟩ := hst
    have hval : val ≠ 0 := by
      rintro rfl
      exact hlz ⟨by rw [hdig, Nat.toDigits_zero]; rfl, rfl⟩
    have hnext := toDigits_append_digit (Nat.pos_of_ne_zero hval) hc
    exact ⟨⟨hle, by rw [← hnext, List.length_append, hdig]; rfl⟩, hnext⟩

/-- What the reader accepts from inside a field is the rest of a dotted quad: with the digits
of the field so far in front, the text is that of the octets it adds to `done`, four in all. -/
theorem quadText_of_dottedQuad (input : String) {cs : List Char} {fresh : Bool} {val digits : Nat}
    {done os : List UInt8} (hst : FieldState fresh val digits) (hdone : done.length ≤ 3)
    (hnil : fresh = true → cs ≠ []) (h : dottedQuad input cs fresh val digits done = .ok os) :
    ∃ bs, os = done ++ bs ∧ done.length + bs.length = 4 ∧ fieldRead fresh val ++ cs = quadText bs := by
  induction cs generalizing fresh val digits done with
  | nil =>
    obtain ⟨h3, rfl⟩ := dottedQuad_nil h
    cases fresh with
    | true => exact absurd rfl (hnil rfl)
    | false =>
      obtain ⟨hv, -⟩ := hst
      refine ⟨[val.toUInt8], rfl, by simp; omega, ?_⟩
      simp [fieldRead, quadText_singleton, Nat.mod_eq_of_lt (show val < 256 by omega)]
  | cons c cs ih =>
    cases hd : c.isDigit with
    | true =>
      obtain ⟨hlz, hle, h⟩ := dottedQuad_digit hd h
      obtain ⟨hst', hread⟩ := hst.digit hd hlz hle
      obtain ⟨bs, hos, hlen, htext⟩ := ih hst' hdone (fun h => nomatch h) h
      refine ⟨bs, hos, hlen, ?_⟩
      rw [← htext, fieldRead, ← hread, List.append_assoc, List.singleton_append]
    | false =>
      by_cases hdot : c = '.'
      · -- a dot closes a field with digits; the next field starts on a text that is not empty
        subst hdot
        obtain ⟨rfl, hcs, h3, h⟩ := dottedQuad_dot h
        obtain ⟨hv, -⟩ := hst
        obtain ⟨bs, hos, hlen, htext⟩ :=
          ih (show FieldState true 0 0 from ⟨rfl, rfl⟩) (by simp; omega) (fun _ => hcs) h
        have hbs : bs ≠ [] := by
          rintro rfl
          exact hcs (by simpa [fieldRead, quadText] using htext)
        obtain ⟨b, rest, rfl⟩ := List.exists_cons_of_ne_nil hbs
        refine ⟨val.toUInt8 :: b :: rest, by simp [hos], by simp at hlen ⊢; omega, ?_⟩
        rw [quadText_cons_cons, ← htext]
        simp [fieldRead, Nat.mod_eq_of_lt (show val < 256 by omega)]
      · exact absurd h (dottedQuad_other hd hdot)

theorem dottedQuad_sound (input : String) {cs : List Char} {os : List UInt8}
    (h : dottedQuad input cs true 0 0 [] = .ok os) : os.length = 4 ∧ cs = quadText os := by
  cases cs with
  | nil => simp [dottedQuad] at h
  | cons c cs =>
    obtain ⟨bs, rfl, hlen, htext⟩ :=
      quadText_of_dottedQuad input (show FieldState true 0 0 from ⟨rfl, rfl⟩) (by simp) (fun _ => by simp) h
    exact ⟨by simpa using hlen, by simpa [fieldRead] using htext⟩

theorem render_of_parseIp4 {s : String} {a : Ip4} (h : parseIp4 s = .ok a) : s = a.render := by
  simp only [parseIp4, bind, Except.bind, pure, Except.pure] at h
  split at h
  · cases h
  · rename_i os hq
    cases h
    obtain ⟨hlen, htext⟩ := dottedQuad_sound s hq
    rw [← String.toList_inj, Ip4.render_toList, Ip4.ofList, bytesToVector_toList_of_length hlen]
    exact htext

theorem parseIp6_isV4 {s : String} {ip : IpAddr} (h : parseIp6 s = .ok ip) : ip.isV4 = false := by
  unfold parseIp6 at h
  simp only [bind, Except.bind, pure, Except.pure] at h
  -- every answer of the reader is built by `.v6`
  repeat' split at h
  all_goals cases h
  all_goals rfl

/-- A text reads as an IPv4 address exactly when it is that address's dotted quad. -/
theorem parseAddr_eq_v4_iff {s : String} {a : Ip4} : parseAddr s = .ok (.v4 a) ↔ s = a.render := by
  constructor
  · intro h
    unfold parseAddr at h
    split at h
    · simp only [bind, Except.bind, pure, Except.pure] at h
      split at h
      · cases h
      · rename_i a' ha
        cases h
        exact render_of_parseIp4 ha
    · exact absurd (parseIp6_isV4 h) (by simp [IpAddr.isV4])
    · cases h
    · cases h
  · rintro rfl
    exact @parseAddr_render (.v4 a) rfl

/-! ## The grammar of a dotted quad -/

/-- A field of a dotted quad: decimal digits, at least one, no leading zero, at most 255. -/
def isOctetField (t : List Char) : Bool :=
  !t.isEmpty && t.all Char.isDigit && (t.length == 1 || t.head? != some '0') &&
    decide (Nat.ofDigitChars 10 t 0 ≤ 255)

/-- Four octet fields separated by dots, and nothing else. -/
def isDottedQuad (s : String) : Bool :=
  let fields := s.toList.splitOn '.'
  fields.length == 4 && fields.all isOctetField

theorem head?_toDigits_ne_zero {n : Nat} (hn : 0 < n) : (Nat.toDigits 10 n).head? ≠ some '0' := by
  induction n using Nat.strong_induction_on with
  | _ n ih =>
    by_cases h : n < 10
    · rw [Nat.toDigits_of_lt_base h]
      simp
      omega
    · rw [Nat.toDigits_of_base_le (by decide) (by omega),
        List.head?_append_of_ne_nil _ Nat.toDigits_ne_nil]
      exact ih (n / 10) (by omega) (by omega)

/-- Digits without a leading zero are the decimal digits of the number they read as. -/
theorem toDigits_ofDigitChars {t : List Char} (hne : t ≠ []) (hdig : ∀ c ∈ t, c.isDigit = true)
    (hlead : t.length = 1 ∨ t.head? ≠ some '0') :
    Nat.toDigits 10 (Nat.ofDigitChars 10 t 0) = t := by
  induction t using List.reverseRecOn with
  | nil => exact absurd rfl hne
  | append_singleton init c ih =>
    have hc := hdig c (by simp)
    obtain ⟨hlt, hchar⟩ := digitChar_decimalValue hc
    have hval : Nat.ofDigitChars 10 (init ++ [c]) 0 =
        Nat.ofDigitChars 10 init 0 * 10 + decimalValue c := by
      rw [Nat.ofDigitChars_append, Nat.ofDigitChars_cons, Nat.ofDigitChars_nil, decimalValue]
      simp only [Char.reduceToNat]
      ring
    by_cases hinit : init = []
    · subst hinit
      rw [hval, Nat.ofDigitChars_nil, Nat.zero_mul, Nat.zero_add, Nat.toDigits_of_lt_base hlt,
        hchar, List.nil_append]
    · -- the digits before the last have no leading zero, so they read as a positive number
      have hhead : init.head? ≠ some '0' := by
        have hlen : (init ++ [c]).length ≠ 1 := by
          simp only [List.length_append, List.length_singleton]
          exact fun h => hinit (List.eq_nil_of_length_eq_zero (by omega))
        rw [← List.head?_append_of_ne_nil _ hinit]
        exact hlead.resolve_left hlen
      have hinit' := ih hinit (fun d hd => hdig d (by simp [hd])) (.inr hhead)
      have hpos : 0 < Nat.ofDigitChars 10 init 0 := by
        refine Nat.pos_of_ne_zero fun h0 => hhead ?_
        rw [← hinit', h0, Nat.toDigits_zero]
        rfl
      rw [hval, ← toDigits_append_digit hpos hc, hinit']

theorem isOctetField_iff {t : List Char} :
    isOctetField t = true ↔ ∃ n ≤ 255, t = Nat.toDigits 10 n := by
  constructor
  · intro h
    simp only [isOctetField, Bool.and_eq_true, Bool.not_eq_true', List.isEmpty_eq_false_iff,
      List.all_eq_true, Bool.or_eq_true, beq_iff_eq, bne_iff_ne, ne_eq, decide_eq_true_eq] at h
    obtain ⟨⟨⟨hne, hdig⟩, hlead⟩, hle⟩ := h
    exact ⟨_, hle, (toDigits_ofDigitChars hne hdig hlead).symm⟩
  · rintro ⟨n, hn, rfl⟩
    have hlead : (Nat.toDigits 10 n).length = 1 ∨ (Nat.toDigits 10 n).head? ≠ some '0' := by
      rcases Nat.eq_zero_or_pos n with rfl | hpos
      · exact .inl rfl
      · exact .inr (head?_toDigits_ne_zero hpos)
    simpa [isOctetField, Nat.toDigits_ne_nil, all_isDigit_toDigits, Nat.ofDigitChars_ten_toDigits,
      hn] using hlead

theorem dot_not_mem_toDigits (n : Nat) : '.' ∉ Nat.toDigits 10 n := fun h => by
  simpa using Nat.isDigit_of_mem_toDigits (by decide) (by decide) h

theorem splitOn_quadText {bs : List UInt8} (hbs : bs ≠ []) :
    (quadText bs).splitOn '.' = bs.map fun b => Nat.toDigits 10 b.toNat := by
  refine List.splitOn_intercalate '.' ?_ (by simpa using hbs)
  simp only [List.mem_map]
  rintro _ ⟨b, -, rfl⟩
  exact dot_not_mem_toDigits b.toNat

/-- Fields of the grammar, each read as its octet, print as themselves. -/
theorem quadText_readFields {fields : List (List Char)} (h : ∀ t ∈ fields, isOctetField t = true) :
    quadText (fields.map fun t => (Nat.ofDigitChars 10 t 0).toUInt8) = ['.'].intercalate fields := by
  rw [quadText, List.map_map]
  congr 1
  conv_rhs => rw [← List.map_id fields]
  refine List.map_congr_left fun t ht => ?_
  obtain ⟨n, hn, rfl⟩ := isOctetField_iff.mp (h t ht)
  simp [Nat.ofDigitChars_ten_toDigits, Nat.mod_eq_of_lt (show n < 256 by omega)]

/-- The texts of the grammar are the dotted quads the printer writes. -/
theorem isDottedQuad_iff {s : String} : isDottedQuad s = true ↔ ∃ a : Ip4, s = a.render := by
  constructor
  · intro h
    simp only [isDottedQuad, Bool.and_eq_true, beq_iff_eq, List.all_eq_true] at h
    obtain ⟨hlen, hfields⟩ := h
    -- the address of the four fields read as octets
    let os := (s.toList.splitOn '.').map fun t => (Nat.ofDigitChars 10 t 0).toUInt8
    have hos : os.length = 4 := by simp [os, hlen]
    refine ⟨Ip4.ofList os, ?_⟩
    rw [← String.toList_inj, Ip4.render_toList, Ip4.ofList, bytesToVector_toList_of_length hos,
      quadText_readFields hfields, List.intercalate_splitOn]
  · rintro ⟨a, rfl⟩
    have hne : a.octets.toList ≠ [] := List.ne_nil_of_length_eq_add_one a.octets.length_toList
    simp only [isDottedQuad, Ip4.render_toList, splitOn_quadText hne, List.length_map,
      Vector.length_toList, List.all_map, List.all_eq_true, Function.comp_apply, Bool.and_eq_true,
      beq_iff_eq, true_and]
    intro b _
    exact isOctetField_iff.mpr ⟨b.toNat, by have := b.toNat_lt; omega, rfl⟩

example : isDottedQuad "192.168.0.1" = true := by decide
example : isDottedQuad "1.2.3.256" = false := by decide
example : isDottedQuad "01.2.3.4" = false := by decide

/-! ## Reading a dotted quad into a socket address -/

/-- Reading a dotted quad into a socket address takes back exactly the texts that printing one
gives, which are the texts of the dotted-quad grammar; it then replaces the address part and keeps
the port. Every failure is a plain failure of `socket-aton`, and without a socket address the
reading always fails. Printing is one-to-one on address parts. -/
structure AtonInvertsNtoa : Prop where
  ok_iff : ∀ s sa sa', aton s (some sa) = .ok sa' ↔
    ∃ b, s = ntoa (some b) ∧ sa' = { sa with addr := b.addr }
  printed_iff : ∀ s, (∃ b, s = ntoa (some b)) ↔ isDottedQuad s = true
  failure : ∀ s addr fault, aton s addr = .error fault → ∃ cause, fault = .failed "socket-aton" cause
  without_addr : ∀ s, (aton s none).isOk = false
  round_trip : ∀ a c, aton (ntoa (some a)) (some c) = .ok { c with addr := a.addr }
  ntoa_eq_iff : ∀ a b, ntoa (some a) = ntoa (some b) ↔ a.addr = b.addr

theorem ntoa_some_eq_iff {s : String} : (∃ b, s = ntoa (some b)) ↔ ∃ a : Ip4, s = a.render := by
  constructor
  · rintro ⟨b, rfl⟩
    exact ⟨b.addr, rfl⟩
  · rintro ⟨a, rfl⟩
    exact ⟨⟨a, 0⟩, rfl⟩

theorem aton_some_eq_ok_iff {s : String} {sa sa' : SockAddr} :
    aton s (some sa) = .ok sa' ↔ ∃ b, s = ntoa (some b) ∧ sa' = { sa with addr := b.addr } := by
  rw [SocketService.aton_eq_ok_iff]
  constructor
  · rintro ⟨_, a, ⟨⟩, hp, rfl⟩
    exact ⟨⟨a, sa.port⟩, parseAddr_eq_v4_iff.mp hp, rfl⟩
  · rintro ⟨b, rfl, rfl⟩
    exact ⟨sa, b.addr, rfl, parseAddr_eq_v4_iff.mpr rfl, rfl⟩

theorem aton_failure {s : String} {addr : Option SockAddr} {fault : AtonFault}
    (h : aton s addr = .error fault) : ∃ cause, fault = .failed "socket-aton" cause := by
  unfold aton at h
  repeat' split at h
  all_goals cases h
  all_goals exact ⟨_, rfl⟩

theorem aton_inverts_ntoa : AtonInvertsNtoa where
  ok_iff _ _ _ := aton_some_eq_ok_iff
  printed_iff _ := ntoa_some_eq_iff.trans isDottedQuad_iff.symm
  failure _ _ _ := aton_failure
  without_addr _ := rfl
  round_trip a c := aton_some_eq_ok_iff.mpr ⟨a, rfl, rfl⟩
  ntoa_eq_iff a b := by
    constructor
    · intro h
      -- reading both texts back gives both address parts
      have ha := parseAddr_eq_v4_iff.mpr (rfl : ntoa (some a) = a.addr.render)
      rw [h, parseAddr_eq_v4_iff.mpr (rfl : ntoa (some b) = b.addr.render)] at ha
      simpa using ha.symm
    · intro h
      simp [ntoa, h]

end PlatformLayer.Net
