import Mathlib
import PlatformLayer.Net.SockAddr
/-!
# Reading back the digits the address printer writes

The printer writes octets, ports and zones in decimal and IPv6 groups in hex, each without
leading zeros. The readers take each such text back to its number: the decimal fold of
`Nat.toDigits 10 n` is `n`, the dotted-quad reader takes an octet's digits field by field and a
whole dotted quad (`quadText`) to its octets, `parsePort` and `zoneNumber?` read a port and a
zone, and `groupValue` reads a group written by `Hex.ofNat`, which has one to four hex digits.
-/
namespace PlatformLayer.Net

/-! ## Decimal -/

/-- The decimal readers are `Nat.ofDigitChars` with the product turned around. -/
theorem foldl_decimal (cs : List Char) (init : Nat) :
    cs.foldl (fun n c => n * 10 + decimalValue c) init = Nat.ofDigitChars 10 cs init := by
  induction cs generalizing init with
  | nil => rfl
  | cons c cs ih => rw [List.foldl_cons, ih, Nat.ofDigitChars_cons, Nat.mul_comm]; rfl

theorem foldl_decimal_toDigits (n : Nat) :
    (Nat.toDigits 10 n).foldl (fun n c => n * 10 + decimalValue c) 0 = n := by
  rw [foldl_decimal, Nat.ofDigitChars_ten_toDigits]

theorem all_isDigit_toDigits (n : Nat) : (Nat.toDigits 10 n).all Char.isDigit = true :=
  List.all_eq_true.2 fun _ hc => Nat.isDigit_of_mem_toDigits (by decide) (by decide) hc

theorem parsePort_toDigits (p : UInt16) : parsePort (Nat.toDigits 10 p.toNat) = some p := by
  simp [parsePort, all_isDigit_toDigits, foldl_decimal_toDigits, p.toNat_lt]

theorem zoneNumber?_toString (z : UInt32) : zoneNumber? (toString z.toNat) = some z := by
  simp [zoneNumber?, String.foldl_eq_foldl_toList, all_isDigit_toDigits, foldl_decimal_toDigits,
    z.toNat_lt]

/-- The digits of an octet, read from the start of a field, leave the reader right after them
holding the octet. No prefix of them has a leading zero or exceeds 255. -/
theorem dottedQuad_octet (input : String) {o : Nat} (ho : o ≤ 255) (r : List Char)
    (done : List UInt8) :
    dottedQuad input (Nat.toDigits 10 o ++ r) true 0 0 done =
      dottedQuad input r false o (Nat.toDigits 10 o).length done := by
  induction o using Nat.strong_induction_on generalizing r with
  | _ o ih =>
    by_cases h : o < 10
    · rw [Nat.toDigits_of_lt_base h]
      simp [dottedQuad, Nat.isDigit_digitChar, h, decimalValue,
        Nat.toNat_digitChar_sub_48_of_lt_ten h, show ¬ 255 < o by omega]
    -- the last digit follows the digits of `o / 10`, which is not zero
    · have hq : 0 < o / 10 := by omega
      have hd : o % 10 < 10 := Nat.mod_lt _ (by decide)
      rw [Nat.toDigits_of_base_le (by decide) (by omega), List.append_assoc, List.singleton_append,
        ih (o / 10) (by omega) (by omega)]
      have hv : o / 10 * 10 + decimalValue (Nat.digitChar (o % 10)) = o := by
        rw [decimalValue, Nat.toNat_digitChar_sub_48_of_lt_ten hd]
        omega
      simp [dottedQuad, Nat.isDigit_digitChar, hd, hq.ne', hv, show ¬ 255 < o by omega]

/-- Octets in decimal joined by dots: the text of a dotted quad. -/
def quadText (bs : List UInt8) : List Char := ['.'].intercalate (bs.map fun b => Nat.toDigits 10 b.toNat)

theorem quadText_singleton (b : UInt8) : quadText [b] = Nat.toDigits 10 b.toNat := by
  simp [quadText]

theorem quadText_cons_cons (b c : UInt8) (rest : List UInt8) :
    quadText (b :: c :: rest) = Nat.toDigits 10 b.toNat ++ '.' :: quadText (c :: rest) := by
  simp [quadText]

theorem quadText_ne_nil (b : UInt8) (rest : List UInt8) : quadText (b :: rest) ≠ [] := by
  cases rest with
  | nil => simp [quadText_singleton, Nat.toDigits_ne_nil]
  | cons c rest => simp [quadText_cons_cons]

/-- The fields of a dotted quad, read after the octets `done`, give the octets they print. -/
theorem dottedQuad_quadText (input : String) {bs : List UInt8} (hne : bs ≠ []) (done : List UInt8)
    (hlen : done.length + bs.length = 4) :
    dottedQuad input (quadText bs) true 0 0 done = pure (done ++ bs) := by
  induction bs generalizing done with
  | nil => exact absurd rfl hne
  | cons b rest ih =>
    have hb : b.toNat ≤ 255 := by have := b.toNat_lt; omega
    cases rest with
    | nil =>
      -- the last field ends the text, after three others
      have h := dottedQuad_octet input hb [] done
      rw [List.append_nil] at h
      have h3 : done.length = 3 := by simpa using hlen
      simp [quadText_singleton, h, dottedQuad, h3, UInt8.ofNat_toNat]
    | cons c rest =>
      simp only [List.length_cons] at hlen
      rw [quadText_cons_cons, dottedQuad_octet input hb]
      simp [dottedQuad, quadText_ne_nil, show done.length ≠ 3 by omega, UInt8.ofNat_toNat]
      simpa using ih (by simp) (done ++ [b]) (by simp; omega)

/-! ## Hexadecimal -/

theorem natDigits_of_ge {n : Nat} (h : 16 ≤ n) :
    Hex.natDigits n = Hex.natDigits (n / 16) ++ [Hex.digit (n % 16)] := by
  rw [Hex.natDigits]
  simp [show ¬ n < 16 by omega]

theorem groupValue_append (ds es : List Char) :
    groupValue (ds ++ es) = es.foldl (fun n c => n * 16 + (Hex.value? c).getD 0) (groupValue ds) :=
  List.foldl_append

theorem groupValue_natDigits (n : Nat) : groupValue (Hex.natDigits n) = n := by
  induction n using Nat.strong_induction_on with
  | _ n ih =>
    by_cases h : n < 16
    · rw [Hex.natDigits]
      by_cases h0 : n = 0
      · simp [h0, groupValue]
      · simp [h, h0, groupValue, Hex.value?_digit h]
    · rw [natDigits_of_ge (by omega), groupValue_append, ih (n / 16) (by omega)]
      simp [Hex.value?_digit (Nat.mod_lt n (by decide : 0 < 16))]
      omega

theorem groupValue_ofNat (n : Nat) : groupValue (Hex.ofNat n).toList = n := by
  by_cases h0 : n = 0
  · subst h0
    rfl
  · simp [Hex.ofNat, h0, groupValue_natDigits]

theorem isHexDigit_digit {d : Nat} (h : d < 16) : isHexDigit (Hex.digit d) = true := by
  simp [isHexDigit, Hex.value?_digit h]

theorem isHexDigit_of_mem_natDigits {n : Nat} {c : Char} (hc : c ∈ Hex.natDigits n) :
    isHexDigit c = true := by
  induction n using Nat.strong_induction_on with
  | _ n ih =>
    by_cases h : n < 16
    · rw [Hex.natDigits] at hc
      by_cases h0 : n = 0
      · simp [h0] at hc
      · simp only [h, h0, if_true, if_false, List.mem_singleton] at hc
        subst hc
        exact isHexDigit_digit h
    · rw [natDigits_of_ge (by omega), List.mem_append, List.mem_singleton] at hc
      rcases hc with hc | rfl
      · exact ih (n / 16) (by omega) hc
      · exact isHexDigit_digit (Nat.mod_lt n (by decide))

theorem isHexDigit_of_mem_ofNat {n : Nat} {c : Char} (hc : c ∈ (Hex.ofNat n).toList) :
    isHexDigit c = true := by
  by_cases h0 : n = 0
  · subst h0
    simp only [Hex.ofNat, if_true] at hc
    simp at hc
    subst hc
    rfl
  · simp only [Hex.ofNat, h0, if_false, String.toList_ofList] at hc
    exact isHexDigit_of_mem_natDigits hc

theorem length_natDigits_le {n k : Nat} (h : n < 16 ^ k) : (Hex.natDigits n).length ≤ k := by
  induction k generalizing n with
  | zero =>
    have h0 : n = 0 := by simpa using h
    subst h0
    simp [Hex.natDigits]
  | succ k ih =>
    by_cases hn : n < 16
    · rw [Hex.natDigits]
      split_ifs <;> simp
    · rw [natDigits_of_ge (by omega), List.length_append, List.length_singleton]
      have : n / 16 < 16 ^ k := by rw [Nat.pow_succ] at h; omega
      have := ih this
      omega

/-- A group prints as one to four hex digits. -/
theorem length_ofNat_le {n : Nat} (h : n < 65536) : (Hex.ofNat n).toList.length ≤ 4 := by
  by_cases h0 : n = 0
  · subst h0
    simp [Hex.ofNat]
  · simpa [Hex.ofNat, h0] using length_natDigits_le (show n < 16 ^ 4 by norm_num; omega)

theorem ofNat_ne_nil (n : Nat) : (Hex.ofNat n).toList ≠ [] := by
  by_cases h0 : n = 0
  · subst h0
    simp [Hex.ofNat]
  · have h1 : 0 < (Hex.natDigits n).length := by
      by_cases h : n < 16
      · rw [Hex.natDigits]
        simp [h, h0]
      · rw [natDigits_of_ge (by omega)]
        simp
    simpa [Hex.ofNat, h0, ← List.length_pos_iff] using h1

theorem ofNat_ne_empty (n : Nat) : Hex.ofNat n ≠ "" := fun h => ofNat_ne_nil n (by simp [h])

end PlatformLayer.Net
