/-!
# Hexadecimal text

Bytes are written as two lowercase hex digits each, high digit first; a number is written with
the fewest lowercase hex digits (`0` for zero). Reading hex text takes both cases and needs an
even number of digits. `hex_decode_encode` says that reading back what was written gives the
bytes again.
-/
namespace PlatformLayer

abbrev Bytes := List UInt8

namespace Hex

def digit (n : Nat) : Char :=
  if n < 10 then Char.ofNat (48 + n) else Char.ofNat (87 + n)

def value? (c : Char) : Option Nat :=
  if '0' ≤ c ∧ c ≤ '9' then some (c.toNat - 48)
  else if 'a' ≤ c ∧ c ≤ 'f' then some (c.toNat - 87)
  else if 'A' ≤ c ∧ c ≤ 'F' then some (c.toNat - 55)
  else none

def byteDigits (b : UInt8) : List Char := [digit (b.toNat / 16), digit (b.toNat % 16)]

def encode (bs : Bytes) : String := String.ofList (bs.flatMap byteDigits)

def decodeChars : List Char → Option Bytes
  | [] => some []
  | [_] => none
  | hi :: lo :: rest => do
    let h ← value? hi
    let l ← value? lo
    let tail ← decodeChars rest
    pure ((h * 16 + l).toUInt8 :: tail)

def decode? (s : String) : Option Bytes := decodeChars s.toList

def natDigits (n : Nat) : List Char :=
  if n < 16 then (if n = 0 then [] else [digit n]) else natDigits (n / 16) ++ [digit (n % 16)]
termination_by n
decreasing_by omega

def ofNat (n : Nat) : String :=
  if n = 0 then "0" else String.ofList (natDigits n)

/-- `n` with a `0x` mark, as the alternate hex form writes it (`0x0` for zero). -/
def withMark (n : Nat) : String := "0x" ++ ofNat n

theorem value?_digit_all : ∀ n, n < 16 → value? (digit n) = some n := by decide

theorem value?_digit {n : Nat} (h : n < 16) : value? (digit n) = some n := value?_digit_all n h

theorem decodeChars_byteDigits (b : UInt8) (rest : List Char) :
    decodeChars (byteDigits b ++ rest) = (decodeChars rest).map (b :: ·) := by
  have h1 : b.toNat / 16 < 16 := by have := b.toNat_lt; omega
  have h2 : b.toNat % 16 < 16 := Nat.mod_lt _ (by decide)
  simp only [byteDigits, List.cons_append, List.nil_append, decodeChars, value?_digit h1,
    value?_digit h2]
  cases decodeChars rest with
  | none => rfl
  | some t =>
    simp only [Option.bind_eq_bind, Option.bind_some, Option.map_some]
    congr
    have : b.toNat / 16 * 16 + b.toNat % 16 = b.toNat := by omega
    rw [this]
    exact UInt8.ofNat_toNat

theorem hex_decode_encode (bs : Bytes) : decode? (encode bs) = some bs := by
  simp only [decode?, encode, String.toList_ofList]
  induction bs with
  | nil => rfl
  | cons b rest ih => simp [List.flatMap_cons, decodeChars_byteDigits, ih]

end Hex

end PlatformLayer
