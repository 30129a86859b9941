/-!
# Integer literals of the command line

A number on the command line is an integer literal: an optional sign, then an optional base
prefix (`0x` hexadecimal, `0o` or a bare leading `0` octal, `0b` binary, in either case), then
digits of that base, which may be separated by single underscores. A literal is read digit by
digit, and the reading stops at the first digit that would carry the value past 64 bits, so a
literal too large for its range is out of range even when a bad character follows.
-/
namespace PlatformLayer

inductive LiteralError where
  | malformed
  | range
  deriving DecidableEq, Repr

def LiteralError.text : LiteralError → String
  | .malformed => "parse error"
  | .range => "value out of range"

namespace IntLiteral

def lower (c : Char) : Char := if 'A' ≤ c ∧ c ≤ 'Z' then Char.ofNat (c.toNat + 32) else c

def digitValue (c : Char) : Option Nat :=
  if '0' ≤ c ∧ c ≤ '9' then some (c.toNat - 48)
  else if 'a' ≤ lower c ∧ lower c ≤ 'z' then some ((lower c).toNat - 87)
  else none

/-- Where an underscore may stand: only between two digits, or between the base prefix and a
digit. `saw` is what came last: 0 the start, 1 a digit or prefix, 2 an underscore, 3 anything
else. -/
def separatorsOk (hex : Bool) : List Char → Nat → Bool
  | [], saw => saw != 2
  | c :: cs, saw =>
    if ('0' ≤ c ∧ c ≤ '9') ∨ (hex ∧ 'a' ≤ lower c ∧ lower c ≤ 'f') then separatorsOk hex cs 1
    else if c = '_' then saw == 1 && separatorsOk hex cs 2
    else saw != 2 && separatorsOk hex cs 3

def underscoresOk (cs : List Char) : Bool :=
  match cs with
  | '0' :: p :: rest =>
    if lower p = 'b' ∨ lower p = 'o' ∨ lower p = 'x' then separatorsOk (lower p = 'x') rest 1
    else separatorsOk false cs 0
  | _ => separatorsOk false cs 0

def splitBase (cs : List Char) : Nat × List Char :=
  match cs with
  | '0' :: p :: d :: rest =>
    if lower p = 'b' then (2, d :: rest)
    else if lower p = 'o' then (8, d :: rest)
    else if lower p = 'x' then (16, d :: rest)
    else (8, p :: d :: rest)
  | '0' :: rest => (8, rest)
  | _ => (10, cs)

/-- Read digits of a base into `n`, up to the largest value `top`. -/
def readDigits (base top : Nat) : List Char → Nat → Except LiteralError Nat
  | [], n => .ok n
  | c :: cs, n =>
    if c = '_' then readDigits base top cs n
    else
      match digitValue c with
      | none => .error .malformed
      | some d =>
        if d ≥ base then .error .malformed
        else if n * base + d > top then .error .range
        else readDigits base top cs (n * base + d)

def parseUnsigned (cs : List Char) : Except LiteralError Nat :=
  if cs.isEmpty then .error .malformed
  else
    let (base, digits) := splitBase cs
    match readDigits base 18446744073709551615 digits 0 with
    | .ok n => if cs.contains '_' ∧ !underscoresOk cs then .error .malformed else .ok n
    | .error e => .error e

def parseSigned (s : String) : Except LiteralError Int :=
  let (neg, cs) := match s.toList with
    | '+' :: rest => (false, rest)
    | '-' :: rest => (true, rest)
    | cs => (false, cs)
  if s.isEmpty then .error .malformed
  else
    match parseUnsigned cs with
    | .error .malformed => .error .malformed
    | .error .range => .error .range
    | .ok n =>
      if !neg ∧ n ≥ 9223372036854775808 then .error .range
      else if neg ∧ n > 9223372036854775808 then .error .range
      else .ok (if neg then -(n : Int) else n)

def parseNat (s : String) : Except LiteralError Nat := parseUnsigned s.toList

example : parseSigned "0x1F" = .ok 31 := by rfl
example : parseSigned "-010" = .ok (-8) := by rfl
example : parseSigned "1_000" = .ok 1000 := by rfl
example : parseSigned "1__0" = .error .malformed := by rfl
example : parseSigned "08" = .error .malformed := by rfl

end IntLiteral

end PlatformLayer
