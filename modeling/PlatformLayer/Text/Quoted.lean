import PlatformLayer.Text.Hex
import PlatformLayer.Text.Printable
/-!
# Quoted text

Text is quoted between double quotes: a printing character stands for itself, `"` and `\` take a
backslash, and every other character or byte that does not begin a UTF-8 sequence is escaped with
lowercase hex digits.
-/
namespace PlatformLayer.Quoted

def fixedHex (width n : Nat) : List Char :=
  (List.range width).reverse.map fun i => Hex.digit (n / Nat.pow 16 i % 16)

def escapeChar (c : Char) : List Char :=
  if c = '"' ∨ c = '\\' then ['\\', c]
  else if Printable.printable c then [c]
  else if c = '\x07' then ['\\', 'a']
  else if c = '\x08' then ['\\', 'b']
  else if c = '\x0c' then ['\\', 'f']
  else if c = '\n' then ['\\', 'n']
  else if c = '\r' then ['\\', 'r']
  else if c = '\t' then ['\\', 't']
  else if c = '\x0b' then ['\\', 'v']
  else if c.toNat < 0x20 ∨ c.toNat = 0x7F then '\\' :: 'x' :: fixedHex 2 c.toNat
  else if c.toNat < 0x10000 then '\\' :: 'u' :: fixedHex 4 c.toNat
  else '\\' :: 'U' :: fixedHex 8 c.toNat

/-- A piece of a byte string read as UTF-8: a character, or a byte that starts no well-formed
sequence. -/
inductive Piece where
  | char (c : Char)
  | stray (b : UInt8)
  deriving DecidableEq, Repr

/-- Whether a byte continues a sequence, with its bounds for the first continuation byte. -/
def within (lo hi : UInt8) (b : UInt8) : Bool := lo ≤ b && b ≤ hi

/-- The piece at the front of a non-empty byte string and the number of bytes it takes,
less one. A lead byte picks the length and the range of the first continuation byte; any
byte that does not fit is a stray byte on its own. -/
def lead (b0 : UInt8) (rest : Bytes) : Piece × Fin 4 :=
  let c1 (lo hi : UInt8) (k : Nat) : Option Nat :=
    match rest with
    | b1 :: _ => if within lo hi b1 then some (k * 64 + (b1 &&& 0x3F).toNat) else none
    | [] => none
  let cont (i : Nat) (acc : Nat) : Option Nat :=
    match rest.drop i with
    | b :: _ => if within 0x80 0xBF b then some (acc * 64 + (b &&& 0x3F).toNat) else none
    | [] => none
  let stray : Piece × Fin 4 := (.stray b0, 0)
  if b0 < 0x80 then (.char (Char.ofNat b0.toNat), 0)
  else if 0xC2 ≤ b0 ∧ b0 ≤ 0xDF then
    match c1 0x80 0xBF (b0 &&& 0x1F).toNat with
    | some v => (.char (Char.ofNat v), 1)
    | none => stray
  else if 0xE0 ≤ b0 ∧ b0 ≤ 0xEF then
    let (lo, hi) : UInt8 × UInt8 :=
      if b0 = 0xE0 then (0xA0, 0xBF) else if b0 = 0xED then (0x80, 0x9F) else (0x80, 0xBF)
    match (c1 lo hi (b0 &&& 0x0F).toNat).bind (cont 1) with
    | some v => (.char (Char.ofNat v), 2)
    | none => stray
  else if 0xF0 ≤ b0 ∧ b0 ≤ 0xF4 then
    let (lo, hi) : UInt8 × UInt8 :=
      if b0 = 0xF0 then (0x90, 0xBF) else if b0 = 0xF4 then (0x80, 0x8F) else (0x80, 0xBF)
    match ((c1 lo hi (b0 &&& 0x07).toNat).bind (cont 1)).bind (cont 2) with
    | some v => (.char (Char.ofNat v), 3)
    | none => stray
  else stray

def pieces : Bytes → List Piece
  | [] => []
  | b :: rest =>
    let (p, w) := lead b rest
    p :: pieces (rest.drop w.val)
termination_by bs => bs.length
decreasing_by simp only [List.length_drop, List.length_cons]; omega

def escapePiece : Piece → List Char
  | .char c => escapeChar c
  | .stray b => '\\' :: 'x' :: fixedHex 2 b.toNat

def quote (s : String) : String :=
  String.ofList ('"' :: s.toList.flatMap escapeChar ++ ['"'])

def quoteBytes (bs : Bytes) : String :=
  String.ofList ('"' :: (pieces bs).flatMap escapePiece ++ ['"'])

theorem lead_ascii {b : UInt8} (h : b < 0x80) (rest : Bytes) :
    lead b rest = (.char (Char.ofNat b.toNat), 0) := by
  simp [lead, h]

theorem pieces_ascii (bs : Bytes) (h : ∀ b ∈ bs, b < 0x80) :
    pieces bs = bs.map fun b => .char (Char.ofNat b.toNat) := by
  induction bs with
  | nil => simp [pieces]
  | cons b rest ih =>
    rw [pieces, lead_ascii (h b (by simp))]
    simp only [List.map_cons, List.cons.injEq, true_and]
    exact ih fun x hx => h x (by simp [hx])

theorem quoteBytes_ascii (bs : Bytes) (h : ∀ b ∈ bs, b < 0x80) :
    quoteBytes bs = quote (String.ofList (bs.map fun b => Char.ofNat b.toNat)) := by
  simp only [quoteBytes, quote, pieces_ascii bs h, String.toList_ofList, List.flatMap_map]
  rfl

end PlatformLayer.Quoted
